import ScriptBridge.Proofs.Convert.Objects
import ScriptBridge.Proofs.Foreign.Slice

/-!
# Steps of conversions

What a conversion does with one object over the scripted interpreter: a leaf has its value or
fails, a container is looked up among those that are done, and a key gives its text.
-/

namespace ScriptBridge.Convert

open Foreign (ObjRef Object Objects Contents Shape)
open Host (Value Store)
open ScriptBridge.Computation
open Relation (ReflTransGen TransGen)

namespace Converting

variable {α β : Type} {b : Bridge} {c : Conversion} {r : ObjRef}

theorem lift_apply (a : Act ConvertError α) (c : Conversion) (b : Bridge) :
    lift a (c, b) = match a b with
      | .ok x b => .ok x (c, b)
      | .error e b => .error e (c, b) := rfl

theorem liftForeign_apply (a : Act ForeignError α) (c : Conversion) (b : Bridge) :
    (liftM a : Converting α) (c, b) = match a b with
      | .ok x b => .ok x (c, b)
      | .error e b => .error (e.map .foreign) (c, b) := by
  change lift (a.mapError .foreign) (c, b) = _
  rw [lift_apply, Act.mapError]
  cases a b <;> rfl

theorem inspect_apply (c : Conversion) (b : Bridge) (r : ObjRef) :
    (liftM (Bridge.inspect r) : Converting Shape) (c, b) = match (b.objects.get r).shape with
      | .ok x => .ok x (c, b)
      | .error e => .error (.error (.foreign e)) (c, b) := by
  rw [liftForeign_apply]
  unfold Bridge.inspect
  rw [bind_apply, get_apply]
  dsimp only
  cases (b.objects.get r).shape <;> rfl

theorem inspect_bind {x : Shape} (h : (b.objects.get r).shape = .ok x) (f : Shape → Converting α) :
    ((liftM (Bridge.inspect r) : Converting Shape) >>= f) (c, b) = f x (c, b) := by
  rw [bind_apply, inspect_apply, h]

theorem inspect_bind_error {e : ForeignError} (h : (b.objects.get r).shape = .error e)
    (f : Shape → Converting α) :
    ((liftM (Bridge.inspect r) : Converting Shape) >>= f) (c, b) =
      .error (.error (.foreign e)) (c, b) := by
  rw [bind_apply, inspect_apply, h]

theorem textOr_apply (hkind : b.interpreter.kind = .scripted) (typeName : String) :
    textOr typeName r (c, b) = match b.scriptedText r with
      | .ok s => .ok (.str s) (c, b)
      | .error _ => .error (.error (.unsupported typeName)) (c, b) := by
  unfold textOr
  rw [bind_apply, get_apply]
  dsimp only
  rw [Bridge.text, hkind]
  dsimp only
  cases b.scriptedText r <;> rfl

theorem identical_eq (hkind : b.interpreter.kind = .scripted) (q : ObjRef) :
    b.identical q r = decide (q = r) := by
  have hlibrary : decide (b.interpreter.kind = .library) = false := by
    rw [hkind]
    rfl
  unfold Bridge.identical
  rw [hlibrary, Bool.false_and, Bool.or_false]

/-- What the conversion of a container does: it is done, or it is being done, or it is done now. -/
theorem container_apply (hkind : b.interpreter.kind = .scripted)
    (body : ObjRef → Converting Value) : container body r (c, b) =
      match c.done.find? fun e => e.1 = r with
      | some (_, v) => .ok v (c, b)
      | none =>
        if r ∈ c.active then .error (.error .recursive) (c, b)
        else match body r ({ c with active := r :: c.active }, b) with
          | .ok v (c', b') =>
            .ok v ({ c' with active := c'.active.erase r, done := (r, v) :: c'.done }, b')
          | .error (.error e) (c', b') =>
            .error (.error e) ({ c' with active := c'.active.erase r }, b')
          | .error .crash s => .error .crash s := by
  unfold container
  rw [bind_apply, get_apply]
  dsimp only
  simp only [identical_eq hkind]
  cases c.done.find? fun e => e.1 = r with
  | some e => rfl
  | none =>
    dsimp only
    by_cases hactive : r ∈ c.active
    · rw [if_pos hactive, if_pos hactive]
      rfl
    · rw [if_neg hactive, if_neg hactive]
      change (Act.attempt (body r) >>= _) ({ c with active := r :: c.active }, b) = _
      rw [bind_apply, Act.attempt]
      cases body r ({ c with active := r :: c.active }, b) with
      | ok v s => rfl
      | error stop s => cases stop <;> rfl

theorem find?_done_eq_none (hdone : ∀ v, (r, v) ∉ c.done) :
    (c.done.find? fun e => e.1 = r) = none := by
  rw [List.find?_eq_none]
  rintro ⟨q, v⟩ hmem hq
  have hq : q = r := by simpa using hq
  exact hdone v (hq ▸ hmem)

theorem entry_ok {label : Act ConvertError String} {a : Converting α} {x : α}
    {t t' : Conversion × Bridge} (h : a t = .ok x t') : entry label a t = .ok (some x) t' := by
  unfold entry
  rw [bind_apply, Act.attempt, h]
  rfl

/-- In a strict conversion the failure of an entry is that of the conversion. -/
theorem entry_error {label : Act ConvertError String} {a : Converting α} {e : ConvertError}
    {t t' : Conversion × Bridge} (h : a t = .error (.error e) t') (hstrict : t'.1.skip = false) :
    entry label a t = .error (.error e) t' := by
  unfold entry
  rw [bind_apply, Act.attempt, h]
  dsimp only
  rw [bind_apply, get_apply]
  dsimp only
  rw [hstrict]
  rfl

/-- How a conversion of a leaf ends. -/
def LeafEnds (b : Bridge) (c : Conversion) (r : ObjRef)
    (outcome : EStateM.Result (Stop ConvertError) (Conversion × Bridge) Value) : Prop :=
  match b.leafValue? r with
  | some v => outcome = .ok v (c, b)
  | none => ∃ e t, outcome = .error (.error e) t ∧ t.1.skip = c.skip

theorem leafEnds_textOr (hkind : b.interpreter.kind = .scripted) (typeName : String)
    (hleaf : b.leafValue? r = (b.scriptedText r).toOption.map .str) :
    LeafEnds b c r (textOr typeName r (c, b)) := by
  unfold LeafEnds
  rw [hleaf, textOr_apply hkind]
  cases b.scriptedText r with
  | ok s => rfl
  | error e => exact ⟨_, _, rfl, rfl⟩

theorem itemsOf_apply (hkind : b.interpreter.kind = .scripted) :
    (liftM (Bridge.itemsOf r) : Converting (List ObjRef)) (c, b) =
      match (b.objects.get r).elements? with
      | some rs => .ok rs (c, b)
      | none => .error (.error (.foreign (.exception .type ("'" ++
          (b.objects.get r).qualifiedType .scripted ++ "' object is not a sequence")))) (c, b) := by
  rw [liftForeign_apply]
  unfold Bridge.itemsOf
  rw [bind_apply, get_apply]
  dsimp only
  rw [hkind]
  cases (b.objects.get r).elements? <;> rfl

theorem pairsOf_apply (hkind : b.interpreter.kind = .scripted) :
    (liftM (Bridge.pairsOf r) : Converting (List (ObjRef × ObjRef))) (c, b) =
      match (b.objects.get r).contents? with
      | some (.entries ps) => .ok ps (c, b)
      | _ => .error (.error (.foreign (.exception .type ("'" ++
          (b.objects.get r).qualifiedType .scripted ++ "' object is not a mapping")))) (c, b) := by
  rw [liftForeign_apply]
  unfold Bridge.pairsOf
  rw [bind_apply, get_apply]
  dsimp only
  rw [hkind]
  cases b.objects.get r <;> rfl

/-- Objects that are no containers are converted to their values, or fail. -/
theorem convertWithin_leaf (hkind : b.interpreter.kind = .scripted) (depth : Nat)
    (hcontents : (b.objects.get r).contents? = none) (hdone : ∀ v, (r, v) ∉ c.done) :
    LeafEnds b c r (convertWithin (depth + 1) r (c, b)) := by
  -- an object that has the shape of a container and holds nothing
  have hcontainer {x : Object} (hx : b.objects.get r = x) {body : ObjRef → Converting Value}
      (hleaf : b.leafValue? r = none)
      (hbody : ∀ c', ∃ e, body r (c', b) = .error (.error e) (c', b)) :
      LeafEnds b c r (container body r (c, b)) := by
    obtain ⟨e, he⟩ := hbody { c with active := r :: c.active }
    unfold LeafEnds
    rw [hleaf, container_apply hkind, find?_done_eq_none hdone, he]
    dsimp only
    split
    · exact ⟨_, _, rfl, rfl⟩
    · exact ⟨_, _, rfl, rfl⟩
  rw [convertWithin]
  cases hx : b.objects.get r with
  | null | bool x | float x | bytes bs | str s | halved places =>
    rw [inspect_bind (by rw [hx]; rfl)]
    simp only [LeafEnds, Bridge.leafValue?, hx]
    rfl
  | int n =>
    by_cases hfits : Text.fitsInt64 n = true
    · rw [inspect_bind (by rw [hx, Object.shape, if_pos hfits])]
      simp only [LeafEnds, Bridge.leafValue?, hx, if_pos hfits]
      rfl
    · rw [inspect_bind_error (by rw [hx, Object.shape, if_neg hfits])]
      simp only [LeafEnds, Bridge.leafValue?, hx, if_neg hfits]
      exact ⟨_, _, rfl, rfl⟩
  | list rs | tuple rs | sequence rs | dict ps | mapping ps =>
    rw [hx] at hcontents
    cases hcontents
  | slice start stop step =>
    by_cases hstep : step = some 0
    · subst hstep
      rw [inspect_bind_error (e := Foreign.Slice.zeroStep) (by rw [hx]; rfl)]
      simp only [LeafEnds, Bridge.leafValue?, hx, if_true]
      exact ⟨_, _, rfl, rfl⟩
    · rw [inspect_bind (by rw [hx, Foreign.Slice.shape_slice hstep])]
      refine leafEnds_textOr hkind _ ?_
      simp only [Bridge.leafValue?, hx, if_neg hstep]
  | proxy cls t =>
    rw [inspect_bind (by rw [hx]; rfl)]
    dsimp only
    unfold proxy
    cases t with
    | dict d | list l | function name bound | buffer id | window id | tabPage id =>
      simp only [LeafEnds, Bridge.leafValue?, hx]
      rfl
    | invalid =>
      simp only [LeafEnds, Bridge.leafValue?, hx]
      exact ⟨_, _, rfl, rfl⟩
    | _ => exact leafEnds_textOr hkind _ (by rw [Bridge.leafValue?, hx])
  | counting n | unsized =>
    rw [inspect_bind (by rw [hx]; rfl)]
    refine hcontainer hx (by rw [Bridge.leafValue?, hx]) fun c' => ?_
    exact ⟨_, by rw [sequence, bind_apply, itemsOf_apply hkind, hx]; rfl⟩
  | triples items | mirror cls =>
    rw [inspect_bind (by rw [hx]; rfl)]
    refine hcontainer hx (by rw [Bridge.leafValue?, hx]) fun c' => ?_
    exact ⟨_, by rw [mapping, bind_apply, pairsOf_apply hkind, hx]; rfl⟩
  | _ =>
    rw [inspect_bind (by rw [hx]; rfl)]
    exact leafEnds_textOr hkind _ (by rw [Bridge.leafValue?, hx])

/-- What is converted item by item. -/
theorem convertWithin_items {rs : List ObjRef} {depth : Nat}
    (h : (b.objects.get r).contents? = some (.items rs)) : convertWithin (depth + 1) r (c, b) =
      container (sequence (convertWithin depth)) r (c, b) := by
  have hshape : ∃ x, (b.objects.get r).shape = .ok x ∧
      (x = .list ∨ x = .tuple ∨ x = .other false true) := by
    generalize b.objects.get r = x at h
    cases x <;> cases h <;> exact ⟨_, rfl, by simp⟩
  obtain ⟨x, hx, hshape⟩ := hshape
  rw [convertWithin, inspect_bind hx]
  rcases hshape with rfl | rfl | rfl <;> rfl

/-- What is converted entry by entry. -/
theorem convertWithin_entries {ps : List (ObjRef × ObjRef)} {depth : Nat}
    (h : (b.objects.get r).contents? = some (.entries ps)) : convertWithin (depth + 1) r (c, b) =
      container (mapping (convertWithin depth)) r (c, b) := by
  have hshape : ∃ x, (b.objects.get r).shape = .ok x ∧ (x = .dict ∨ x = .other true false) := by
    generalize b.objects.get r = x at h
    cases x <;> cases h <;> exact ⟨_, rfl, by simp⟩
  obtain ⟨x, hx, hshape⟩ := hshape
  rw [convertWithin, inspect_bind hx]
  rcases hshape with rfl | rfl <;> rfl

end Converting

/-- The key that an object gives. -/
theorem keyOf_apply (b : Bridge) (r : ObjRef) : match (b.objects.get r).keyText? with
    | some key => keyOf r b = if key.isEmpty then .error (.error .emptyKey) b else .ok key b
    | none => ∃ e, keyOf r b = .error (.error e) b := by
  have hinspect : (liftM (Bridge.inspect r) : Act ConvertError Shape) b =
      match (b.objects.get r).shape with
      | .ok x => .ok x b
      | .error e => .error (.error (.foreign e)) b := by
    change Act.mapError ConvertError.foreign (Bridge.inspect r) b = _
    unfold Bridge.inspect
    rw [Act.mapError, bind_apply, get_apply]
    dsimp only
    cases (b.objects.get r).shape <;> rfl
  have hkey (key : String) : (do
      if key.isEmpty then Act.fail .emptyKey else pure key : Act ConvertError String) b =
        if key.isEmpty then .error (.error .emptyKey) b else .ok key b := by
    split <;> rfl
  unfold keyOf
  rw [bind_apply, hinspect]
  cases hx : b.objects.get r with
  | str t => exact hkey t
  | halved places => exact hkey _
  | bytes bs => exact hkey _
  | bool x => exact hkey _
  | float x => exact hkey _
  | int n =>
    by_cases hfits : Text.fitsInt64 n = true
    · have htext : toString (Int64.ofInt n).toInt = toString n := by rw [Text.toInt_ofInt hfits]
      rw [Object.keyText?, if_pos hfits, Object.shape, if_pos hfits, ← htext]
      exact hkey _
    · rw [Object.keyText?, if_neg hfits, Object.shape, if_neg hfits]
      exact ⟨_, rfl⟩
  | slice start stop step =>
    by_cases hstep : step = some 0
    · subst hstep
      exact ⟨_, rfl⟩
    · rw [Foreign.Slice.shape_slice hstep]
      exact ⟨_, rfl⟩
  | _ => exact ⟨_, rfl⟩

end ScriptBridge.Convert
