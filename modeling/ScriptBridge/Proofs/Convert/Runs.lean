import ScriptBridge.Convert.ToForeign
import ScriptBridge.Convert.ToHost
import ScriptBridge.Proofs.Bridge.Operations

/-!
# Conversions run by moves

What conversions read changes nothing; what they make is new objects, lists and dictionaries.
-/

namespace ScriptBridge

open Foreign (ObjRef Object ProxyClass Target Shape)
open Host (Value)
open ScriptBridge.Computation

namespace Bridge

variable {ε : Type} {args : List ObjRef}

/-! ### Reading -/

theorem runs_textOf (r : ObjRef) : (textOf r).Runs args fun _ => [] :=
  .bind .get fun _ => .ofExcept fun _ _ => List.nil_subset _

theorem runs_typeName (r : ObjRef) : (typeName r : Act ε String).Runs args fun _ => [] :=
  .bind .get fun _ => .pure (List.nil_subset _)

theorem runs_qualifiedType (r : ObjRef) :
    (qualifiedType r : Act ε String).Runs args fun _ => [] :=
  .bind .get fun _ => .pure (List.nil_subset _)

theorem runs_inspect (r : ObjRef) : (inspect r).Runs args fun _ => [] :=
  .bind .get fun _ => .ofExcept fun _ _ => List.nil_subset _

/-- The items of an object are read only by the scripted interpreter. -/
theorem runs_itemsOf (r : ObjRef) : (itemsOf r).Runs args fun _ => [] := by
  refine .bind_get fun b hb _ => ?_
  dsimp only
  rw [hb.scripted]
  cases (b.objects.get r).elements? with
  | none => exact .fail
  | some items => exact .pure (List.nil_subset _)

theorem runs_pairsOf (r : ObjRef) : (pairsOf r).Runs args fun _ => [] := by
  refine .bind_get fun b hb _ => ?_
  dsimp only
  rw [hb.scripted]
  split
  · exact .pure (List.nil_subset _)
  · exact .pure (List.nil_subset _)
  · exact .fail
  · contradiction
  · contradiction

end Bridge

namespace Convert

variable {args : List ObjRef}

/-! ### Texts -/

theorem runs_unsupported {α : Type} {kept : α → List ObjRef} (r : ObjRef) :
    (unsupported r : Act ConvertError α).Runs args kept :=
  .bind (Bridge.runs_typeName r) fun _ => .fail

theorem runs_keyOf (r : ObjRef) : (keyOf r).Runs args fun _ => [] := by
  have hkey (key : String) : Act.Runs args
      (if key.isEmpty then Act.fail .emptyKey else pure key : Act ConvertError String)
      fun _ => [] := by
    split
    · exact .fail
    · exact .pure (List.nil_subset _)
  refine .bind (.mapError (Bridge.runs_inspect r)) fun shape => ?_
  split
  iterate 5 exact hkey _
  · exact .bind (Bridge.runs_typeName r) fun _ => .fail_bind

theorem runs_stringOf (r : ObjRef) : (stringOf r).Runs args fun _ => [] := by
  refine .bind (.mapError (Bridge.runs_inspect r)) fun shape => ?_
  split
  · exact .pure (List.nil_subset _)
  · exact .pure (List.nil_subset _)
  · exact runs_unsupported r

theorem runs_lineToForeign (line : String) : (lineToForeign line).Runs args fun r => [r] :=
  .alloc (.of_not_proxy trivial rfl) (List.nil_subset _)

theorem runs_lineFromForeign (r : ObjRef) : (lineFromForeign r).Runs args fun _ => [] := by
  refine .bind (runs_stringOf r) fun text => ?_
  split
  · exact .fail
  · exact .pure (List.nil_subset _)

theorem runs_linesFromForeign (r : ObjRef) : (linesFromForeign r).Runs args fun _ => [] := by
  refine .bind (.mapError (Bridge.runs_inspect r)) fun shape => ?_
  have hitems : Act.Runs ([] ++ args) (do
      let items ← Bridge.itemsOf r
      items.mapM lineFromForeign : Act ConvertError (List String)) fun _ => [] :=
    .bind (.mapError (Bridge.runs_itemsOf r)) fun items =>
      .mono (.mapM fun item _ => runs_lineFromForeign item) (List.Subset.refl _)
        fun _ => List.nil_subset _
  split
  iterate 2 exact .bind (runs_lineFromForeign r) fun _ => .pure (List.nil_subset _)
  iterate 3 exact hitems
  · exact runs_unsupported r

theorem runs_linesToForeign (lines : List String) :
    (linesToForeign lines).Runs args fun r => [r] :=
  .bind (.mapM fun line _ => runs_lineToForeign line) fun items =>
    .alloc (.of_not_proxy trivial rfl) (by simp [Object.references])

/-! ### From the editor to the interpreter -/

theorem runs_newEntry {kind : Foreign.InterpreterKind} (key : String) {value : ObjRef}
    (hvalue : value ∈ args) :
    (newEntry kind key value).Runs args fun e => [e.1, e.2] := by
  unfold newEntry
  exact .guard (.bind (.alloc (.of_not_proxy trivial rfl) (List.nil_subset _)) fun _ =>
    .pure (by simp [hvalue]))

theorem runs_copyWithin (depth : Nat) (path : List Container) (v : Value) :
    (copyWithin depth path v).Runs args fun r => [r] := by
  induction depth generalizing args path v with
  | zero =>
    cases v with
    | null | number n | float x | str s =>
      rw [copyWithin]
      exact .alloc (.of_not_proxy trivial rfl) (List.nil_subset _)
    | func name bound =>
      rw [copyWithin]
      exact .alloc (Object.plain_proxy rfl rfl) (List.nil_subset _)
    | list l | dict d =>
      rw [copyWithin]
      · exact .fail
      all_goals nofun
  | succ depth ih =>
    cases v with
    | null | number n | float x | str s =>
      rw [copyWithin]
      exact .alloc (.of_not_proxy trivial rfl) (List.nil_subset _)
    | func name bound =>
      rw [copyWithin]
      exact .alloc (Object.plain_proxy rfl rfl) (List.nil_subset _)
    | list l =>
      rw [copyWithin]
      refine .guard (.bind .get fun b => .bind (.mapM fun v _ => ih _ v) fun copies => ?_)
      exact .alloc (.of_not_proxy trivial rfl) (by simp [Object.references])
    | dict d =>
      rw [copyWithin]
      have hcopies (args : List ObjRef) (entries : List (String × Value)) :
          Act.Runs args (entries.mapM fun e => do
            return (e.1, ← copyWithin depth (.dict d :: path) e.2) : Act ConvertError _)
            fun copies => copies.flatMap fun e => [e.2] :=
        .mapM fun e _ => .bind (ih _ e.2) fun r => .pure (by simp)
      refine .guard (.bind .get fun b => .bind (hcopies _ _) fun copies => .bind .get fun b => ?_)
      refine .bind (.mapM fun e he => .mapError (runs_newEntry e.1 ?_)) fun pairs => ?_
      · exact List.mem_append_right _ (List.mem_append_left _ (by simp; exact ⟨_, he⟩))
      · exact .alloc (.of_not_proxy trivial rfl) (by simp [Object.references])

theorem runs_toForeign (v : Value) : (toForeign v).Runs args fun r => [r] :=
  .bind .get fun _ => runs_copyWithin _ _ v

theorem runs_toForeignBound (v : Value) : (toForeignBound v).Runs args fun r => [r] := by
  cases v with
  | list l | dict d => exact .alloc (Object.plain_proxy rfl rfl) (List.nil_subset _)
  | null | number n | float x | str s | func name bound => exact runs_toForeign _

/-! ### From the interpreter to the editor -/

/-- A step of a conversion that changes the bridge by moves only, and keeps in use what was. -/
def Converting.Runs {α : Type} (a : Converting α) : Prop :=
  ∀ s : Conversion × Bridge, s.2.Sound →
    s.2.Moves (final (a s)).2 ∧ s.2.held ⊆ (final (a s)).2.held

namespace Converting

variable {α β : Type}

namespace Runs

theorem pure (x : α) : (Pure.pure x : Converting α).Runs :=
  fun _ _ => ⟨.refl, List.Subset.refl _⟩

theorem fail (e : ConvertError) : (Converting.fail e : Converting α).Runs :=
  fun _ _ => ⟨.refl, List.Subset.refl _⟩

/-- A check in front of a computation. -/
theorem guard {c : Prop} [Decidable c] {e : ConvertError} {f : Unit → Converting α}
    (hf : (f ()).Runs) : (if c then Converting.fail e >>= f else f ()).Runs := by
  split
  · exact fun _ _ => ⟨.refl, List.Subset.refl _⟩
  · exact hf

theorem get : (MonadState.get : Converting (Conversion × Bridge)).Runs :=
  fun _ _ => ⟨.refl, List.Subset.refl _⟩

theorem note (f : Conversion → Conversion) : (Converting.note f).Runs :=
  fun _ _ => ⟨.refl, List.Subset.refl _⟩

theorem bind {a : Converting α} {f : α → Converting β} (ha : a.Runs) (hf : ∀ x, (f x).Runs) :
    (a >>= f).Runs := by
  intro s hs
  have hfirst := ha s hs
  rw [bind_apply]
  cases h : a s with
  | ok x s' =>
    rw [h] at hfirst
    have hrest := hf x s' (hfirst.1.sound hs)
    exact ⟨hfirst.1.trans hrest.1, List.Subset.trans hfirst.2 hrest.2⟩
  | error e s' =>
    rw [h] at hfirst
    exact hfirst

theorem attempt {a : Converting α} (ha : a.Runs) :
    Converting.Runs (Act.attempt a : Converting (Except ConvertError α)) := by
  intro s hs
  have hreaches := ha s hs
  unfold Act.attempt
  cases h : a s with
  | ok x s' =>
    rw [h] at hreaches
    exact hreaches
  | error stop s' =>
    rw [h] at hreaches
    cases stop <;> exact hreaches

theorem lift {a : Act ConvertError α} {kept : α → List ObjRef} (ha : a.Runs [] kept) :
    (Converting.lift a).Runs := by
  rintro ⟨c, b⟩ hb
  have hreaches : b.Reaches (fun x b' => kept x ⊆ b'.held) (a b) := ha b hb (List.nil_subset _)
  unfold Converting.lift
  dsimp only
  generalize a b = outcome at hreaches ⊢
  cases hreaches with
  | ok hmoves hheld => exact ⟨hmoves, hheld⟩
  | error hmoves hheld => exact ⟨hmoves, hheld⟩

end Runs

variable {convert : ObjRef → Converting Value}

theorem runs_container {body : ObjRef → Converting Value} (hbody : ∀ r, (body r).Runs)
    (r : ObjRef) : (container body r).Runs := by
  refine .bind .get fun s => ?_
  obtain ⟨c, b⟩ := s
  dsimp only
  split
  · exact .pure _
  · refine .guard (.bind (.note _) fun _ => .bind (.attempt (hbody r)) fun result => ?_)
    refine .bind (.note _) fun _ => ?_
    cases result with
    | ok v => exact .bind (.note _) fun _ => .pure _
    | error e => exact .fail e

theorem runs_entry {label : Act ConvertError String} (hlabel : label.Runs [] fun _ => [])
    {a : Converting α} (ha : a.Runs) : (entry label a).Runs := by
  refine .bind (.attempt ha) fun result => ?_
  cases result with
  | ok x => exact .pure _
  | error e =>
    refine .bind .get fun s => ?_
    split
    · exact .bind (.lift hlabel) fun _ => .bind (.note _) fun _ => .pure _
    · exact .fail e

theorem runs_itemsFrom (hconvert : ∀ r, (convert r).Runs) (i : Nat) (rs : List ObjRef) :
    (itemsFrom convert i rs).Runs := by
  induction rs generalizing i with
  | nil => exact .pure _
  | cons r rest ih =>
    exact .bind (runs_entry (.pure (List.nil_subset _)) (hconvert r)) fun _ =>
      .bind (ih (i + 1)) fun _ => .pure _

theorem runs_sequence (hconvert : ∀ r, (convert r).Runs) (r : ObjRef) :
    (sequence convert r).Runs :=
  .bind (.lift (.mapError (Bridge.runs_itemsOf r))) fun items =>
    .bind (runs_itemsFrom hconvert 0 items) fun _ => .bind (.lift .newList) fun _ => .pure _

theorem runs_keyLabel (r : ObjRef) : (keyLabel r).Runs [] fun _ => [] := by
  refine .bind .get fun b => ?_
  split
  · exact .pure (List.nil_subset _)
  · exact Bridge.runs_typeName r

theorem runs_entriesOnto (hconvert : ∀ r, (convert r).Runs) (entries : List (String × Value))
    (rs : List (ObjRef × ObjRef)) : (entriesOnto convert entries rs).Runs := by
  induction rs generalizing entries with
  | nil => exact .pure _
  | cons e rest ih =>
    obtain ⟨k, r⟩ := e
    refine .bind (runs_entry (runs_keyLabel k) (.bind (.lift (runs_keyOf k)) fun _ =>
      .bind (hconvert r) fun _ => .pure _)) fun converted => ?_
    cases converted with
    | some e => exact ih _
    | none => exact ih _

theorem runs_mapping (hconvert : ∀ r, (convert r).Runs) (r : ObjRef) : (mapping convert r).Runs :=
  .bind (.lift (.mapError (Bridge.runs_pairsOf r))) fun pairs =>
    .bind (runs_entriesOnto hconvert [] pairs) fun _ => .bind (.lift .newDict) fun _ => .pure _

theorem runs_textOr (typeName : String) (r : ObjRef) : (textOr typeName r).Runs := by
  refine .bind .get fun s => ?_
  split
  · exact .pure _
  · exact .fail _

theorem runs_proxy (r : ObjRef) (cls : ProxyClass) (t : Target) : (proxy r cls t).Runs := by
  unfold proxy
  split
  iterate 6 exact .pure _
  · exact .fail _
  · exact runs_textOr _ r

/-- A conversion changes nothing but the containers of the editor. -/
theorem runs_convertWithin (depth : Nat) (r : ObjRef) : (convertWithin depth r).Runs := by
  induction depth generalizing r with
  | zero => exact .fail _
  | succ depth ih =>
    refine .bind (.lift (.mapError (Bridge.runs_inspect r))) fun shape => ?_
    split
    · exact runs_proxy r _ _
    iterate 6 exact .pure _
    iterate 2 exact runs_container (runs_mapping ih) r
    iterate 3 exact runs_container (runs_sequence ih) r
    iterate 2 exact .bind (.lift (Bridge.runs_typeName r)) fun _ => runs_textOr _ r

end Converting

theorem runs_toHostWith (skip : Bool) (r : ObjRef) :
    (toHostWith skip r).Runs args fun _ => [] := by
  intro b hb _
  have hruns := Converting.runs_convertWithin (b.objects.cells.size + 1) r ({ skip }, b) hb
  unfold Act.RunsFrom toHostWith
  cases h : Converting.convertWithin (b.objects.cells.size + 1) r ({ skip }, b) with
  | ok v s =>
    rw [h] at hruns
    exact .ok hruns.1 hruns.2 (List.nil_subset _)
  | error e s =>
    rw [h] at hruns
    exact .error hruns.1 hruns.2

theorem runs_toHost (r : ObjRef) : (toHost r).Runs args fun _ => [] :=
  .bind (runs_toHostWith false r) fun _ => .pure (List.nil_subset _)

end Convert

end ScriptBridge
