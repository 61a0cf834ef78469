import ScriptBridge.Proofs.Convert.Leniency
import ScriptBridge.Proofs.Proxy.ListHandle

/-!
# What lenient conversions leave out

A lenient conversion goes through the parts of a container one after another. It notes a part
exactly if the part fails, after all that it has noted within that part.
-/

namespace ScriptBridge.Convert

open Foreign (ObjRef ProxyClass Target)
open Host (Value)
open ScriptBridge.Computation

/-- A part that is left out: its position or its key, and why it fails. -/
abbrev Note := String × ConvertError

/-- The same state, but one more part is noted. -/
def Conversion.noting (c : Conversion) (n : Note) : Conversion :=
  { c with skipped := c.skipped ++ [n] }

/-- The same state, but a container is being converted. -/
def Conversion.entering (c : Conversion) (r : ObjRef) : Conversion :=
  { c with active := r :: c.active }

/-- Whether a container is entered: it has not been converted, and is not being converted. -/
def Conversion.enters (c : Conversion) (b : Bridge) (r : ObjRef) : Bool :=
  (c.done.find? fun e => b.identical e.1 r).isNone && r ∉ c.active

namespace Converting

variable {α β γ : Type} {b b' : Bridge} {c c' : Conversion} {r : ObjRef} {log : List Note}

/-- What is left out while parts are converted one after another. -/
inductive Leaves (label : γ → Act ConvertError String) (run : γ → Converting β)
    (within : γ → Conversion × Bridge → List Note → Prop) :
    List γ → Conversion × Bridge → List Note → Prop
  | nil (t : Conversion × Bridge) : Leaves label run within [] t []
  | kept {x : γ} {xs : List γ} {y : β} {t t' : Conversion × Bridge} {log log' : List Note}
    (hrun : run x t = .ok y t') (hwithin : within x t log)
    (hrest : Leaves label run within xs t' log') : Leaves label run within (x :: xs) t (log ++ log')
  | failed {x : γ} {xs : List γ} {e : ConvertError} {t : Conversion × Bridge} {c : Conversion}
    {b : Bridge} {l : String} {log log' : List Note}
    (hrun : run x t = .error (.error e) (c, b)) (hlabel : label x b = .ok l b)
    (hwithin : within x t log)
    (hrest : Leaves label run within xs (c.noting (l, e), b) log') :
    Leaves label run within (x :: xs) t (log ++ (l, e) :: log')

/-- What is left out after a first step that notes nothing: nothing, if that step fails. -/
def omitsAfter {ε : Type} (a : Act ε α) (omits : α → Conversion × Bridge → List Note → Prop)
    (t : Conversion × Bridge) (log : List Note) : Prop :=
  match a t.2 with
  | .ok x b => omits x (t.1, b) log
  | .error _ _ => log = []

/-- It does not matter how the first step fails. -/
theorem omitsAfter_mapError {ε δ : Type} (a : Act ε α) (g : ε → δ)
    (omits : α → Conversion × Bridge → List Note → Prop) :
    omitsAfter (a.mapError g) omits = omitsAfter a omits := by
  funext t log
  unfold omitsAfter
  rw [Act.mapError]
  cases a t.2 <;> rfl

/-- What is left out of the items of a sequence. -/
def sequenceOmits (convert : ObjRef → Converting Value)
    (omits : ObjRef → Conversion × Bridge → List Note → Prop) (r : ObjRef) :
    Conversion × Bridge → List Note → Prop :=
  omitsAfter (Bridge.itemsOf r) fun rs =>
    Leaves (fun p => pure (toString p.2)) (fun p => convert p.1) (fun p => omits p.1) rs.zipIdx

/-- Converts an entry of a mapping. -/
def convertEntry (convert : ObjRef → Converting Value) (p : ObjRef × ObjRef) :
    Converting (String × Value) := do
  let key ← keyOf p.1
  let v ← convert p.2
  pure (key, v)

/-- What is left out of the entries of a mapping. -/
def mappingOmits (convert : ObjRef → Converting Value)
    (omits : ObjRef → Conversion × Bridge → List Note → Prop) (r : ObjRef) :
    Conversion × Bridge → List Note → Prop :=
  omitsAfter (Bridge.pairsOf r) fun ps =>
    Leaves (fun p => keyLabel p.1) (convertEntry convert)
      (fun p => omitsAfter (keyOf p.1) fun _ => omits p.2) ps

/-- What is left out of a container: nothing, unless it is entered. -/
def containerOmits (omits : Conversion × Bridge → List Note → Prop) (r : ObjRef)
    (t : Conversion × Bridge) (log : List Note) : Prop :=
  if t.1.enters t.2 r then omits (t.1.entering r, t.2) log else log = []

/-- What is left out while an object is converted. -/
def Omits : Nat → ObjRef → Conversion × Bridge → List Note → Prop
  | 0, _, _, log => log = []
  | depth + 1, r, t, log =>
    match (t.2.objects.get r).shape with
    | .ok .dict | .ok (.other true _) =>
      containerOmits (mappingOmits (convertWithin depth) (Omits depth) r) r t log
    | .ok .list | .ok .tuple | .ok (.other false true) =>
      containerOmits (sequenceOmits (convertWithin depth) (Omits depth) r) r t log
    | _ => log = []

/-- A part of a lenient conversion ends, and has noted some parts more. -/
inductive Notes (c : Conversion) (log : List Note) :
    EStateM.Result (Stop ConvertError) (Conversion × Bridge) α → Prop
  | ok {x : α} {c' : Conversion} {b' : Bridge} (hskip : c'.skip = true)
    (hskipped : c'.skipped = c.skipped ++ log) : Notes c log (.ok x (c', b'))
  | error {e : ConvertError} {c' : Conversion} {b' : Bridge} (hskip : c'.skip = true)
    (hskipped : c'.skipped = c.skipped ++ log) : Notes c log (.error (.error e) (c', b'))

/-- A part of a conversion notes what is left out within it. -/
def Records (a : Converting α) (omits : Conversion × Bridge → List Note → Prop) : Prop :=
  ∀ c b, c.skip = true → ∃ log, omits (c, b) log ∧ Notes c log (a (c, b))

variable {convert : ObjRef → Converting Value}
  {omits : ObjRef → Conversion × Bridge → List Note → Prop}

theorem Notes.after {log' : List Note}
    {outcome : EStateM.Result (Stop ConvertError) (Conversion × Bridge) α}
    (hskipped : c'.skipped = c.skipped ++ log) (h : Notes c' log' outcome) :
    Notes c (log ++ log') outcome := by
  cases h with
  | ok hskip h => exact .ok hskip (by rw [h, hskipped, List.append_assoc])
  | error hskip h => exact .error hskip (by rw [h, hskipped, List.append_assoc])

theorem notes_pure (x : α) (hskip : c.skip = true) :
    Notes c [] ((pure x : Converting α) (c, b)) := .ok hskip (List.append_nil _).symm

theorem notes_fail (e : ConvertError) (hskip : c.skip = true) :
    Notes c [] ((fail e : Converting α) (c, b)) := .error hskip (List.append_nil _).symm

namespace Records

theorem pure (x : α) : Records (Pure.pure x) (fun _ log => log = []) :=
  fun _ _ hskip => ⟨[], rfl, notes_pure x hskip⟩

theorem fail (e : ConvertError) :
    Records (Converting.fail e : Converting α) (fun _ log => log = []) :=
  fun _ _ hskip => ⟨[], rfl, notes_fail e hskip⟩

/-- Reading an object notes nothing. -/
theorem lift_bind {a : Act ConvertError α} {f : α → Converting β}
    {post : α → Conversion × Bridge → List Note → Prop} (ha : a.Steady)
    (hf : ∀ x, Records (f x) (post x)) : Records (lift a >>= f) (omitsAfter a post) := by
  intro c b hskip
  unfold omitsAfter
  rw [bind_apply, lift_apply]
  dsimp only
  cases h : a b with
  | ok x b' => exact hf x c b' hskip
  | error stop b' =>
    cases stop with
    | error e => exact ⟨[], rfl, .error hskip (List.append_nil _).symm⟩
    | crash => exact absurd ⟨b', h⟩ (ha b)

/-- The interpreter is asked first. -/
theorem liftForeign_bind {a : Act ForeignError α} {f : α → Converting β}
    {post : α → Conversion × Bridge → List Note → Prop} (ha : a.Steady)
    (hf : ∀ x, Records (f x) (post x)) : Records (liftM a >>= f) (omitsAfter a post) := by
  have hread : Records (lift (a.mapError .foreign) >>= f)
      (omitsAfter (a.mapError ConvertError.foreign) post) := lift_bind (ha.mapError _) hf
  rwa [omitsAfter_mapError] at hread

/-- What comes last notes nothing. -/
theorem followed {a : Converting α} {f : α → Converting β}
    {post : Conversion × Bridge → List Note → Prop} (ha : Records a post)
    (hf : ∀ x c b, c.skip = true → Notes c [] (f x (c, b))) : Records (a >>= f) post := by
  intro c b hskip
  obtain ⟨log, hlog, hnotes⟩ := ha c b hskip
  refine ⟨log, hlog, ?_⟩
  rw [bind_apply]
  generalize a (c, b) = outcome at hnotes
  cases hnotes with
  | @ok x c' b' hskip hskipped =>
    have hrest := (hf x c' b' hskip).after hskipped
    rwa [List.append_nil] at hrest
  | error hskip hskipped => exact .error hskip hskipped

theorem textOr (typeName : String) (r : ObjRef) :
    Records (textOr typeName r) (fun _ log => log = []) := by
  intro c b hskip
  unfold Converting.textOr
  rw [bind_apply, get_apply]
  dsimp only
  cases b.text r with
  | ok s => exact ⟨[], rfl, notes_pure _ hskip⟩
  | error e => exact ⟨[], rfl, notes_fail _ hskip⟩

theorem proxy (r : ObjRef) (cls : ProxyClass) (t : Target) :
    Records (proxy r cls t) (fun _ log => log = []) := by
  cases t with
  | dict | list | function | buffer | window | tabPage => exact .pure _
  | invalid => exact .fail _
  | _ => exact textOr _ r

/-! ### One container -/

/-- One part before the others: it is kept, or it is noted after what was left out within it. -/
theorem part {γ : Type} {label : γ → Act ConvertError String} {run : γ → Converting β}
    {within : γ → Conversion × Bridge → List Note → Prop} {x : γ} {xs : List γ}
    {f : Option β → Converting α} (hfirst : Records (run x) (within x))
    (hlabel : ∀ b, ∃ l, label x b = .ok l b)
    (hrest : ∀ y?, Records (f y?) (Leaves label run within xs)) :
    Records (entry (label x) (run x) >>= f) (Leaves label run within (x :: xs)) := by
  intro c b hskip
  obtain ⟨log, hwithin, hnotes⟩ := hfirst c b hskip
  rw [bind_apply]
  cases hrun : run x (c, b) with
  | ok y t =>
    rw [hrun] at hnotes
    cases hnotes with
    | @ok _ c' b' hskip hskipped =>
      obtain ⟨log', hleaves, hnotes⟩ := hrest (some y) c' b' hskip
      rw [entry_ok hrun]
      exact ⟨_, .kept hrun hwithin hleaves, hnotes.after hskipped⟩
  | error stop t =>
    rw [hrun] at hnotes
    cases hnotes with
    | @error e c' b' hskip hskipped =>
      obtain ⟨l, hl⟩ := hlabel b'
      obtain ⟨log', hleaves, hnotes⟩ := hrest none (c'.noting (l, e)) b' hskip
      have hnoting : (c'.noting (l, e)).skipped = c.skipped ++ (log ++ [(l, e)]) := by
        rw [Conversion.noting, hskipped, List.append_assoc]
      have hafter := hnotes.after hnoting
      rw [List.append_assoc] at hafter
      rw [entry_noted hrun hskip hl]
      exact ⟨_, .failed hrun hl hwithin hleaves, hafter⟩

theorem nil {γ : Type} {label : γ → Act ConvertError String} {run : γ → Converting β}
    {within : γ → Conversion × Bridge → List Note → Prop} (x : α) :
    Records (Pure.pure x) (Leaves label run within []) :=
  fun _ _ hskip => ⟨[], .nil _, notes_pure x hskip⟩

theorem itemsFrom (h : ∀ q, Records (convert q) (omits q)) (i : Nat) (rs : List ObjRef) :
    Records (itemsFrom convert i rs) (Leaves (fun p => Pure.pure (toString p.2))
      (fun p => convert p.1) (fun p => omits p.1) (rs.zipIdx i)) := by
  induction rs generalizing i with
  | nil => exact .nil _
  | cons r rest ih =>
    exact .part (x := (r, i)) (h r) (positionLabel_apply i) fun v? =>
      (ih (i + 1)).followed fun _ _ _ => notes_pure _

theorem convertEntry (h : ∀ q, Records (convert q) (omits q)) (p : ObjRef × ObjRef) :
    Records (convertEntry convert p) (omitsAfter (keyOf p.1) fun _ => omits p.2) :=
  .lift_bind (mild_keyOf p.1) fun _ => (h p.2).followed fun _ _ _ => notes_pure _

theorem entriesOnto (h : ∀ q, Records (convert q) (omits q)) (es : List (String × Value))
    (ps : List (ObjRef × ObjRef)) : Records (entriesOnto convert es ps)
      (Leaves (fun p => keyLabel p.1) (Converting.convertEntry convert)
        (fun p => omitsAfter (keyOf p.1) fun _ => omits p.2) ps) := by
  induction ps generalizing es with
  | nil => exact .nil _
  | cons p rest ih =>
    refine .part (convertEntry h p) (keyLabel_apply p.1) fun e? => ?_
    cases e? with
    | some e => exact ih _
    | none => exact ih _

theorem sequence (h : ∀ q, Records (convert q) (omits q)) (r : ObjRef) :
    Records (sequence convert r) (sequenceOmits convert omits r) :=
  .liftForeign_bind (Act.Mild.itemsOf r) fun rs =>
    (itemsFrom h 0 rs).followed fun _ _ _ hskip => .ok hskip (List.append_nil _).symm

theorem mapping (h : ∀ q, Records (convert q) (omits q)) (r : ObjRef) :
    Records (mapping convert r) (mappingOmits convert omits r) :=
  .liftForeign_bind (Act.Mild.pairsOf r) fun ps =>
    (entriesOnto h [] ps).followed fun _ _ _ hskip => .ok hskip (List.append_nil _).symm

/-- A container that is entered notes what its parts leave out. -/
theorem container {body : ObjRef → Converting Value}
    {post : Conversion × Bridge → List Note → Prop} {r : ObjRef} (hbody : Records (body r) post) :
    Records (container body r) (containerOmits post r) := by
  intro c b hskip
  unfold Converting.container containerOmits Conversion.enters
  rw [bind_apply, get_apply]
  dsimp only
  cases hfind : c.done.find? fun e => b.identical e.1 r with
  | some e => exact ⟨[], rfl, notes_pure _ hskip⟩
  | none =>
    by_cases hactive : r ∈ c.active
    · refine ⟨[], ?_, ?_⟩
      · rw [if_neg (by simp [hactive])]
      · dsimp only
        rw [if_pos hactive]
        exact notes_fail _ hskip
    · obtain ⟨log, hpost, hnotes⟩ := hbody (c.entering r) b hskip
      refine ⟨log, ?_, ?_⟩
      · rwa [if_pos (by simp [hactive])]
      · dsimp only
        rw [if_neg hactive]
        change Notes c log ((Act.attempt (body r) >>= _) (c.entering r, b))
        rw [bind_apply, Act.attempt]
        generalize body r (c.entering r, b) = outcome at hnotes
        cases hnotes with
        | ok hskip hskipped => exact .ok hskip hskipped
        | error hskip hskipped => exact .error hskip hskipped

/-! ### Whole conversions -/

theorem convertWithin (depth : Nat) (r : ObjRef) :
    Records (convertWithin depth r) (Omits depth r) := by
  induction depth generalizing r with
  | zero => exact .fail _
  | succ depth ih =>
    intro c b hskip
    have hitems := container (sequence ih r) c b hskip
    have hentries := container (mapping ih r) c b hskip
    rw [Converting.convertWithin, bind_apply, inspect_apply]
    unfold Omits
    cases (b.objects.get r).shape with
    | error e => exact ⟨[], rfl, .error hskip (List.append_nil _).symm⟩
    | ok x =>
      cases x with
      | dict => exact hentries
      | list | tuple => exact hitems
      | other isMapping isSequence =>
        cases isMapping with
        | true => exact hentries
        | false =>
          cases isSequence with
          | true => exact hitems
          | false => exact lift_bind (Act.Mild.typeName r) (fun name => textOr name r) c b hskip
      | slice bounds => exact lift_bind (Act.Mild.typeName r) (fun name => textOr name r) c b hskip
      | proxy cls t => exact proxy r cls t c b hskip
      | null | bool x | int n | float x | bytes bs | str s => exact ⟨[], rfl, notes_pure _ hskip⟩

end Records

end Converting

/-- What a lenient conversion of an object leaves out, in order. -/
def LeavesOut (b : Bridge) (r : ObjRef) (log : List Note) : Prop :=
  Converting.Omits (b.objects.cells.size + 1) r ({ skip := true }, b) log

/-- A lenient conversion tells what it has left out. -/
theorem leavesOut_of_toHostWith {b b' : Bridge} {r : ObjRef} {v : Value} {skipped : List Note}
    (h : toHostWith true r b = .ok (v, skipped) b') : LeavesOut b r skipped := by
  obtain ⟨log, homits, hnotes⟩ := Converting.Records.convertWithin (b.objects.cells.size + 1) r
    { skip := true } b rfl
  unfold toHostWith at h
  generalize Converting.convertWithin _ r ({ skip := true }, b) = outcome at hnotes h
  cases hnotes with
  | ok hskip hskipped =>
    cases h
    rw [hskipped]
    exact homits
  | error hskip hskipped => cases h

end ScriptBridge.Convert
