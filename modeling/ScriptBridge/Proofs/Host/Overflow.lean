import ScriptBridge.Host.Expr.Eval
import ScriptBridge.Host.Functions
import ScriptBridge.Proofs.Computation
import ScriptBridge.Proofs.Host.Writing

/-!
# Expressions that break down

Numbers wrap around at 64 bits and dividing by zero gives zero, but the quotient of the least number
and minus one fits no 64 bits. An expression breaks down if its evaluation comes to this division
or its remainder, and only then: any other text has a value or fails.
-/

namespace ScriptBridge.Host

open ScriptBridge.Computation

/-- An evaluation breaks down, and gives neither a value nor an error. -/
def Breaks {α : Type} (m : Eval α) (e : Editor) : Prop := ∃ e', m e = .error .crash e'

section Computations

variable {α β : Type} {m : Eval α} {f : α → Eval β} {e : Editor}

/-- A sequence breaks down in its first or in its second part. -/
theorem breaks_bind_iff :
    Breaks (m >>= f) e ↔ Breaks m e ∨ ∃ x e', m e = .ok x e' ∧ Breaks (f x) e' := by
  cases hm : m e with
  | error stop e' => simp [Breaks, bind_apply, hm]
  | ok x e' =>
    have hbreaks : ¬Breaks m e := by
      rintro ⟨e'', h⟩
      cases hm.symm.trans h
    have hresult : Breaks (m >>= f) e ↔ Breaks (f x) e' := by simp [Breaks, bind_apply, hm]
    rw [hresult]
    constructor
    · exact fun h => .inr ⟨x, e', rfl, h⟩
    · rintro (h | ⟨y, e'', hy, h⟩)
      · exact absurd h hbreaks
      · cases hy
        exact h

theorem not_breaks_pure (x : α) : ¬Breaks (pure x : Eval α) e := by
  rintro ⟨e', h⟩
  cases h

theorem not_breaks_fail (error : HostError) : ¬Breaks (Eval.fail error : Eval α) e := by
  rintro ⟨e', h⟩
  cases h

theorem not_breaks_get : ¬Breaks (get : Eval Editor) e := by
  rintro ⟨e', h⟩
  cases h

theorem breaks_get_iff {f : Editor → Eval β} : Breaks (get >>= f) e ↔ Breaks (f e) e := Iff.rfl

theorem not_breaks_bind (hm : ¬Breaks m e) (hf : ∀ x e', m e = .ok x e' → ¬Breaks (f x) e') :
    ¬Breaks (m >>= f) e := by
  rw [breaks_bind_iff]
  rintro (h | ⟨x, e', hx, h⟩)
  · exact hm h
  · exact hf x e' hx h

theorem not_breaks_newList (items : List Value) : ¬Breaks (Eval.newList items) e := by
  rintro ⟨e', h⟩
  cases h

theorem not_breaks_newDict (entries : List (String × Value)) : ¬Breaks (Eval.newDict entries) e := by
  rintro ⟨e', h⟩
  cases h

theorem not_breaks_store {f : Store → Except LockError Store} : ¬Breaks (Eval.store f) e := by
  refine not_breaks_bind not_breaks_get fun e₁ e' _ => ?_
  split
  · rintro ⟨e'', h⟩
    cases h
  · exact not_breaks_fail _

theorem not_breaks_scopeOf (name : String) : ¬Breaks (Eval.scopeOf name) e := by
  refine not_breaks_bind not_breaks_get fun e₁ e' _ => ?_
  split
  · exact not_breaks_pure _
  · exact not_breaks_fail _

end Computations

/-! ### Parts of expressions -/

section Parts

variable {e : Editor}

theorem not_breaks_readVariable (name : String) : ¬Breaks (readVariable name) e := by
  refine not_breaks_bind (not_breaks_scopeOf name) fun place e' _ => ?_
  refine not_breaks_bind not_breaks_get fun e₁ e' _ => ?_
  split
  · exact not_breaks_pure _
  · exact not_breaks_fail _

/-- No built-in function breaks down. -/
theorem not_breaks_callBuiltin (name : String) (args : List Value) :
    ¬Breaks (callBuiltin name args) e := by
  refine not_breaks_bind not_breaks_get fun e₁ e' _ => ?_
  dsimp only
  split
  all_goals first
    | exact not_breaks_pure _
    | exact not_breaks_fail _
    | exact not_breaks_newList _
    | skip
  · split
    · exact not_breaks_pure _
    · exact not_breaks_fail _
  · split
    · exact not_breaks_pure _
    · exact not_breaks_pure _
    · exact not_breaks_fail _
  · exact not_breaks_bind not_breaks_store fun _ _ _ => not_breaks_pure _
  · split
    · exact not_breaks_fail _
    · exact not_breaks_fail _

/-- The number that an operand stands for where no float is involved. -/
def Value.integer? : Value → Option Int64
  | .float _ => none
  | v => v.asNumber?

/-- A division or remainder of the least number by minus one. -/
structure Overflows (op : Operator) (a b : Value) : Prop where
  divides : op = .divide ∨ op = .remainder
  least : a.integer? = some Int64.minValue
  minusOne : b.integer? = some (-1)

theorem not_breaks_floatArith (op : Operator) (x y : Float) : ¬Breaks (floatArith op x y) e := by
  cases op with
  | add | subtract | multiply | divide => exact not_breaks_pure _
  | concat | remainder => exact not_breaks_fail _

theorem not_breaks_asFloat (v : Value) : ¬Breaks (asFloat v) e := by
  unfold asFloat
  split
  · exact not_breaks_pure _
  · exact not_breaks_pure _
  · exact not_breaks_fail _

theorem not_breaks_asNumber (v : Value) : ¬Breaks (asNumber v) e := by
  unfold asNumber
  split
  · exact not_breaks_pure _
  · exact not_breaks_fail _

theorem asNumber_eq_ok_iff {v : Value} {n : Int64} {e' : Editor} :
    asNumber v e = .ok n e' ↔ v.asNumber? = some n ∧ e' = e := by
  unfold asNumber
  cases v.asNumber? with
  | none => exact ⟨nofun, nofun⟩
  | some m =>
    change (EStateM.Result.ok m e = .ok n e') ↔ _
    rw [EStateM.Result.ok.injEq, Option.some.injEq, eq_comm (a := e)]

/-- Arithmetic on numbers breaks down where a quotient does not fit. -/
theorem breaks_numberArith_iff {op : Operator} (hop : op ≠ .concat) {x y : Int64} :
    Breaks (numberArith op x y) e ↔
      (op = .divide ∨ op = .remainder) ∧ x = Int64.minValue ∧ y = -1 := by
  cases op with
  | add | subtract | multiply =>
    refine iff_of_false (not_breaks_pure _) ?_
    rintro ⟨h | h, -⟩ <;> cases h
  | concat => exact absurd rfl hop
  | divide | remainder =>
    unfold numberArith
    dsimp only
    split
    · rename_i hy
      refine iff_of_false (not_breaks_pure _) ?_
      rintro ⟨-, -, rfl⟩
      cases hy
    · split
      · rename_i hxy
        refine iff_of_true ⟨e, rfl⟩ ⟨by simp, ?_⟩
        simpa using hxy
      · rename_i hxy
        refine iff_of_false (not_breaks_pure _) fun h => hxy ?_
        simpa using h.2

/-- Applying an operator breaks down where a quotient does not fit. -/
theorem breaks_arith_iff {op : Operator} {a b : Value} :
    Breaks (arith op a b) e ↔ Overflows op a b := by
  unfold arith
  split
  · refine iff_of_false ?_ ?_
    · exact not_breaks_bind not_breaks_get fun _ _ _ => not_breaks_pure _
    · rintro ⟨h | h, -, -⟩ <;> cases h
  · refine iff_of_false ?_ ?_
    · exact not_breaks_bind (not_breaks_asFloat _) fun _ _ _ => not_breaks_floatArith _ _ _
    · rintro ⟨-, h, -⟩
      cases h
  · refine iff_of_false ?_ ?_
    · exact not_breaks_bind (not_breaks_asFloat _) fun _ _ _ => not_breaks_floatArith _ _ _
    · rintro ⟨-, -, h⟩
      cases h
  · refine iff_of_false ?_ ?_
    · exact not_breaks_bind not_breaks_get fun _ _ _ => not_breaks_newList _
    · rintro ⟨h | h, -, -⟩ <;> cases h
  · rename_i hop ha hb _
    have hop : op ≠ .concat := hop
    have ha : a.integer? = a.asNumber? := by
      cases a with
      | float x => exact absurd rfl (ha x)
      | _ => rfl
    have hb : b.integer? = b.asNumber? := by
      cases b with
      | float y => exact absurd rfl (hb y)
      | _ => rfl
    constructor
    · intro h
      obtain ⟨x, e₁, hx, h⟩ := (breaks_bind_iff.mp h).resolve_left (not_breaks_asNumber a)
      obtain ⟨y, e₂, hy, h⟩ := (breaks_bind_iff.mp h).resolve_left (not_breaks_asNumber b)
      obtain ⟨hdivides, rfl, rfl⟩ := (breaks_numberArith_iff hop).mp h
      exact ⟨hdivides, ha.trans (asNumber_eq_ok_iff.mp hx).1, hb.trans (asNumber_eq_ok_iff.mp hy).1⟩
    · rintro ⟨hdivides, hx, hy⟩
      rw [ha] at hx
      rw [hb] at hy
      refine breaks_bind_iff.mpr (.inr ⟨_, e, asNumber_eq_ok_iff.mpr ⟨hx, rfl⟩, ?_⟩)
      refine breaks_bind_iff.mpr (.inr ⟨_, e, asNumber_eq_ok_iff.mpr ⟨hy, rfl⟩, ?_⟩)
      exact (breaks_numberArith_iff hop).mpr ⟨hdivides, rfl, rfl⟩

end Parts

/-! ### Expressions -/

/-- No function that the user defines breaks down. -/
def UserFunctions.Steady (functions : UserFunctions) : Prop :=
  ∀ name f, functions name = some f → ∀ args e, ¬Breaks (f args) e

namespace Expr

variable {functions : UserFunctions} {e : Editor}

/-- Evaluating trees one after another comes to a quotient that does not fit. -/
inductive Overflowing (functions : UserFunctions) : List Expr → Editor → Prop where
  | here {op : Operator} {left right : Expr} {rest : List Expr} {e e₁ e₂ : Editor} {a b : Value}
      (hleft : left.eval functions e = .ok a e₁) (hright : right.eval functions e₁ = .ok b e₂)
      (h : Overflows op a b) : Overflowing functions (.binary op left right :: rest) e
  | argument {function : String} {args rest : List Expr} {e : Editor}
      (h : Overflowing functions args e) : Overflowing functions (.call function args :: rest) e
  | list {items rest : List Expr} {e : Editor} (h : Overflowing functions items e) :
    Overflowing functions (.list items :: rest) e
  | dict {entries : List (Expr × Expr)} {rest : List Expr} {e : Editor}
      (h : Overflowing functions (entries.flatMap fun p => [p.1, p.2]) e) :
    Overflowing functions (.dict entries :: rest) e
  | negate {x : Expr} {rest : List Expr} {e : Editor} (h : Overflowing functions [x] e) :
    Overflowing functions (.negate x :: rest) e
  | operand {op : Operator} {left right : Expr} {rest : List Expr} {e : Editor}
      (h : Overflowing functions [left, right] e) :
    Overflowing functions (.binary op left right :: rest) e
  | unfinished {x : Expr} {error : HostError} {rest : List Expr} {e : Editor}
      (h : Overflowing functions [x] e) : Overflowing functions (.unfinished x error :: rest) e
  | next {x : Expr} {rest : List Expr} {e e' : Editor} {v : Value}
      (hfirst : x.eval functions e = .ok v e') (h : Overflowing functions rest e') :
    Overflowing functions (x :: rest) e

/-- What comes after an overflow does not matter. -/
theorem Overflowing.append {trees : List Expr} (h : Overflowing functions trees e)
    (rest : List Expr) : Overflowing functions (trees ++ rest) e := by
  induction h with
  | here hleft hright h => exact .here hleft hright h
  | argument h _ => exact .argument h
  | list h _ => exact .list h
  | dict h _ => exact .dict h
  | negate h _ => exact .negate h
  | operand h _ => exact .operand h
  | unfinished h _ => exact .unfinished h
  | next hfirst _ ih => exact .next hfirst ih

/-- Trees one after another break down in the first one or in the rest. -/
theorem breaks_evalItems_cons_iff {x : Expr} {xs : List Expr} :
    Breaks (evalItems functions (x :: xs)) e ↔ Breaks (x.eval functions) e ∨
      ∃ v e', x.eval functions e = .ok v e' ∧ Breaks (evalItems functions xs) e' := by
  have hrest : ∀ v e', Breaks (do let vs ← evalItems functions xs; pure (v :: vs)) e' ↔
      Breaks (evalItems functions xs) e' := by
    intro v e'
    rw [breaks_bind_iff]
    refine or_iff_left ?_
    rintro ⟨vs, e'', -, h⟩
    exact not_breaks_pure _ h
  rw [evalItems, breaks_bind_iff]
  simp only [hrest]

/-- The keys and values of a dictionary are evaluated in turn. -/
theorem breaks_evalEntries_iff {entries : List (Expr × Expr)} {done : List (String × Value)} :
    Breaks (evalEntries functions entries done) e ↔
      Breaks (evalItems functions (entries.flatMap fun p => [p.1, p.2])) e := by
  induction entries generalizing e done with
  | nil =>
    rw [evalEntries, List.flatMap_nil, evalItems]
    exact iff_of_false (not_breaks_pure _) (not_breaks_pure _)
  | cons entry entries ih =>
    obtain ⟨key, value⟩ := entry
    have hafter : ∀ (v : Value) (e₁ : Editor), Breaks (do
        let key := (← get).store.echo v
        let value ← value.eval functions
        evalEntries functions entries (Entries.insert key value done)) e₁ ↔
        Breaks (evalItems functions (value :: entries.flatMap fun p => [p.1, p.2])) e₁ := by
      intro v e₁
      rw [breaks_get_iff, breaks_bind_iff, breaks_evalItems_cons_iff]
      simp only [ih]
    rw [evalEntries, breaks_bind_iff]
    simp only [hafter]
    exact breaks_evalItems_cons_iff.symm

theorem not_breaks_callFunction (hf : functions.Steady) (name : String) (args : List Value) :
    ¬Breaks (callFunction functions name args) e := by
  unfold callFunction
  cases h : functions name with
  | none => exact not_breaks_callBuiltin name args
  | some f => exact hf name f h args e

mutual

/-- A tree that breaks down comes to an overflow. -/
theorem overflowing_of_eval (hf : functions.Steady) (x : Expr) {e : Editor} (h : Breaks (x.eval functions) e) :
    Overflowing functions [x] e := by
  cases x with
  | number n | float x | str s =>
    rw [eval] at h
    exact absurd h (not_breaks_pure _)
  | list items =>
    rw [eval] at h
    obtain h | ⟨vs, e', -, h⟩ := breaks_bind_iff.mp h
    · exact .list (overflowing_of_items hf items h)
    · exact absurd h (not_breaks_newList _)
  | dict entries =>
    rw [eval] at h
    obtain h | ⟨vs, e', -, h⟩ := breaks_bind_iff.mp h
    · exact .dict (overflowing_of_entries hf entries [] h)
    · exact absurd h (not_breaks_newDict _)
  | «variable» name =>
    rw [eval] at h
    exact absurd h (not_breaks_readVariable name)
  | call function args =>
    rw [eval] at h
    obtain h | ⟨vs, e', -, h⟩ := breaks_bind_iff.mp h
    · exact .argument (overflowing_of_items hf args h)
    · exact absurd h (not_breaks_callFunction hf function vs)
  | negate x =>
    rw [eval] at h
    obtain h | ⟨v, e', -, h⟩ := breaks_bind_iff.mp h
    · exact .negate (overflowing_of_eval hf x h)
    · obtain ⟨hdivides | hdivides, -, -⟩ := breaks_arith_iff.mp h <;> cases hdivides
  | binary op left right =>
    rw [eval] at h
    obtain h | ⟨a, e₁, hleft, h⟩ := breaks_bind_iff.mp h
    · exact .operand ((overflowing_of_eval hf left h).append [right])
    obtain h | ⟨b, e₂, hright, h⟩ := breaks_bind_iff.mp h
    · exact .operand (.next hleft (overflowing_of_eval hf right h))
    · exact .here hleft hright (breaks_arith_iff.mp h)
  | unfinished x error =>
    rw [eval] at h
    obtain h | ⟨v, e', -, h⟩ := breaks_bind_iff.mp h
    · exact .unfinished (overflowing_of_eval hf x h)
    · exact absurd h (not_breaks_fail _)
  | malformed error =>
    rw [eval] at h
    exact absurd h (not_breaks_fail _)

theorem overflowing_of_items (hf : functions.Steady) (xs : List Expr) {e : Editor}
    (h : Breaks (evalItems functions xs) e) : Overflowing functions xs e := by
  cases xs with
  | nil =>
    rw [evalItems] at h
    exact absurd h (not_breaks_pure _)
  | cons x xs =>
    obtain h | ⟨v, e', hfirst, h⟩ := breaks_evalItems_cons_iff.mp h
    · exact (overflowing_of_eval hf x h).append xs
    · exact .next hfirst (overflowing_of_items hf xs h)

theorem overflowing_of_entries (hf : functions.Steady) (entries : List (Expr × Expr)) (done : List (String × Value))
    {e : Editor} (h : Breaks (evalEntries functions entries done) e) :
    Overflowing functions (entries.flatMap fun p => [p.1, p.2]) e := by
  cases entries with
  | nil =>
    rw [evalEntries] at h
    exact absurd h (not_breaks_pure _)
  | cons entry entries =>
    obtain ⟨key, value⟩ := entry
    rw [breaks_evalEntries_iff] at h
    obtain h | ⟨v, e₁, hkey, h⟩ := breaks_evalItems_cons_iff.mp h
    · exact (overflowing_of_eval hf key h).append _
    refine .next hkey ?_
    obtain h | ⟨v, e₂, hvalue, h⟩ := breaks_evalItems_cons_iff.mp h
    · exact (overflowing_of_eval hf value h).append _
    · exact .next hvalue
        (overflowing_of_entries hf entries [] (breaks_evalEntries_iff.mpr h))

end

end Expr

end ScriptBridge.Host
