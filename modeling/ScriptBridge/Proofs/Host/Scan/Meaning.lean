import ScriptBridge.Host.Command
import ScriptBridge.Proofs.Computation
import ScriptBridge.Proofs.Host.Blanks
import ScriptBridge.Proofs.Host.Scan

/-!
# What a scan gives

A scan that is not cut off gives what the tree that is read from the same text evaluates to, and
comes to the text that is left there. Trees are evaluated from left to right, so what is read first
is evaluated first, and the scan keeps pace with both. If the text fails at some point, so does the
tree; if the evaluation fails first, the scan reads no further, and what would be read from there on
does not matter.
-/

namespace ScriptBridge.Host

open Text (dropBlanks)
open ScriptBridge.Computation

namespace Expr

/-! ### Sequences -/

variable {functions : UserFunctions} {e e₁ e₂ : Editor} {err : Stop HostError}

theorem eval_binary_error {op : Operator} {left right : Expr}
    (h : left.eval functions e = .error err e₁) :
    (binary op left right).eval functions e = .error err e₁ := by
  rw [eval, bind_apply, h]

theorem eval_binary_right_error {op : Operator} {left right : Expr} {v : Value}
    (hleft : left.eval functions e = .ok v e₁) (hright : right.eval functions e₁ = .error err e₂) :
    (binary op left right).eval functions e = .error err e₂ := by
  rw [eval, bind_apply, hleft]
  dsimp only
  rw [bind_apply, hright]

theorem eval_binary_ok (op : Operator) {left right : Expr} {v w : Value}
    (hleft : left.eval functions e = .ok v e₁) (hright : right.eval functions e₁ = .ok w e₂) :
    (binary op left right).eval functions e = arith op v w e₂ := by
  rw [eval, bind_apply, hleft]
  dsimp only
  rw [bind_apply, hright]

theorem evalItems_append (xs ys : List Expr) :
    evalItems functions (xs ++ ys) =
      (do
        let vs ← evalItems functions xs
        let ws ← evalItems functions ys
        return vs ++ ws) := by
  induction xs with
  | nil => simp [evalItems]
  | cons x xs ih => simp [evalItems, ih]

theorem evalEntries_append (xs ys : List (Expr × Expr)) (done : List (String × Value)) :
    evalEntries functions (xs ++ ys) done =
      evalEntries functions xs done >>= evalEntries functions ys := by
  induction xs generalizing done with
  | nil => simp [evalEntries]
  | cons x xs ih => simp [evalEntries, ih]

section Sequences

variable {x : Expr} {xs : List Expr} {vs : List Value}

theorem evalItems_item_error (h : evalItems functions xs e = .ok vs e₁)
    (hx : x.eval functions e₁ = .error err e₂) (ys : List Expr) :
    evalItems functions (xs ++ x :: ys) e = .error err e₂ := by
  rw [evalItems_append, bind_apply, h]
  dsimp only
  rw [evalItems, bind_apply, bind_apply, hx]

theorem evalItems_item {v : Value} (h : evalItems functions xs e = .ok vs e₁)
    (hx : x.eval functions e₁ = .ok v e₂) :
    evalItems functions (xs ++ [x]) e = .ok (vs ++ [v]) e₂ := by
  rw [evalItems_append, bind_apply, h]
  dsimp only
  rw [evalItems, bind_apply, bind_apply, hx]
  rfl

variable {key value : Expr} {ts : List (Expr × Expr)} {es : List (String × Value)} {k : Value}
  {e₃ : Editor}

theorem evalEntries_key_error (h : evalEntries functions ts [] e = .ok es e₁)
    (hkey : key.eval functions e₁ = .error err e₂) (ys : List (Expr × Expr)) :
    evalEntries functions (ts ++ (key, value) :: ys) [] e = .error err e₂ := by
  rw [evalEntries_append, bind_apply, h]
  dsimp only
  rw [evalEntries, bind_apply, hkey]

theorem evalEntries_value_error (h : evalEntries functions ts [] e = .ok es e₁)
    (hkey : key.eval functions e₁ = .ok k e₂) (hvalue : value.eval functions e₂ = .error err e₃)
    (ys : List (Expr × Expr)) :
    evalEntries functions (ts ++ (key, value) :: ys) [] e = .error err e₃ := by
  rw [evalEntries_append, bind_apply, h]
  dsimp only
  rw [evalEntries, bind_apply, hkey]
  dsimp only
  rw [bind_apply, get_apply]
  dsimp only
  rw [bind_apply, hvalue]

theorem evalEntries_entry {v : Value} (h : evalEntries functions ts [] e = .ok es e₁)
    (hkey : key.eval functions e₁ = .ok k e₂) (hvalue : value.eval functions e₂ = .ok v e₃) :
    evalEntries functions (ts ++ [(key, value)]) [] e =
      .ok (Entries.insert (e₂.store.echo k) v es) e₃ := by
  rw [evalEntries_append, bind_apply, h]
  dsimp only
  rw [evalEntries, bind_apply, hkey]
  dsimp only
  rw [bind_apply, get_apply]
  dsimp only
  rw [bind_apply, hvalue]
  rfl

end Sequences

/-! ### Trees that fail in front -/

variable {src : String} {depth : Nat} {p : Parsed} {left : Expr} {s : List Char}

theorem operand_error {o : Option Parsed} {op : Operator}
    {tail? : Expr → List Char → Option Parsed}
    (h : (match o with
      | none => none
      | some q => q.andThen (.binary op left) tail?) = some p)
    (htail : ∀ left s, tail? left s = some p → left.eval functions e = .error err e₁ →
      p.tree.eval functions e = .error err e₁)
    (hleft : left.eval functions e = .error err e₁) :
    p.tree.eval functions e = .error err e₁ := by
  match o, h with
  | some (.complete tree rest), h => exact htail _ rest h (eval_binary_error hleft)
  | some (.stuck tree), h =>
    cases h
    exact eval_binary_error hleft

/-- A sum fails as its first term does. -/
theorem sumTail?_error (h : sumTail? src depth left s = some p)
    (hleft : left.eval functions e = .error err e₁) :
    p.tree.eval functions e = .error err e₁ := by
  induction depth generalizing left s with
  | zero =>
    rw [sumTail?] at h
    cases h
  | succ depth ih =>
    rw [sumTail?] at h
    split at h
    case h_5 =>
      cases h
      exact hleft
    all_goals exact operand_error h (fun _ _ => ih) hleft

/-- A product fails as its first factor does. -/
theorem productTail?_error (h : productTail? src depth left s = some p)
    (hleft : left.eval functions e = .error err e₁) :
    p.tree.eval functions e = .error err e₁ := by
  induction depth generalizing left s with
  | zero =>
    rw [productTail?] at h
    cases h
  | succ depth ih =>
    rw [productTail?] at h
    split at h
    case h_4 =>
      cases h
      exact hleft
    all_goals exact operand_error h (fun _ _ => ih) hleft

end Expr

/-! ### Texts of expressions -/

section Texts

variable {functions : UserFunctions} {tree : Expr} {trees : List Expr} {e e₁ : Editor}
  {done : List String}

theorem echoAll_error {err : Stop HostError} (h : tree.eval functions e = .error err e₁) :
    ((done ++ ·) <$> echoAll functions (tree :: trees)) e = .error err e₁ := by
  rw [map_eq_pure_bind, bind_apply, echoAll, bind_apply, h]

theorem echoAll_ok {v : Value} (h : tree.eval functions e = .ok v e₁) :
    ((done ++ ·) <$> echoAll functions (tree :: trees)) e =
      (((done ++ [e₁.store.echo v]) ++ ·) <$> echoAll functions trees) e₁ := by
  rw [map_eq_pure_bind, map_eq_pure_bind, bind_apply, echoAll, bind_apply, h, bind_apply]
  dsimp only
  rw [bind_apply, get_apply]
  dsimp only
  rw [bind_apply]
  cases echoAll functions trees e₁ with
  | ok ts e₂ => simp [pure_apply]
  | error err e₂ => rfl

end Texts

namespace Scan

variable {α β : Type} {src : String}

/-- A text that is in no way an `x` with something behind it does not start with `x`. -/
theorem head?_ne_some {s : List Char} {x : Char} (h : ∀ r, s ≠ x :: r) : s.head? ≠ some x :=
  fun hhead => (List.head?_eq_some_iff.mp hhead).elim h

/-- A scan ends as the evaluation `want` does, and, if that gives a value, where the text `rest`
stands; unless it is cut off. -/
inductive Agrees (src : String) (want : EStateM.Result (Stop HostError) Editor α)
    (rest : Option (List Char)) (a : Scan α) (c : Cursor) : Prop where
  | value (v : α) (c' : Cursor) (s : List Char) (run : a c = some (.ok v, c'))
    (want_eq : want = .ok v c'.editor) (rest_eq : rest = some s) (text : c'.At src s)
  | stop (err : Stop HostError) (c' : Cursor) (run : a c = some (.error err, c'))
    (want_eq : want = .error err c'.editor)
  | cut (run : a c = none)

namespace Agrees

variable {c c₁ : Cursor} {a : Scan α} {f : α → Scan β} {v : α} {s : List Char}
  {want : EStateM.Result (Stop HostError) Editor β} {rest rest₁ : Option (List Char)}

theorem next {n : Nat} (ha : Reaches src a c v s n c₁) (hf : Agrees src want rest (f v) c₁) :
    Agrees src want rest (a >>= f) c := by
  have hrun : (a >>= f) c = f v c₁ := bind_ok ha.run f
  cases hf with
  | value v c' s run want_eq rest_eq text =>
    exact .value v c' s (hrun.trans run) want_eq rest_eq text
  | stop err c' run want_eq => exact .stop err c' (hrun.trans run) want_eq
  | cut run => exact .cut (hrun.trans run)

theorem bind {first : EStateM.Result (Stop HostError) Editor α}
    (ha : Agrees src first rest₁ a c)
    (hstop : ∀ err e, first = .error err e → want = .error err e)
    (hf : ∀ v c' s, first = .ok v c'.editor → rest₁ = some s → c'.At src s →
      Agrees src want rest (f v) c') :
    Agrees src want rest (a >>= f) c := by
  cases ha with
  | value v c' s run first_eq rest_eq text =>
    have hrun : (a >>= f) c = f v c' := bind_ok run f
    cases hf v c' s first_eq rest_eq text with
    | value w c'' s run want_eq rest_eq text =>
      exact .value w c'' s (hrun.trans run) want_eq rest_eq text
    | stop err c'' run want_eq => exact .stop err c'' (hrun.trans run) want_eq
    | cut run => exact .cut (hrun.trans run)
  | stop err c' run first_eq =>
    exact .stop err c' (bind_error run f) (hstop err _ first_eq)
  | cut run => exact .cut (bind_none run f)

/-- A part that is not read to its end has no value. -/
theorem bind_stuck {first : EStateM.Result (Stop HostError) Editor α}
    (ha : Agrees src first none a c)
    (hstop : ∀ err e, first = .error err e → want = .error err e) :
    Agrees src want rest (a >>= f) c := ha.bind hstop fun _ _ _ _ hrest => nomatch hrest

theorem pure (hc : c.At src s) {v : β} (hwant : want = .ok v c.editor) (hrest : rest = some s) :
    Agrees src want rest (Pure.pure v) c := .value v c s rfl hwant hrest hc

theorem fail {err : HostError} (hwant : want = .error (.error err) c.editor) :
    Agrees src want rest (Scan.fail err) c := .stop _ c rfl hwant

/-- What does not come next is a failure. -/
theorem expect_error {f : Unit → Scan β} {x : Char} (hc : c.At src s)
    (hs : (dropBlanks s).head? ≠ some x)
    (hwant : want = .error (.error (.invalidExpression src)) c.editor) :
    Agrees src want rest (Scan.expect src x >>= f) c := by
  obtain ⟨c', hrun, -, -, heditor⟩ := expect_eq_error hc hs
  exact .stop _ c' (bind_error hrun f) (by rw [heditor]; exact hwant)

section Part

variable {x y : Char} {a : Scan β} {f : Unit → Scan β} {r : List Char}

/-- After a part, a comma or the like comes next. -/
theorem separated (hc : c.At src s) (hs : dropBlanks s = x :: r)
    (ha : ∀ c', c'.At src r → c'.editor = c.editor → Agrees src want rest a c') :
    Agrees src want rest
      (do if ← Scan.eat src x then a else Scan.expect src y >>= f) c := by
  obtain ⟨c', h⟩ := reaches_eat_true hc hs
  exact .next h (ha c' h.text h.editor)

/-- After a part, the end comes next. -/
theorem closed (hc : c.At src s) (hs : dropBlanks s = y :: r) (hx : y ≠ x)
    (hf : ∀ c', c'.At src r → c'.editor = c.editor → Agrees src want rest (f ()) c') :
    Agrees src want rest
      (do if ← Scan.eat src x then a else Scan.expect src y >>= f) c := by
  obtain ⟨c', h⟩ := reaches_eat_false (x := x) hc
    (by rw [hs]; exact fun heq => hx (Option.some.inj heq))
  obtain ⟨c'', h'⟩ := reaches_expect h.text (by rw [dropBlanks_idem, hs])
  exact .next h (.next h' (hf c'' h'.text (h'.editor.trans h.editor)))

/-- After a part, neither of them comes next. -/
theorem broken (hc : c.At src s) (hx : (dropBlanks s).head? ≠ some x)
    (hy : (dropBlanks s).head? ≠ some y)
    (hwant : want = .error (.error (.invalidExpression src)) c.editor) :
    Agrees src want rest
      (do if ← Scan.eat src x then a else Scan.expect src y >>= f) c := by
  obtain ⟨c', h⟩ := reaches_eat_false hc hx
  exact .next h (.expect_error h.text (by rwa [dropBlanks_idem]) (by rw [hwant, h.editor]))

end Part

theorem perform {a : Eval β} (hc : c.At src s) (hwant : want = a c.editor)
    (hrest : rest = some s) : Agrees src want rest (Scan.perform a) c := by
  cases h : a c.editor with
  | ok v e =>
    refine .value v { c with editor := e } s ?_ (hwant.trans h) hrest (hc.of_pos rfl)
    rw [Scan.perform, h]
  | error err e =>
    refine .stop err { c with editor := e } ?_ (hwant.trans h)
    rw [Scan.perform, h]

end Agrees

/-! ### Parts without nesting -/

/-- What a string between quotes gives, as far as `out` has been read. -/
def quoted (out : List Char) (r : Option (List Char × List Char)) (missing : HostError)
    (e : Editor) : EStateM.Result (Stop HostError) Editor Value :=
  match r with
  | some (text, _) => .ok (.str (String.ofList (out ++ text))) e
  | none => .error (.error missing) e

theorem quoted_map (out : List Char) (x : Char) (r : Option (List Char × List Char))
    (missing : HostError) (e : Editor) :
    quoted out (r.map fun r => (x :: r.1, r.2)) missing e = quoted (out ++ [x]) r missing e := by
  cases r with
  | none => rfl
  | some r => rw [quoted, Option.map_some, quoted, List.append_assoc, List.singleton_append]

theorem agrees_singleQuoted (depth : Nat) {c : Cursor} {s : List Char} (hc : c.At src s)
    (out : List Char) :
    Agrees src (quoted out (readSingleQuoted s) (.missingSingleQuote src) c.editor)
      ((readSingleQuoted s).map (·.2)) (singleQuoted src depth out) c := by
  induction depth generalizing c s out with
  | zero => exact .cut rfl
  | succ depth ih =>
    obtain ⟨c₁, h₁⟩ := reaches_step hc
    rw [singleQuoted]
    refine .next h₁ (.next (reaches_rest h₁.text) ?_)
    fun_cases readSingleQuoted s with
    | case1 =>
      refine .fail ?_
      rw [quoted, h₁.editor]
    | case2 s =>
      obtain ⟨c₂, h₂⟩ := reaches_forward_char h₁.text rfl
      obtain ⟨c₃, h₃⟩ := reaches_forward_char h₂.text (n := 1) rfl
      refine .next h₂ ?_
      rw [if_pos rfl]
      refine .next (reaches_rest h₂.text) ?_
      rw [List.head?_cons, if_pos rfl]
      refine .next h₃ ?_
      have hagrees := ih h₃.text (out ++ ['\''])
      rw [h₃.editor, h₂.editor, h₁.editor, ← quoted_map] at hagrees
      rwa [Option.map_map]
    | case3 s hquote =>
      obtain ⟨c₂, h₂⟩ := reaches_forward_char h₁.text rfl
      refine .next h₂ ?_
      rw [if_pos rfl]
      refine .next (reaches_rest h₂.text) ?_
      have hhead : s.head? ≠ some '\'' := head?_ne_some fun r => hquote r rfl
      rw [if_neg hhead]
      refine .pure h₂.text ?_ rfl
      rw [quoted, List.append_nil, h₂.editor, h₁.editor]
    | case4 x s hquote hx =>
      obtain ⟨c₂, h₂⟩ := reaches_forward_char h₁.text rfl
      refine .next h₂ ?_
      rw [if_neg hx]
      have hagrees := ih h₂.text (out ++ [x])
      rw [h₂.editor, h₁.editor, ← quoted_map] at hagrees
      rwa [Option.map_map]

theorem agrees_doubleQuoted (depth : Nat) {c : Cursor} {s : List Char} (hc : c.At src s)
    (out : List Char) :
    Agrees src (quoted out (readDoubleQuoted s) (.missingDoubleQuote src) c.editor)
      ((readDoubleQuoted s).map (·.2)) (doubleQuoted src depth out) c := by
  induction depth generalizing c s out with
  | zero => exact .cut rfl
  | succ depth ih =>
    obtain ⟨c₁, h₁⟩ := reaches_step hc
    rw [doubleQuoted]
    refine .next h₁ (.next (reaches_rest h₁.text) ?_)
    fun_cases readDoubleQuoted s with
    | case1 =>
      refine .fail ?_
      rw [quoted, h₁.editor]
    | case2 s =>
      obtain ⟨c₂, h₂⟩ := reaches_forward_char h₁.text rfl
      refine .next h₂ ?_
      rw [if_pos rfl]
      refine .pure h₂.text ?_ rfl
      rw [quoted, List.append_nil, h₂.editor, h₁.editor]
    | case3 =>
      -- The backslash at the end is passed over, and the loop finds out in its next turn.
      obtain ⟨c₂, h₂⟩ := reaches_forward_char h₁.text rfl
      refine .next h₂ ?_
      rw [if_neg (by decide), if_pos rfl]
      refine .next (reaches_rest h₂.text) ?_
      have hagrees := ih h₂.text out
      rwa [readDoubleQuoted, h₂.editor, h₁.editor] at hagrees
    | case4 x s =>
      obtain ⟨c₂, h₂⟩ := reaches_forward_char h₁.text rfl
      obtain ⟨c₃, h₃⟩ := reaches_forward_char h₂.text rfl
      refine .next h₂ ?_
      rw [if_neg (by decide), if_pos rfl]
      refine .next (reaches_rest h₂.text) (.next h₃ ?_)
      have hagrees := ih h₃.text (out ++ [unescape x])
      rw [h₃.editor, h₂.editor, h₁.editor, ← quoted_map] at hagrees
      rwa [Option.map_map]
    | case5 x s hquote hslash hescape =>
      have hx : x ≠ '\\' := by
        intro hx
        cases s with
        | nil => exact hslash hx rfl
        | cons y s => exact hescape y s hx rfl
      obtain ⟨c₂, h₂⟩ := reaches_forward_char h₁.text rfl
      refine .next h₂ ?_
      rw [if_neg hquote, if_neg hx]
      have hagrees := ih h₂.text (out ++ [x])
      rw [h₂.editor, h₁.editor, ← quoted_map] at hagrees
      rwa [Option.map_map]

theorem agrees_readQuoted {c : Cursor} {a : Scan Value} {r : Option (List Char × List Char)}
    {missing : HostError} {functions : UserFunctions}
    (h : Agrees src (quoted [] r missing c.editor) (r.map (·.2)) a c) :
    Agrees src ((readQuoted r missing).tree.eval functions c.editor) (readQuoted r missing).rest? a
      c := by
  cases r with
  | none => exact h
  | some r => exact h

theorem agrees_number {c : Cursor} {s : List Char} {functions : UserFunctions}
    (hc : c.At src s) :
    Agrees src ((readNumber s).tree.eval functions c.editor) (readNumber s).rest? (number src)
      c := by
  have hsplit : numberText s ++ s.drop (numberText s).length = s :=
    List.prefix_iff_eq_append.mp (Expr.numberText_isPrefix s)
  obtain ⟨c₁, h₁⟩ := reaches_forward (t := numberText s) (s := s.drop (numberText s).length)
    (by rwa [hsplit]) rfl
  rw [number]
  refine .next (reaches_rest hc) (.next h₁ ?_)
  unfold readNumber
  dsimp only
  by_cases hpoint : (numberText s).contains '.' = true
  · rw [if_pos hpoint, if_pos hpoint]
    cases Decimal.readFloat? (numberText s) with
    | none => exact .fail (by rw [h₁.editor]; rfl)
    | some x => exact .pure h₁.text (by rw [h₁.editor]; rfl) rfl
  · rw [if_neg hpoint, if_neg hpoint]
    cases Text.readInt64? (numberText s) with
    | none => exact .fail (by rw [h₁.editor]; rfl)
    | some n => exact .pure h₁.text (by rw [h₁.editor]; rfl) rfl

/-! ### Expressions -/

section Expressions

variable {functions : UserFunctions} {depth : Nat}

/-- A scan gives what a reader reads at any depth, wherever the same text stands. -/
def Gives (functions : UserFunctions) (src : String) (read? : Nat → List Char → Option Parsed)
    (a : Scan Value) : Prop :=
  ∀ ⦃n c s p⦄, read? n s = some p → c.At src s →
    Agrees src (p.tree.eval functions c.editor) p.rest? a c

/-- A scan that goes on from a value gives what a reader reads on from a tree with that value. -/
def GoesOn (functions : UserFunctions) (src : String)
    (tail? : Nat → Expr → List Char → Option Parsed) (a : Value → Scan Value) : Prop :=
  ∀ ⦃n c s p left v e⦄, tail? n left s = some p → c.At src s →
    left.eval functions e = .ok v c.editor → Agrees src (p.tree.eval functions e) p.rest? (a v) c

/-- What is read on from a tree fails as the tree does. -/
def Strict (functions : UserFunctions) (tail? : Nat → Expr → List Char → Option Parsed) : Prop :=
  ∀ ⦃n s p left e err e₁⦄, tail? n left s = some p → left.eval functions e = .error err e₁ →
    p.tree.eval functions e = .error err e₁

theorem strict_sumTail : Strict functions (Expr.sumTail? src) :=
  fun _ _ _ _ _ _ _ => Expr.sumTail?_error

theorem strict_productTail : Strict functions (Expr.productTail? src) :=
  fun _ _ _ _ _ _ _ => Expr.productTail?_error

section Parts

variable {tail? : Nat → Expr → List Char → Option Parsed} {tail : Value → Scan Value}
  (htail : GoesOn functions src tail? tail) (hstrict : Strict functions tail?) {n : Nat}
  {c : Cursor} {s : List Char} {p : Parsed}

include htail hstrict

/-- A first part and what goes on from it. -/
theorem agrees_first {first? : Nat → List Char → Option Parsed} {first : Scan Value}
    (hfirst : Gives functions src first? first)
    (h : (match first? n s with
      | none => none
      | some q => q.andThen id (tail? n)) = some p)
    (hc : c.At src s) :
    Agrees src (p.tree.eval functions c.editor) p.rest? (do tail (← first)) c := by
  match hq : first? n s, h with
  | some (.stuck tree), h =>
    cases h
    exact .bind_stuck (hfirst hq hc) fun _ _ htree => htree
  | some (.complete tree rest), h =>
    have htree : tail? n tree rest = some p := h
    refine .bind (hfirst hq hc) (fun _ _ => hstrict htree) fun v c₁ s₁ hvalue hrest h₁ => ?_
    cases hrest
    exact htail htree h₁ hvalue

/-- An operator with its right operand, and what goes on from there. -/
theorem agrees_operand {op : Operator} {operand? : Nat → List Char → Option Parsed}
    {operand : Scan Value} (hoperand : Gives functions src operand? operand) {left : Expr}
    {v : Value} {e : Editor}
    (h : (match operand? n s with
      | none => none
      | some q => q.andThen (.binary op left) (tail? n)) = some p)
    (hc : c.At src s) (hleft : left.eval functions e = .ok v c.editor) :
    Agrees src (p.tree.eval functions e) p.rest?
      (do
        let right ← operand
        tail (← perform (arith op v right))) c := by
  match hq : operand? n s, h with
  | some (.stuck tree), h =>
    cases h
    exact .bind_stuck (hoperand hq hc) fun err e₁ hright =>
      Expr.eval_binary_right_error hleft hright
  | some (.complete tree rest), h =>
    have htree : tail? n (.binary op left tree) rest = some p := h
    refine .bind (hoperand hq hc) (fun err e₁ hright => ?_) fun w c₁ s₁ hright hrest h₁ => ?_
    · exact hstrict htree (Expr.eval_binary_right_error hleft hright)
    have hvalue := Expr.eval_binary_ok op hleft hright
    cases hrest
    refine .bind (.perform h₁ rfl rfl) (fun err e₂ harith => ?_) fun u c₂ s₂ harith hs₂ h₂ => ?_
    · exact hstrict htree (hvalue.trans harith)
    · cases hs₂
      exact htail htree h₂ (hvalue.trans harith)

end Parts

section Nothing

variable {c : Cursor} {s : List Char} (hs : dropBlanks s = [])

include hs

theorem agrees_no_factor (hc : c.At src s) :
    Agrees src (.error (.error (.invalidExpression "")) c.editor) none
      (factor functions src depth) c := by
  cases depth with
  | zero => exact .cut rfl
  | succ depth =>
    obtain ⟨c₁, h₁⟩ := reaches_step hc
    obtain ⟨c₂, h₂⟩ := reaches_peek h₁.text
    rw [factor]
    refine .next h₁ (.next h₂ ?_)
    rw [hs]
    exact .fail (by rw [h₂.editor, h₁.editor])

theorem agrees_no_product (hc : c.At src s) :
    Agrees src (.error (.error (.invalidExpression "")) c.editor) none
      (product functions src depth) c := by
  cases depth with
  | zero => exact .cut rfl
  | succ depth =>
    obtain ⟨c₁, h₁⟩ := reaches_step hc
    rw [product, ← h₁.editor]
    exact .next h₁ (.bind_stuck (agrees_no_factor hs h₁.text) fun _ _ herr => herr)

/-- Where nothing but blanks is left, there is no expression. -/
theorem agrees_nothing (hc : c.At src s) :
    Agrees src (.error (.error (.invalidExpression "")) c.editor) none (sum functions src depth)
      c := by
  cases depth with
  | zero => exact .cut rfl
  | succ depth =>
    obtain ⟨c₁, h₁⟩ := reaches_step hc
    rw [sum, ← h₁.editor]
    exact .next h₁ (.bind_stuck (agrees_no_product hs h₁.text) fun _ _ herr => herr)

end Nothing

/-- The scans at some depth give what the readers read at any depth. -/
structure Mirrors (functions : UserFunctions) (src : String) (depth : Nat) : Prop where
  sum : Gives functions src (Expr.sum? src) (sum functions src depth)
  sumTail : GoesOn functions src (Expr.sumTail? src) (sumTail functions src depth)
  product : Gives functions src (Expr.product? src) (product functions src depth)
  productTail : GoesOn functions src (Expr.productTail? src) (productTail functions src depth)
  factor : Gives functions src (Expr.factor? src) (factor functions src depth)
  items {n : Nat} {c : Cursor} {s : List Char} {p : Parsed} {close : Char} {wrap : List Expr → Expr}
    {done trees : List Expr} {vs : List Value} {e : Editor} (hwrap : wrap.Injective)
    (h : Expr.items? src close wrap n done s = some p) (hc : c.At src s)
    (hdone : Expr.evalItems functions done e = .ok vs c.editor) (htree : p.tree = wrap trees) :
    Agrees src (Expr.evalItems functions trees e) p.rest? (items functions src depth close vs) c
  entries {n : Nat} {c : Cursor} {s : List Char} {p : Parsed} {done trees : List (Expr × Expr)}
    {es : List (String × Value)} {e : Editor}
    (h : Expr.entries? src n done s = some p) (hc : c.At src s)
    (hdone : Expr.evalEntries functions done [] e = .ok es c.editor)
    (htree : p.tree = .dict trees) :
    Agrees src (Expr.evalEntries functions trees [] e) p.rest? (entries functions src depth es) c

namespace Mirrors

theorem sum_succ (ih : Mirrors functions src depth) :
    Gives functions src (Expr.sum? src) (Scan.sum functions src (depth + 1)) := by
  intro n c s p h hc
  obtain _ | n := n
  · rw [Expr.sum?] at h
    cases h
  obtain ⟨c₁, h₁⟩ := reaches_step hc
  rw [Expr.sum?] at h
  rw [Scan.sum, ← h₁.editor]
  exact .next h₁ (agrees_first ih.sumTail strict_sumTail ih.product h h₁.text)

theorem product_succ (ih : Mirrors functions src depth) :
    Gives functions src (Expr.product? src) (Scan.product functions src (depth + 1)) := by
  intro n c s p h hc
  obtain _ | n := n
  · rw [Expr.product?] at h
    cases h
  obtain ⟨c₁, h₁⟩ := reaches_step hc
  rw [Expr.product?] at h
  rw [Scan.product, ← h₁.editor]
  exact .next h₁ (agrees_first ih.productTail strict_productTail ih.factor h h₁.text)

theorem productTail_succ (ih : Mirrors functions src depth) :
    GoesOn functions src (Expr.productTail? src) (Scan.productTail functions src (depth + 1)) := by
  intro n c s p left v e h hc hleft
  obtain _ | n := n
  · rw [Expr.productTail?] at h
    cases h
  obtain ⟨c₁, h₁⟩ := reaches_step hc
  obtain ⟨c₂, h₂⟩ := reaches_peek h₁.text
  rw [Expr.productTail?] at h
  rw [Scan.productTail]
  refine .next h₁ (.next h₂ ?_)
  have htext := h₂.text
  split at h
  case h_4 hmultiply hdivide hremainder =>
    cases h
    split
    case h_4 => exact .pure htext (by rw [h₂.editor, h₁.editor]; exact hleft) rfl
    all_goals rename_i hhead
    · exact absurd hhead (head?_ne_some hmultiply)
    · exact absurd hhead (head?_ne_some hdivide)
    · exact absurd hhead (head?_ne_some hremainder)
  all_goals
    rename_i hdrop
    rw [hdrop] at htext ⊢
    obtain ⟨c₃, h₃⟩ := reaches_forward_char (n := 1) htext rfl
    refine .next h₃ (agrees_operand ih.productTail strict_productTail ih.factor h h₃.text ?_)
    rw [h₃.editor, h₂.editor, h₁.editor, hleft]

theorem sumTail_succ (ih : Mirrors functions src depth) :
    GoesOn functions src (Expr.sumTail? src) (Scan.sumTail functions src (depth + 1)) := by
  intro n c s p left v e h hc hleft
  obtain _ | n := n
  · rw [Expr.sumTail?] at h
    cases h
  obtain ⟨c₁, h₁⟩ := reaches_step hc
  obtain ⟨c₂, h₂⟩ := reaches_peek h₁.text
  rw [Expr.sumTail?] at h
  rw [Scan.sumTail]
  refine .next h₁ (.next h₂ ?_)
  have htext := h₂.text
  split at h
  case h_5 hadd hsubtract hpoints hpoint =>
    cases h
    split
    case h_4 => exact .pure htext (by rw [h₂.editor, h₁.editor]; exact hleft) rfl
    all_goals rename_i hhead
    · exact absurd hhead (head?_ne_some hadd)
    · exact absurd hhead (head?_ne_some hsubtract)
    · exact absurd hhead (head?_ne_some hpoint)
  all_goals
    rename_i hdrop
    rw [hdrop] at htext ⊢
    obtain ⟨c₃, h₃⟩ := reaches_forward_char (n := 1) htext rfl
    refine .next h₃ ?_
  case h_1 | h_2 =>
    refine agrees_operand ih.sumTail strict_sumTail ih.product h h₃.text ?_
    rw [h₃.editor, h₂.editor, h₁.editor, hleft]
  case h_3 =>
    obtain ⟨c₄, h₄⟩ := reaches_secondPoint h₃.text
    refine .next h₄ (agrees_operand ih.sumTail strict_sumTail ih.product h h₄.text ?_)
    rw [h₄.editor, h₃.editor, h₂.editor, h₁.editor, hleft]
  case h_4 r hpoints =>
    have hhead : r.head? ≠ some '.' := head?_ne_some fun r' hr => hpoints r' (hr ▸ rfl)
    refine .next (reaches_secondPoint_none h₃.text hhead)
      (agrees_operand ih.sumTail strict_sumTail ih.product h h₃.text ?_)
    rw [h₃.editor, h₂.editor, h₁.editor, hleft]

/-- After an item, the scan goes on with a comma or ends as the reader does. -/
theorem afterItem (ih : Mirrors functions src depth) {n : Nat} {c : Cursor} {s : List Char}
    {p : Parsed} {close : Char} {wrap : List Expr → Expr} {done trees : List Expr} {vs : List Value}
    {e : Editor} (hwrap : wrap.Injective)
    (h : (match dropBlanks s with
      | [] => some (.stuck (wrap (done ++ [.malformed (.invalidExpression src)])))
      | c :: r =>
        if c = ',' then Expr.items? src close wrap n done r
        else if c = close then some (.complete (wrap done) r)
        else some (.stuck (wrap (done ++ [.malformed (.invalidExpression src)])))) = some p)
    (hc : c.At src s) (hdone : Expr.evalItems functions done e = .ok vs c.editor)
    (htree : p.tree = wrap trees) :
    Agrees src (Expr.evalItems functions trees e) p.rest?
      (do
        if ← eat src ',' then Scan.items functions src depth close vs
        else
          expect src close
          return vs) c := by
  split at h
  · rename_i hend
    cases h
    rw [← hwrap htree]
    exact .broken hc (by simp [hend]) (by simp [hend])
      (Expr.evalItems_item_error hdone rfl [])
  rename_i x r hnext
  split at h
  · rename_i hcomma
    subst hcomma
    refine .separated hc hnext fun c₁ h₁ heditor => ?_
    rw [← heditor] at hdone
    exact ih.items hwrap h h₁ hdone htree
  rename_i hcomma
  split at h
  · rename_i hclose
    subst hclose
    cases h
    refine .closed hc hnext hcomma fun c₁ h₁ heditor => .pure h₁ ?_ rfl
    rw [← hwrap htree, hdone, heditor]
  · rename_i hclose
    cases h
    rw [← hwrap htree]
    exact .broken hc (by rw [hnext]; exact fun heq => hcomma (Option.some.inj heq))
      (by rw [hnext]; exact fun heq => hclose (Option.some.inj heq))
      (Expr.evalItems_item_error hdone rfl [])

theorem items_succ (ih : Mirrors functions src depth) {n : Nat} {c : Cursor} {s : List Char}
    {p : Parsed} {close : Char} {wrap : List Expr → Expr} {done trees : List Expr} {vs : List Value}
    {e : Editor} (hwrap : wrap.Injective)
    (h : Expr.items? src close wrap n done s = some p) (hc : c.At src s)
    (hdone : Expr.evalItems functions done e = .ok vs c.editor) (htree : p.tree = wrap trees) :
    Agrees src (Expr.evalItems functions trees e) p.rest?
      (Scan.items functions src (depth + 1) close vs) c := by
  obtain _ | n := n
  · rw [Expr.items?] at h
    cases h
  obtain ⟨c₁, h₁⟩ := reaches_step hc
  rw [Scan.items]
  refine .next h₁ ?_
  rw [Expr.items?] at h
  split at h
  · rename_i hdrop
    cases h
    obtain ⟨c₂, h₂⟩ := reaches_eat_false (x := close) h₁.text (by simp [hdrop])
    rw [← h₁.editor, ← h₂.editor] at hdone
    refine .next h₂ (.bind_stuck (agrees_nothing (by rw [hdrop]; rfl) h₂.text) ?_)
    rintro err e₂ ⟨⟩
    rw [← hwrap htree]
    exact Expr.evalItems_item_error hdone rfl []
  rename_i x r hdrop
  split at h
  · rename_i hx
    cases h
    obtain ⟨c₂, h₂⟩ := reaches_eat_true h₁.text (hx ▸ hdrop)
    refine .next h₂ (.pure h₂.text ?_ rfl)
    rw [← hwrap htree, hdone, h₂.editor, h₁.editor]
  rename_i hx
  obtain ⟨c₂, h₂⟩ := reaches_eat_false (x := close) h₁.text
    (by rw [hdrop]; exact fun heq => hx (Option.some.inj heq))
  rw [← h₁.editor, ← h₂.editor] at hdone
  have htext : c₂.At src (x :: r) := by rw [← hdrop]; exact h₂.text
  refine .next h₂ ?_
  split at h
  · cases h
  · rename_i tree hsum
    cases h
    rw [← hwrap htree]
    exact .bind_stuck (ih.sum hsum htext) fun err e₂ herr =>
      Expr.evalItems_item_error hdone herr []
  · rename_i tree rest hsum
    refine .bind (ih.sum hsum htext) (fun err e₂ herr => ?_) fun v c₃ s₃ hvalue hrest h₃ => ?_
    · obtain ⟨more, hmore⟩ := Expr.afterItem_tree Expr.items?_tree h
      rw [hwrap (htree.symm.trans hmore), List.append_assoc]
      exact Expr.evalItems_item_error hdone herr more
    · cases hrest
      exact ih.afterItem hwrap h h₃ (Expr.evalItems_item hdone hvalue) htree

/-- After an entry, the scan goes on with a comma or ends as the reader does. -/
theorem afterEntry (ih : Mirrors functions src depth) {n : Nat} {c : Cursor} {s : List Char}
    {p : Parsed} {done trees : List (Expr × Expr)} {es : List (String × Value)} {e : Editor}
    (h : (match dropBlanks s with
      | ',' :: r => Expr.entries? src n done r
      | '\x7d' :: r => some (.complete (.dict done) r)
      | _ => some (.stuck (.dict
          (done ++ [(.malformed (.invalidExpression src), .str "")])))) = some p)
    (hc : c.At src s) (hdone : Expr.evalEntries functions done [] e = .ok es c.editor)
    (htree : p.tree = .dict trees) :
    Agrees src (Expr.evalEntries functions trees [] e) p.rest?
      (do
        if ← eat src ',' then Scan.entries functions src depth es
        else
          expect src '\x7d'
          return es) c := by
  split at h
  · rename_i hnext
    refine .separated hc hnext fun c₁ h₁ heditor => ?_
    rw [← heditor] at hdone
    exact ih.entries h h₁ hdone htree
  · rename_i hnext
    cases h
    refine .closed hc hnext (by decide) fun c₁ h₁ heditor => .pure h₁ ?_ rfl
    rw [← Expr.dict.inj htree, hdone, heditor]
  · rename_i hcomma hclose
    cases h
    rw [← Expr.dict.inj htree]
    exact .broken hc (head?_ne_some hcomma) (head?_ne_some hclose)
      (Expr.evalEntries_key_error hdone rfl [])

/-- After a key, the scan goes on with its value or ends as the reader does. -/
theorem afterKey (ih : Mirrors functions src depth) {n : Nat} {c : Cursor} {s : List Char}
    {p : Parsed} {done trees : List (Expr × Expr)} {key : Expr} {k : Value}
    {es : List (String × Value)} {e e₁ : Editor}
    (h : (match dropBlanks s with
      | ':' :: r =>
        match Expr.sum? src n r with
        | none => none
        | some (.stuck value) => some (.stuck (.dict (done ++ [(key, value)])))
        | some (.complete value rest) =>
          match dropBlanks rest with
          | ',' :: r => Expr.entries? src n (done ++ [(key, value)]) r
          | '\x7d' :: r => some (.complete (.dict (done ++ [(key, value)])) r)
          | _ => some (.stuck (.dict (done ++ [(key, value)] ++
              [(.malformed (.invalidExpression src), .str "")])))
      | _ => some (.stuck (.dict
          (done ++ [(key, .malformed (.invalidExpression src))])))) = some p)
    (hc : c.At src s) (hdone : Expr.evalEntries functions done [] e = .ok es e₁)
    (hkey : key.eval functions e₁ = .ok k c.editor) (htree : p.tree = .dict trees) :
    Agrees src (Expr.evalEntries functions trees [] e) p.rest?
      (do
        let key ← perform do return (← get).store.echo k
        expect src ':'
        let v ← Scan.sum functions src depth
        if ← eat src ',' then Scan.entries functions src depth (Entries.insert key v es)
        else
          expect src '\x7d'
          return Entries.insert key v es) c := by
  refine .next (reaches_echo hc k) ?_
  split at h
  · rename_i r hcolon
    obtain ⟨c₁, h₁⟩ := reaches_expect hc hcolon
    rw [← h₁.editor] at hkey ⊢
    refine .next h₁ ?_
    split at h
    · cases h
    · rename_i value hsum
      cases h
      rw [← Expr.dict.inj htree]
      exact .bind_stuck (ih.sum hsum h₁.text) fun err e₂ herr =>
        Expr.evalEntries_value_error hdone hkey herr []
    · rename_i value rest hsum
      refine .bind (ih.sum hsum h₁.text) (fun err e₂ herr => ?_) fun v c₂ s₂ hvalue hrest h₂ => ?_
      · obtain ⟨more, hmore⟩ := Expr.afterEntry_tree Expr.entries?_tree h
        rw [Expr.dict.inj (htree.symm.trans hmore), List.append_assoc]
        exact Expr.evalEntries_value_error hdone hkey herr more
      · cases hrest
        exact ih.afterEntry h h₂ (Expr.evalEntries_entry hdone hkey hvalue) htree
  · rename_i hcolon
    cases h
    rw [← Expr.dict.inj htree]
    exact .expect_error hc (head?_ne_some hcolon) (Expr.evalEntries_value_error hdone hkey rfl [])

theorem entries_succ (ih : Mirrors functions src depth) {n : Nat} {c : Cursor} {s : List Char}
    {p : Parsed} {done trees : List (Expr × Expr)} {es : List (String × Value)} {e : Editor}
    (h : Expr.entries? src n done s = some p) (hc : c.At src s)
    (hdone : Expr.evalEntries functions done [] e = .ok es c.editor)
    (htree : p.tree = .dict trees) :
    Agrees src (Expr.evalEntries functions trees [] e) p.rest?
      (Scan.entries functions src (depth + 1) es) c := by
  obtain _ | n := n
  · rw [Expr.entries?] at h
    cases h
  obtain ⟨c₁, h₁⟩ := reaches_step hc
  rw [Scan.entries]
  refine .next h₁ ?_
  rw [Expr.entries?] at h
  dsimp only at h
  split at h
  · rename_i hdrop
    cases h
    obtain ⟨c₂, h₂⟩ := reaches_eat_false (x := '\x7d') h₁.text (by simp [hdrop])
    rw [← h₁.editor, ← h₂.editor] at hdone
    refine .next h₂ (.bind_stuck (agrees_nothing (by rw [hdrop]; rfl) h₂.text) ?_)
    rintro err e₂ ⟨⟩
    rw [← Expr.dict.inj htree]
    exact Expr.evalEntries_key_error hdone rfl []
  rename_i x r hdrop
  split at h
  · rename_i hx
    cases h
    obtain ⟨c₂, h₂⟩ := reaches_eat_true h₁.text (hx ▸ hdrop)
    refine .next h₂ (.pure h₂.text ?_ rfl)
    rw [← Expr.dict.inj htree, hdone, h₂.editor, h₁.editor]
  rename_i hx
  obtain ⟨c₂, h₂⟩ := reaches_eat_false (x := '\x7d') h₁.text
    (by rw [hdrop]; exact fun heq => hx (Option.some.inj heq))
  rw [← h₁.editor, ← h₂.editor] at hdone
  have htext : c₂.At src (x :: r) := by rw [← hdrop]; exact h₂.text
  refine .next h₂ ?_
  split at h
  · cases h
  · rename_i key hsum
    cases h
    rw [← Expr.dict.inj htree]
    exact .bind_stuck (ih.sum hsum htext) fun err e₂ herr =>
      Expr.evalEntries_key_error hdone herr []
  · rename_i key rest hsum
    refine .bind (ih.sum hsum htext) (fun err e₂ herr => ?_) fun k c₃ s₃ hkey hrest h₃ => ?_
    · obtain ⟨value, more, hmore⟩ :=
        Expr.afterKey_tree (Expr.entries? src n) Expr.entries?_tree h
      rw [Expr.dict.inj (htree.symm.trans hmore)]
      exact Expr.evalEntries_key_error hdone herr more
    · cases hrest
      exact ih.afterKey h h₃ hdone hkey htree

/-- Expressions between brackets, and what is made of their values. -/
theorem enclosed (ih : Mirrors functions src depth) {n : Nat} {c : Cursor} {s : List Char}
    {p : Parsed} {close : Char} {wrap : List Expr → Expr} {make : List Value → Eval Value}
    (hwrap : wrap.Injective)
    (heval : ∀ trees, (wrap trees).eval functions = Expr.evalItems functions trees >>= make)
    (h : Expr.items? src close wrap n [] s = some p) (hc : c.At src s) :
    Agrees src (p.tree.eval functions c.editor) p.rest?
      (do
        let vs ← Scan.items functions src depth close []
        perform (make vs)) c := by
  obtain ⟨trees, htree⟩ := Expr.items?_tree h
  rw [List.nil_append] at htree
  have hitems := ih.items hwrap h hc (e := c.editor) rfl htree
  rw [htree, heval]
  refine .bind hitems (fun err e herr => ?_) fun vs c₁ s₁ hvs hrest h₁ => ?_
  · rw [bind_apply, herr]
  · exact .perform h₁ (by rw [bind_apply, hvs]) hrest

/-- A dictionary between braces. -/
theorem dictionary (ih : Mirrors functions src depth) {n : Nat} {c : Cursor} {s : List Char}
    {p : Parsed}
    (h : Expr.entries? src n [] s = some p) (hc : c.At src s) :
    Agrees src (p.tree.eval functions c.editor) p.rest?
      (do
        let es ← Scan.entries functions src depth []
        perform (Eval.newDict es)) c := by
  obtain ⟨trees, htree⟩ := Expr.entries?_tree h
  rw [List.nil_append] at htree
  have hentries := ih.entries h hc (e := c.editor) rfl htree
  rw [htree, Expr.eval]
  refine .bind hentries (fun err e herr => ?_) fun es c₁ s₁ hes hrest h₁ => ?_
  · rw [bind_apply, herr]
  · exact .perform h₁ (by rw [bind_apply, hes]) hrest

/-- A name with the arguments of a call, or without any. -/
theorem named (ih : Mirrors functions src depth) {n : Nat} {c : Cursor} {s : List Char}
    {p : Parsed}
    (h : (match dropBlanks (s.dropWhile isNameChar) with
      | '(' :: rest =>
        Expr.items? src ')' (.call (String.ofList (s.takeWhile isNameChar))) n [] rest
      | rest =>
        some (.complete (.variable (String.ofList (s.takeWhile isNameChar))) rest)) = some p)
    (hc : c.At src s) :
    Agrees src (p.tree.eval functions c.editor) p.rest?
      (name functions src (Scan.items functions src depth ')' [])) c := by
  have hsplit : s.takeWhile isNameChar ++ s.dropWhile isNameChar = s :=
    List.takeWhile_append_dropWhile
  obtain ⟨c₁, h₁⟩ := reaches_forward (t := s.takeWhile isNameChar) (s := s.dropWhile isNameChar)
    (by rwa [hsplit]) rfl
  rw [name]
  refine .next (reaches_rest hc) (.next h₁ ?_)
  split at h
  · rename_i rest hopen
    obtain ⟨c₂, h₂⟩ := reaches_eat_true h₁.text hopen
    rw [← h₁.editor, ← h₂.editor]
    exact .next h₂ (ih.enclosed (fun _ _ => (Expr.call.inj · |>.2))
      (fun _ => by rw [Expr.eval]) h h₂.text)
  · rename_i hopen
    cases h
    obtain ⟨c₂, h₂⟩ := reaches_eat_false (x := '(') h₁.text (head?_ne_some hopen)
    refine .next h₂ (.perform h₂.text ?_ rfl)
    rw [h₂.editor, h₁.editor, Parsed.tree, Expr.eval]

/-- A minus sign in front of a factor. -/
theorem negation (ih : Mirrors functions src depth) {n : Nat} {c : Cursor} {s : List Char}
    {p : Parsed}
    (h : (match Expr.factor? src n s with
      | none => none
      | some q => q.andThen .negate fun tree rest => some (.complete tree rest)) = some p)
    (hc : c.At src s) :
    Agrees src (p.tree.eval functions c.editor) p.rest?
      (do
        let v ← Scan.factor functions src depth
        perform (arith .subtract (.number 0) v)) c := by
  match hq : Expr.factor? src n s, h with
  | some (.stuck tree), h =>
    cases h
    refine .bind_stuck (ih.factor hq hc) fun err e herr => ?_
    rw [Parsed.tree, Expr.eval, bind_apply, show tree.eval functions c.editor = _ from herr]
  | some (.complete tree rest), h =>
    cases h
    refine .bind (ih.factor hq hc) (fun err e herr => ?_) fun v c₁ s₁ hv hrest h₁ => ?_
    · rw [Parsed.tree, Expr.eval, bind_apply, show tree.eval functions c.editor = _ from herr]
    · refine .perform h₁ ?_ hrest
      rw [Parsed.tree, Expr.eval, bind_apply, show tree.eval functions c.editor = _ from hv]

/-- An expression between brackets. -/
theorem bracketed (ih : Mirrors functions src depth) {n : Nat} {c : Cursor} {s : List Char}
    {p : Parsed}
    (h : (match Expr.sum? src n s with
      | none => none
      | some q => q.andThen id fun tree rest =>
        match dropBlanks rest with
        | ')' :: rest => some (.complete tree rest)
        | _ => some (.stuck (.unfinished tree (.invalidExpression src)))) = some p)
    (hc : c.At src s) :
    Agrees src (p.tree.eval functions c.editor) p.rest?
      (do
        let v ← Scan.sum functions src depth
        expect src ')'
        return v) c := by
  match hq : Expr.sum? src n s, h with
  | some (.stuck tree), h =>
    cases h
    exact .bind_stuck (ih.sum hq hc) fun _ _ herr => herr
  | some (.complete tree rest), h =>
    simp only [Parsed.andThen, id] at h
    split at h
    · rename_i hclose
      cases h
      refine .bind (ih.sum hq hc) (fun _ _ herr => herr) fun v c₁ s₁ hv hrest h₁ => ?_
      cases hrest
      obtain ⟨c₂, h₂⟩ := reaches_expect h₁ hclose
      refine .next h₂ (.pure h₂.text ?_ rfl)
      rw [h₂.editor]
      exact hv
    · rename_i hclose
      cases h
      refine .bind (ih.sum hq hc) (fun err e herr => ?_) fun v c₁ s₁ hv hrest h₁ => ?_
      · rw [Parsed.tree, Expr.eval, bind_apply, show tree.eval functions c.editor = _ from herr]
      · cases hrest
        refine .expect_error h₁ (head?_ne_some hclose) ?_
        rw [Parsed.tree, Expr.eval, bind_apply, show tree.eval functions c.editor = _ from hv]
        rfl

theorem factor_succ (ih : Mirrors functions src depth) :
    Gives functions src (Expr.factor? src) (Scan.factor functions src (depth + 1)) := by
  intro n c s p h hc
  obtain _ | n := n
  · rw [Expr.factor?] at h
    cases h
  obtain ⟨c₁, h₁⟩ := reaches_step hc
  obtain ⟨c₂, h₂⟩ := reaches_peek h₁.text
  have heditor : c₂.editor = c.editor := h₂.editor.trans h₁.editor
  rw [Scan.factor, ← heditor]
  refine .next h₁ (.next h₂ ?_)
  have htext := h₂.text
  cases hdrop : dropBlanks s with
  | nil =>
    rw [Expr.factor?, hdrop] at h
    cases h
    exact .fail rfl
  | cons x r =>
    rw [hdrop] at htext
    split
    case h_1 hhead => cases hhead
    case h_8 y hminus hbracket hquote hquotes hlist hdict hhead =>
      cases hhead
      split
      · rename_i hdigit
        rw [Expr.factor?_number hdrop hdigit] at h
        cases h
        exact agrees_number htext
      split
      · rename_i hname
        rw [Expr.factor?_name hdrop hname] at h
        exact ih.named h htext
      · rename_i hdigit hname
        have hx : x ∉ ['-', '(', '\'', '"', '[', '\x7b'] := by
          simpa using ⟨hminus, hbracket, hquote, hquotes, hlist, hdict⟩
        rw [Expr.factor?_other hdrop hx hdigit hname] at h
        cases h
        exact .fail rfl
    all_goals
      rename_i hhead
      cases hhead
      rw [Expr.factor?, hdrop] at h
      obtain ⟨c₃, h₃⟩ := reaches_forward_char (n := 1) htext rfl
      rw [← h₃.editor]
      refine .next h₃ ?_
    case h_2 => exact ih.negation h h₃.text
    case h_3 => exact ih.bracketed h h₃.text
    case h_4 =>
      cases h
      exact agrees_readQuoted (agrees_singleQuoted depth h₃.text [])
    case h_5 =>
      cases h
      exact agrees_readQuoted (agrees_doubleQuoted depth h₃.text [])
    case h_6 =>
      exact ih.enclosed (fun _ _ => Expr.list.inj) (fun _ => by rw [Expr.eval]) h h₃.text
    case h_7 => exact ih.dictionary h h₃.text

end Mirrors

/-- The scans give what the readers read. -/
theorem mirrors (functions : UserFunctions) (src : String) (depth : Nat) :
    Mirrors functions src depth := by
  induction depth with
  | zero =>
    constructor
    case sum | product | factor => exact fun _ _ _ _ _ _ => .cut rfl
    case sumTail | productTail => exact fun _ _ _ _ _ _ _ _ _ _ => .cut rfl
    case items | entries => intros; exact .cut rfl
  | succ depth ih =>
    exact ⟨ih.sum_succ, ih.sumTail_succ, ih.product_succ, ih.productTail_succ, ih.factor_succ,
      ih.items_succ, ih.entries_succ⟩

/-! ### Whole texts -/

section Whole

variable (functions : UserFunctions) (depth : Nat) {c : Cursor} {s : List Char}

theorem agrees_sum (hc : c.At src s) :
    Agrees src ((Expr.readSum src s).tree.eval functions c.editor) (Expr.readSum src s).rest?
      (sum functions src depth) c :=
  (mirrors functions src _).sum (Expr.sum?_eq (Nat.le_refl _)) hc

theorem agrees_product (hc : c.At src s) :
    Agrees src ((Expr.readProduct src s).tree.eval functions c.editor)
      (Expr.readProduct src s).rest? (product functions src depth) c :=
  (mirrors functions src _).product (Expr.product?_eq (Nat.le_refl _)) hc

theorem agrees_factor (hc : c.At src s) :
    Agrees src ((Expr.readFactor src s).tree.eval functions c.editor)
      (Expr.readFactor src s).rest? (factor functions src depth) c :=
  (mirrors functions src _).factor (Expr.factor?_eq (Nat.le_refl _)) hc

/-- A scan of a whole text gives what the text evaluates to. -/
theorem agrees_whole (hc : c.At src src.toList) :
    Agrees src (evalText functions src c.editor) (some []) (whole functions src depth) c := by
  have hsum := agrees_sum functions depth hc
  rw [whole, evalText, Expr.ofText, Expr.read_eq]
  cases hread : Expr.readSum src src.toList with
  | stuck tree =>
    rw [hread] at hsum
    exact .bind_stuck hsum fun _ _ herr => herr
  | complete tree rest =>
    rw [hread] at hsum
    dsimp only
    split
    · rename_i hend
      refine .bind hsum (fun _ _ herr => herr) fun v c₁ s₁ hv hrest h₁ => ?_
      cases hrest
      obtain ⟨c₂, h₂⟩ := reaches_atEnd h₁
      have htext := h₂.text
      rw [hend] at h₂ htext
      exact .next h₂ (.pure htext (by rw [h₂.editor]; exact hv) rfl)
    · rename_i hend
      refine .bind hsum (fun err e herr => ?_) fun v c₁ s₁ hv hrest h₁ => ?_
      · rw [Expr.eval, bind_apply, show tree.eval functions c.editor = _ from herr]
      · cases hrest
        obtain ⟨c₂, h₂⟩ := reaches_atEnd h₁
        have hmore : (dropBlanks rest).isEmpty = false := List.isEmpty_eq_false_iff.mpr hend
        rw [hmore] at h₂
        refine .next h₂ (.next (reaches_rest h₂.text) (.fail ?_))
        rw [Expr.eval, bind_apply, show tree.eval functions c.editor = _ from hv, h₂.editor]
        rfl

/-- At the end there are no further texts. -/
theorem agrees_texts_end {done : List String} (hc : c.At src s) (hend : dropBlanks s = []) :
    Agrees src (((done ++ ·) <$> echoAll functions []) c.editor) (some [])
      (texts functions src (depth + 1) done) c := by
  obtain ⟨c₁, h₁⟩ := reaches_step hc
  obtain ⟨c₂, h₂⟩ := reaches_atEnd h₁.text
  have htext := h₂.text
  rw [hend] at h₂ htext
  rw [texts]
  refine .next h₁ (.next h₂ (.pure htext ?_ rfl))
  rw [map_eq_pure_bind, echoAll, pure_bind, List.append_nil, pure_apply, h₂.editor, h₁.editor]

/-- A scan of the expressions of a text gives their texts, each evaluated before the next one. -/
theorem agrees_texts {count : Nat} (hcount : s.length ≤ count) (hc : c.At src s)
    (done : List String) :
    Agrees src
      (((done ++ ·) <$> echoAll functions (Expr.readAllWithin src count s)) c.editor) (some [])
      (texts functions src depth done) c := by
  induction depth generalizing count c s done with
  | zero => exact .cut rfl
  | succ depth ih =>
    cases count with
    | zero =>
      obtain rfl : s = [] := List.length_eq_zero_iff.mp (Nat.le_zero.mp hcount)
      exact agrees_texts_end functions depth hc rfl
    | succ count =>
      rw [Expr.readAllWithin]
      split
      · rename_i hend
        exact agrees_texts_end functions depth hc (List.isEmpty_iff.mp hend)
      rename_i hmore
      obtain ⟨c₁, h₁⟩ := reaches_step hc
      obtain ⟨c₂, h₂⟩ := reaches_atEnd h₁.text
      rw [Bool.not_eq_true] at hmore
      rw [hmore] at h₂
      have hsum := agrees_sum functions depth h₂.text
      rw [Expr.readSum_dropBlanks, h₂.editor, h₁.editor] at hsum
      rw [texts, Expr.read_eq]
      refine .next h₁ (.next h₂ ?_)
      cases hread : Expr.readSum src s with
      | stuck tree =>
        rw [hread] at hsum
        exact .bind_stuck hsum fun _ _ => echoAll_error
      | complete tree rest =>
        have hlength : rest.length ≤ count := by
          have hrest := Expr.readSum_length hread
          omega
        rw [hread] at hsum
        refine .bind hsum (fun _ _ => echoAll_error) fun v c₃ s₃ hv hrest h₃ => ?_
        cases hrest
        refine .next (reaches_echo h₃ v) ?_
        have hagrees := ih hlength h₃ (done ++ [c₃.editor.store.echo v])
        rwa [← echoAll_ok hv] at hagrees

theorem agrees_readAll (hc : c.At src src.toList) :
    Agrees src (echoAll functions (Expr.readAll src) c.editor) (some [])
      (texts functions src depth []) c := by
  have hagrees := agrees_texts functions depth (Nat.le_refl _) hc []
  simpa only [List.nil_append, id_map', Expr.readAll] using hagrees

end Whole

end Expressions

end Scan

end ScriptBridge.Host
