import ScriptBridge.Host.Functions
import ScriptBridge.Proofs.Host.Scan.Meaning

/-!
# Every scan ends

Each byte that a scan passes pays for six steps. A number, a string, a name or a bracket is paid for
by its own bytes, and so is every turn of a loop but the last one. So a scan that gives a value has
passed some text, which keeps the recursion and the loops from going on for ever, and the number of
its steps is bounded by what it has passed. In the same way, each byte makes room for a depth of
four. Whatever text stands at a cursor, a scan from there ends, at a boundary of the text, and it
does what the interpreter does with the tree that it reads there.
-/

namespace ScriptBridge.Host

open Text (dropBlanks)

namespace Scan

variable {α β : Type} {src : String}

/-! ### The account -/

/-- From one cursor to another the position does not go back, and there are at most `k` steps more
than six for each byte between them. -/
structure Paid (c c' : Cursor) (k : Int) : Prop where
  onward : c.pos ≤ c'.pos
  steps : c.steps ≤ c'.steps
  due : (c'.steps : Int) - c.steps ≤ 6 * ((c'.pos : Int) - c.pos) + k

namespace Paid

variable {c c₁ c₂ : Cursor} {s s₁ : List Char} {k k₁ k₂ : Int}

theorem refl (c : Cursor) : Paid c c 0 := ⟨Nat.le_refl _, Nat.le_refl _, by omega⟩

theorem mono (h : Paid c c₁ k) (hk : k ≤ k₁) : Paid c c₁ k₁ :=
  ⟨h.onward, h.steps, Int.le_trans h.due (by omega)⟩

theorem trans (h : Paid c c₁ k) (h₁ : Paid c₁ c₂ k₁) : Paid c c₂ (k + k₁) := by
  have hdue := h.due
  have hdue₁ := h₁.due
  exact ⟨Nat.le_trans h.onward h₁.onward, Nat.le_trans h.steps h₁.steps, by omega⟩

/-- Fewer than six steps for each byte: some text has been passed. -/
theorem bytes_lt (h : Paid c c₁ k) (hk : k < 0) (hc : c.At src s) (hc₁ : c₁.At src s₁) :
    bytes s₁ < bytes s := by
  have hsteps := h.steps
  have hdue := h.due
  have hpos := hc.pos_add
  have hpos₁ := hc₁.pos_add
  omega

end Paid

/-- What a move that takes `k` steps past some text owes. -/
theorem Reaches.paid {a : Scan α} {c c' : Cursor} {v : α} {s s' : List Char} {k : Nat} {m : Int}
    (h : Reaches src a c v s' k c') (hc : c.At src s) (hbytes : bytes s' ≤ bytes s)
    (hm : (k : Int) - 6 * ((bytes s : Int) - bytes s') ≤ m) : Paid c c' m := by
  have hsteps := h.steps
  have hpos := hc.pos_add
  have hpos' := h.text.pos_add
  exact ⟨by omega, by omega, by omega⟩

/-- A scan ends where some text stands. Counted from a cursor `base`, it owes at most `k` steps if
it gives a value and at most `l` if it fails. -/
inductive Ends (src : String) (base : Cursor) (k l : Int) (a : Scan α) (c : Cursor) : Prop where
  | value (v : α) (c' : Cursor) (s : List Char) (run : a c = some (.ok v, c')) (text : c'.At src s)
    (paid : Paid base c' k)
  | stop (err : Stop HostError) (c' : Cursor) (s : List Char) (run : a c = some (.error err, c'))
    (text : c'.At src s) (paid : Paid base c' l)

namespace Ends

variable {base c c₁ : Cursor} {a : Scan α} {f : α → Scan β} {v : α} {s : List Char}
  {k k₁ l l₁ m : Int}

theorem mono (h : Ends src base k l a c) (hk : k ≤ k₁) (hl : l ≤ l₁) : Ends src base k₁ l₁ a c := by
  cases h with
  | value v c' s run text paid => exact .value v c' s run text (paid.mono hk)
  | stop err c' s run text paid => exact .stop err c' s run text (paid.mono hl)

/-- Counted from an earlier cursor. -/
theorem after (h : Ends src c₁ k l a c) (hbase : Paid base c₁ m) :
    Ends src base (m + k) (m + l) a c := by
  cases h with
  | value v c' s run text paid => exact .value v c' s run text (hbase.trans paid)
  | stop err c' s run text paid => exact .stop err c' s run text (hbase.trans paid)

theorem next {n : Nat} (ha : Reaches src a c v s n c₁) (hf : Ends src base k l (f v) c₁) :
    Ends src base k l (a >>= f) c := by
  have hrun : (a >>= f) c = f v c₁ := bind_ok ha.run f
  cases hf with
  | value v c' s run text paid => exact .value v c' s (hrun.trans run) text paid
  | stop err c' s run text paid => exact .stop err c' s (hrun.trans run) text paid

theorem bind (ha : Ends src c k₁ l₁ a c) (hbase : Paid base c m) (hl : m + l₁ ≤ l)
    (hf : ∀ v c' s, c'.At src s → Paid base c' (m + k₁) → Ends src base k l (f v) c') :
    Ends src base k l (a >>= f) c := by
  cases ha with
  | value v c' s run text paid =>
    have hrun : (a >>= f) c = f v c' := bind_ok run f
    cases hf v c' s text (hbase.trans paid) with
    | value w c'' s run text paid => exact .value w c'' s (hrun.trans run) text paid
    | stop err c'' s run text paid => exact .stop err c'' s (hrun.trans run) text paid
  | stop err c' s run text paid =>
    exact .stop err c' s (bind_error run f) text ((hbase.trans paid).mono hl)

theorem pure (hc : c.At src s) (hbase : Paid base c m) (hm : m ≤ k) :
    Ends src base k l (Pure.pure v) c := .value v c s rfl hc (hbase.mono hm)

theorem fail {err : HostError} (hc : c.At src s) (hbase : Paid base c m) (hm : m ≤ l) :
    Ends src base k l (Scan.fail (α := α) err) c := .stop _ c s rfl hc (hbase.mono hm)

end Ends

/-- A scan owes that much wherever the depth leaves room for four calls for each byte that is left,
and for `j` more. -/
def Affords (src : String) (depth j : Nat) (k l : Int) (a : Scan α) : Prop :=
  ∀ c s, c.At src s → 4 * bytes s + j ≤ depth → Ends src c k l a c

theorem bytes_dropBlanks (s : List Char) : bytes (dropBlanks s) ≤ bytes s := by
  have hsplit : s.takeWhile Text.isBlank ++ dropBlanks s = s := List.takeWhile_append_dropWhile
  have hbytes := bytes_append (s.takeWhile Text.isBlank) (dropBlanks s)
  rw [hsplit] at hbytes
  omega

section Moves

variable {base c : Cursor} {f : α → Scan β} {s : List Char} {k k₁ l l₁ m : Int} {depth j : Nat}

/-- A scan that goes on where another one has come to. -/
theorem Affords.resume {a : Scan α} (ha : Affords src depth j k₁ l₁ a) (hc : c.At src s)
    (hdepth : 4 * bytes s + j ≤ depth) (hbase : Paid base c m) (hk : m + k₁ ≤ k)
    (hl : m + l₁ ≤ l) : Ends src base k l a c :=
  ((ha c s hc hdepth).after hbase).mono hk hl

theorem Ends.step {f : Unit → Scan β} (hc : c.At src s)
    (hf : ∀ c', c'.At src s → Paid c c' 1 → Ends src c k l (f ()) c') :
    Ends src c k l (Scan.step >>= f) c := by
  obtain ⟨c', h⟩ := reaches_step hc
  exact .next h (hf c' h.text (h.paid hc (Nat.le_refl _) (by omega)))

/-- The bytes of a text that is not empty pay for six steps. -/
theorem Ends.past {f : Unit → Scan β} {t : List Char} {i : Nat} (hc : c.At src (t ++ s))
    (ht : t ≠ []) (hi : i = bytes t) (hbase : Paid base c m)
    (hf : ∀ c', c'.At src s → Paid base c' (m - 6) → Ends src base k l (f ()) c') :
    Ends src base k l (Scan.forward i >>= f) c := by
  obtain ⟨c', h⟩ := reaches_forward hc hi
  obtain ⟨x, r, rfl⟩ := List.exists_cons_of_ne_nil ht
  have hbytes := bytes_append (x :: r) s
  have hcons := bytes_cons x r
  have hsize := x.utf8Size_pos
  have hpaid : Paid c c' (-6) := h.paid hc (by omega) (by omega)
  exact .next h (hf c' h.text ((hbase.trans hpaid).mono (by omega)))

theorem Ends.forward {f : Unit → Scan β} {x : Char} {i : Nat} (hc : c.At src (x :: s))
    (hi : i = x.utf8Size) (hbase : Paid base c m)
    (hf : ∀ c', c'.At src s → Paid base c' (m - 6) → Ends src base k l (f ()) c') :
    Ends src base k l (Scan.forward i >>= f) c :=
  .past (t := [x]) hc (List.cons_ne_nil _ _) (by rw [hi, bytes_cons, bytes_nil, Nat.add_zero])
    hbase hf

/-- The interpreter does not move the cursor. -/
theorem Ends.perform {a : Eval α} (hc : c.At src s) : Ends src c 0 0 (Scan.perform a) c := by
  have hpaid (e : Editor) : Paid c { c with editor := e } 0 :=
    ⟨Nat.le_refl _, Nat.le_refl _, by dsimp only; omega⟩
  cases h : a c.editor with
  | ok v e =>
    refine .value v { c with editor := e } s ?_ (hc.of_pos rfl) (hpaid e)
    rw [Scan.perform, h]
  | error err e =>
    refine .stop err { c with editor := e } s ?_ (hc.of_pos rfl) (hpaid e)
    rw [Scan.perform, h]

/-- The work of the interpreter at the end of a scan. -/
theorem Ends.performed {a : Eval α} (hc : c.At src s) (hbase : Paid base c m) (hk : m ≤ k)
    (hl : m ≤ l) : Ends src base k l (Scan.perform a) c :=
  ((Ends.perform hc).after hbase).mono (by omega) (by omega)

theorem Ends.rest {f : List Char → Scan β} (hc : c.At src s)
    (hf : Ends src base k l (f s) c) : Ends src base k l (Scan.rest src >>= f) c :=
  .next (reaches_rest hc) hf

theorem Ends.peek {f : Option Char → Scan β} (hc : c.At src s) (hbase : Paid base c m)
    (hf : ∀ c', c'.At src (dropBlanks s) → Paid base c' m →
      Ends src base k l (f (dropBlanks s).head?) c') :
    Ends src base k l (Scan.peek src >>= f) c := by
  obtain ⟨c', h⟩ := reaches_peek hc
  have hbytes := bytes_dropBlanks s
  have hpaid : Paid c c' 0 := h.paid hc hbytes (by omega)
  exact .next h (hf c' h.text ((hbase.trans hpaid).mono (by omega)))

theorem Ends.atEnd {f : Bool → Scan β} (hc : c.At src s) (hbase : Paid base c m)
    (hf : ∀ c', c'.At src (dropBlanks s) → Paid base c' m →
      Ends src base k l (f (dropBlanks s).isEmpty) c') :
    Ends src base k l (Scan.atEnd src >>= f) c := by
  obtain ⟨c', h⟩ := reaches_atEnd hc
  have hbytes := bytes_dropBlanks s
  have hpaid : Paid c c' 0 := h.paid hc hbytes (by omega)
  exact .next h (hf c' h.text ((hbase.trans hpaid).mono (by omega)))

theorem Ends.eat {f : Bool → Scan β} {x : Char} (hc : c.At src s) (hbase : Paid base c m)
    (htrue : ∀ c' r, c'.At src r → Paid base c' (m - 6) → Ends src base k l (f true) c')
    (hfalse : ∀ c', c'.At src (dropBlanks s) → Paid base c' m → Ends src base k l (f false) c') :
    Ends src base k l (Scan.eat src x >>= f) c := by
  have hbytes := bytes_dropBlanks s
  by_cases hx : (dropBlanks s).head? = some x
  · obtain ⟨r, hr⟩ := List.head?_eq_some_iff.mp hx
    obtain ⟨c', h⟩ := reaches_eat_true hc hr
    have hcons := bytes_cons x r
    have hsize := x.utf8Size_pos
    rw [hr] at hbytes
    have hpaid : Paid c c' (-6) := h.paid hc (by omega) (by omega)
    exact .next h (htrue c' r h.text ((hbase.trans hpaid).mono (by omega)))
  · obtain ⟨c', h⟩ := reaches_eat_false hc hx
    have hpaid : Paid c c' 0 := h.paid hc hbytes (by omega)
    exact .next h (hfalse c' h.text ((hbase.trans hpaid).mono (by omega)))

theorem Ends.expect {f : Unit → Scan β} {x : Char} (hc : c.At src s) (hbase : Paid base c m)
    (hl : m ≤ l) (hf : ∀ c' r, c'.At src r → Paid base c' (m - 6) → Ends src base k l (f ()) c') :
    Ends src base k l (Scan.expect src x >>= f) c := by
  by_cases hx : (dropBlanks s).head? = some x
  · obtain ⟨r, hr⟩ := List.head?_eq_some_iff.mp hx
    obtain ⟨c', h⟩ := reaches_expect hc hr
    have hbytes := bytes_dropBlanks s
    have hcons := bytes_cons x r
    have hsize := x.utf8Size_pos
    rw [hr] at hbytes
    have hpaid : Paid c c' (-6) := h.paid hc (by omega) (by omega)
    exact .next h (hf c' r h.text ((hbase.trans hpaid).mono (by omega)))
  · obtain ⟨c', hrun, htext, hsteps, -⟩ := expect_eq_error hc hx
    have hbytes := bytes_dropBlanks s
    have hpos := hc.pos_add
    have hpos' := htext.pos_add
    have hpaid : Paid c c' 0 := ⟨by omega, by omega, by omega⟩
    exact .stop _ c' _ (bind_error hrun f) htext ((hbase.trans hpaid).mono (by omega))

/-- A second point may be there or not. -/
theorem Ends.secondPoint {f : Unit → Scan β} (hc : c.At src s) (hbase : Paid base c m)
    (hf : ∀ c' r, c'.At src r → Paid base c' m → Ends src base k l (f ()) c') :
    Ends src base k l (Scan.secondPoint src >>= f) c := by
  by_cases hs : s.head? = some '.'
  · obtain ⟨r, rfl⟩ := List.head?_eq_some_iff.mp hs
    obtain ⟨c', h⟩ := reaches_secondPoint hc
    have hbytes := bytes_cons '.' r
    have hpaid : Paid c c' 0 := h.paid hc (by omega) (by omega)
    exact .next h (hf c' r h.text ((hbase.trans hpaid).mono (by omega)))
  · exact .next (reaches_secondPoint_none hc hs) (hf c s hc hbase)

end Moves

/-! ### Parts without nesting -/

theorem affords_singleQuoted (depth : Nat) (out : List Char) :
    Affords src depth 1 (-1) 1 (singleQuoted src depth out) := by
  induction depth generalizing out with
  | zero => exact fun _ _ _ hdepth => absurd hdepth (by omega)
  | succ depth ih =>
    intro c s hc hdepth
    rw [singleQuoted]
    refine .step hc fun c₁ h₁ hp₁ => .rest h₁ ?_
    cases s with
    | nil => exact .fail h₁ hp₁ (by decide)
    | cons x r =>
      refine .forward h₁ rfl hp₁ fun c₂ h₂ hp₂ => ?_
      have hr := hp₂.bytes_lt (by decide) hc h₂
      split
      · refine .rest h₂ ?_
        split
        · rename_i hquote
          obtain ⟨r', rfl⟩ := List.head?_eq_some_iff.mp hquote
          refine .forward h₂ rfl hp₂ fun c₃ h₃ hp₃ => ?_
          have hr' := hp₃.bytes_lt (by decide) hc h₃
          exact (ih _).resume h₃ (by omega) hp₃ (by decide) (by decide)
        · exact .pure h₂ hp₂ (by decide)
      · exact (ih _).resume h₂ (by omega) hp₂ (by decide) (by decide)

theorem affords_doubleQuoted (depth : Nat) (out : List Char) :
    Affords src depth 1 (-1) 1 (doubleQuoted src depth out) := by
  induction depth generalizing out with
  | zero => exact fun _ _ _ hdepth => absurd hdepth (by omega)
  | succ depth ih =>
    intro c s hc hdepth
    rw [doubleQuoted]
    refine .step hc fun c₁ h₁ hp₁ => .rest h₁ ?_
    cases s with
    | nil => exact .fail h₁ hp₁ (by decide)
    | cons x r =>
      refine .forward h₁ rfl hp₁ fun c₂ h₂ hp₂ => ?_
      have hr := hp₂.bytes_lt (by decide) hc h₂
      split
      · exact .pure h₂ hp₂ (by decide)
      split
      · refine .rest h₂ ?_
        cases r with
        | nil => exact (ih _).resume h₂ (by omega) hp₂ (by decide) (by decide)
        | cons y r =>
          refine .forward h₂ rfl hp₂ fun c₃ h₃ hp₃ => ?_
          have hr' := hp₃.bytes_lt (by decide) hc h₃
          exact (ih _).resume h₃ (by omega) hp₃ (by decide) (by decide)
      · exact (ih _).resume h₂ (by omega) hp₂ (by decide) (by decide)

/-- A number is paid for by its first digit. -/
theorem ends_number {c : Cursor} {x : Char} {r : List Char} (hc : c.At src (x :: r))
    (hx : x.isDigit = true) : Ends src c (-6) (-6) (number src) c := by
  obtain ⟨s, hs⟩ := Expr.numberText_isPrefix (x :: r)
  have hc' : c.At src (numberText (x :: r) ++ s) := by rwa [hs]
  rw [number]
  refine .rest hc (.past hc' (numberText_ne_nil hx) rfl (.refl c) fun c₁ h₁ hp₁ => ?_)
  dsimp only
  split
  · exact .pure h₁ hp₁ (by decide)
  · exact .fail h₁ hp₁ (by decide)

/-! ### Expressions -/

section Expressions

variable {functions : UserFunctions} {depth : Nat}

/-- An operator is paid for by its own bytes, and so is its operand. -/
theorem ends_operand {base c : Cursor} {s₀ s : List Char} (op : Operator) (left : Value)
    {operand : Scan Value} {tail : Value → Scan Value} {j : Nat} {k l : Int}
    (hoperand : Affords src depth j k l operand) (hj : j ≤ 4) (hk : k < 0) (hl : l ≤ 2)
    (htail : ∀ v, Affords src depth 1 1 3 (tail v)) (hstart : base.At src s₀)
    (hdepth : 4 * bytes s₀ ≤ depth) (hc : c.At src s) (hbase : Paid base c (-5)) :
    Ends src base 1 3
      (do
        let right ← operand
        tail (← perform (arith op left right))) c := by
  have hs := hbase.bytes_lt (by decide) hstart hc
  refine .bind (hoperand c s hc (by omega)) hbase (by omega) fun right c₁ s₁ h₁ hp₁ => ?_
  refine .bind (.perform h₁) hp₁ (by omega) fun v c₂ s₂ h₂ hp₂ => ?_
  have hs₂ := hp₂.bytes_lt (by omega) hstart h₂
  exact (htail v).resume h₂ (by omega) hp₂ (by omega) (by omega)

/-- A name is paid for by its first character. -/
theorem ends_name {c : Cursor} {x : Char} {r : List Char} {args : Scan (List Value)}
    (hargs : Affords src depth 4 (-1) 4 args) (hx : startsName x = true)
    (hc : c.At src (x :: r)) (hdepth : 4 * bytes (x :: r) ≤ depth) :
    Ends src c (-6) 0 (name functions src args) c := by
  have htext : (x :: r).takeWhile isNameChar ≠ [] := by
    rw [List.takeWhile_cons_of_pos (isNameChar_of_startsName hx)]
    exact List.cons_ne_nil _ _
  have hc' : c.At src ((x :: r).takeWhile isNameChar ++ (x :: r).dropWhile isNameChar) := by
    rwa [List.takeWhile_append_dropWhile]
  rw [name]
  refine .rest hc (.past hc' htext rfl (.refl c) fun c₁ h₁ hp₁ => ?_)
  refine .eat h₁ hp₁ (fun c₂ s₂ h₂ hp₂ => ?_) fun c₂ h₂ hp₂ => ?_
  · have hs₂ := hp₂.bytes_lt (by decide) hc h₂
    refine .bind (hargs c₂ s₂ h₂ (by omega)) hp₂ (by decide) fun vs c₃ s₃ h₃ hp₃ => ?_
    exact .performed h₃ hp₃ (by decide) (by decide)
  · exact .performed h₂ hp₂ (by decide) (by decide)

/-- What the scans of expressions owe at some depth. -/
structure Bounded (functions : UserFunctions) (src : String) (depth : Nat) : Prop where
  sum : Affords src depth 3 (-1) 3 (sum functions src depth)
  sumTail (left : Value) : Affords src depth 1 1 3 (sumTail functions src depth left)
  product : Affords src depth 2 (-3) 2 (product functions src depth)
  productTail (left : Value) : Affords src depth 1 1 3 (productTail functions src depth left)
  factor : Affords src depth 1 (-5) 1 (factor functions src depth)
  items (close : Char) (done : List Value) :
    Affords src depth 4 (-1) 4 (items functions src depth close done)
  entries (done : List (String × Value)) :
    Affords src depth 4 (-1) 4 (entries functions src depth done)

namespace Bounded

theorem sum_succ (ih : Bounded functions src depth) :
    Affords src (depth + 1) 3 (-1) 3 (Scan.sum functions src (depth + 1)) := by
  intro c s hc hdepth
  rw [Scan.sum]
  refine .step hc fun c₁ h₁ hp₁ => ?_
  refine .bind (ih.product c₁ s h₁ (by omega)) hp₁ (by decide) fun v c₂ s₂ h₂ hp₂ => ?_
  have hs₂ := hp₂.bytes_lt (by decide) hc h₂
  exact (ih.sumTail v).resume h₂ (by omega) hp₂ (by decide) (by decide)

theorem sumTail_succ (ih : Bounded functions src depth) (left : Value) :
    Affords src (depth + 1) 1 1 3 (Scan.sumTail functions src (depth + 1) left) := by
  intro c s hc hdepth
  rw [Scan.sumTail]
  refine .step hc fun c₁ h₁ hp₁ => .peek h₁ hp₁ fun c₂ h₂ hp₂ => ?_
  have hoperand (op : Operator) {c' : Cursor} {r : List Char} :=
    ends_operand op left (c := c') (s := r) ih.product (by decide) (by decide) (by decide)
      ih.sumTail hc (by omega)
  cases hs : dropBlanks s with
  | nil => exact .pure h₂ hp₂ (by decide)
  | cons x r =>
    rw [hs] at h₂
    split
    case h_1 heq | h_2 heq =>
      cases heq
      exact .forward h₂ rfl hp₂ fun c₃ h₃ hp₃ => hoperand _ h₃ hp₃
    case h_3 heq =>
      cases heq
      exact .forward h₂ rfl hp₂ fun c₃ h₃ hp₃ => .secondPoint h₃ hp₃ fun c₄ s₄ h₄ hp₄ =>
        hoperand _ h₄ hp₄
    case h_4 => exact .pure h₂ hp₂ (by decide)

theorem product_succ (ih : Bounded functions src depth) :
    Affords src (depth + 1) 2 (-3) 2 (Scan.product functions src (depth + 1)) := by
  intro c s hc hdepth
  rw [Scan.product]
  refine .step hc fun c₁ h₁ hp₁ => ?_
  refine .bind (ih.factor c₁ s h₁ (by omega)) hp₁ (by decide) fun v c₂ s₂ h₂ hp₂ => ?_
  have hs₂ := hp₂.bytes_lt (by decide) hc h₂
  exact (ih.productTail v).resume h₂ (by omega) hp₂ (by decide) (by decide)

theorem productTail_succ (ih : Bounded functions src depth) (left : Value) :
    Affords src (depth + 1) 1 1 3 (Scan.productTail functions src (depth + 1) left) := by
  intro c s hc hdepth
  rw [Scan.productTail]
  refine .step hc fun c₁ h₁ hp₁ => .peek h₁ hp₁ fun c₂ h₂ hp₂ => ?_
  cases hs : dropBlanks s with
  | nil => exact .pure h₂ hp₂ (by decide)
  | cons x r =>
    rw [hs] at h₂
    split
    case h_4 => exact .pure h₂ hp₂ (by decide)
    all_goals
      rename_i heq
      cases heq
      exact .forward h₂ rfl hp₂ fun c₃ h₃ hp₃ =>
        ends_operand _ _ ih.factor (by decide) (by decide) (by decide) ih.productTail hc (by omega)
          h₃ hp₃

theorem factor_succ (ih : Bounded functions src depth) :
    Affords src (depth + 1) 1 (-5) 1 (Scan.factor functions src (depth + 1)) := by
  intro c s hc hdepth
  have hbytes := bytes_dropBlanks s
  rw [Scan.factor]
  refine .step hc fun c₁ h₁ hp₁ => .peek h₁ hp₁ fun c₂ h₂ hp₂ => ?_
  cases hs : dropBlanks s with
  | nil => exact .fail h₂ hp₂ (by decide)
  | cons x r =>
    rw [hs] at h₂ hbytes
    have hcons := bytes_cons x r
    have hsize := x.utf8Size_pos
    -- The first character makes room for a part of any kind.
    have hr {j : Nat} (hj : j ≤ 4) : 4 * bytes r + j ≤ depth := by omega
    split
    case h_1 heq => cases heq
    case h_2 heq =>
      cases heq
      refine .forward h₂ rfl hp₂ fun c₃ h₃ hp₃ => ?_
      refine .bind (ih.factor c₃ r h₃ (hr (by decide))) hp₃ (by decide) fun v c₄ s₄ h₄ hp₄ => ?_
      exact .performed h₄ hp₄ (by decide) (by decide)
    case h_3 heq =>
      cases heq
      refine .forward h₂ rfl hp₂ fun c₃ h₃ hp₃ => ?_
      refine .bind (ih.sum c₃ r h₃ (hr (by decide))) hp₃ (by decide) fun v c₄ s₄ h₄ hp₄ => ?_
      exact .expect h₄ hp₄ (by decide) fun c₅ s₅ h₅ hp₅ => .pure h₅ hp₅ (by decide)
    case h_4 heq =>
      cases heq
      exact .forward h₂ rfl hp₂ fun c₃ h₃ hp₃ =>
        (affords_singleQuoted depth []).resume h₃ (hr (by decide)) hp₃ (by decide) (by decide)
    case h_5 heq =>
      cases heq
      exact .forward h₂ rfl hp₂ fun c₃ h₃ hp₃ =>
        (affords_doubleQuoted depth []).resume h₃ (hr (by decide)) hp₃ (by decide) (by decide)
    case h_6 heq =>
      cases heq
      refine .forward h₂ rfl hp₂ fun c₃ h₃ hp₃ => ?_
      refine .bind (ih.items ']' [] c₃ r h₃ (hr (by decide))) hp₃ (by decide)
        fun vs c₄ s₄ h₄ hp₄ => ?_
      exact .performed h₄ hp₄ (by decide) (by decide)
    case h_7 heq =>
      cases heq
      refine .forward h₂ rfl hp₂ fun c₃ h₃ hp₃ => ?_
      refine .bind (ih.entries [] c₃ r h₃ (hr (by decide))) hp₃ (by decide)
        fun es c₄ s₄ h₄ hp₄ => ?_
      exact .performed h₄ hp₄ (by decide) (by decide)
    case h_8 heq =>
      cases heq
      split
      · rename_i hdigit
        exact ((ends_number h₂ hdigit).after hp₂).mono (by decide) (by decide)
      split
      · rename_i hname
        exact ((ends_name (ih.items ')' []) hname h₂ (by omega)).after hp₂).mono (by decide)
          (by decide)
      · exact .fail h₂ hp₂ (by decide)

theorem items_succ (ih : Bounded functions src depth) (close : Char) (done : List Value) :
    Affords src (depth + 1) 4 (-1) 4 (Scan.items functions src (depth + 1) close done) := by
  intro c s hc hdepth
  have hbytes := bytes_dropBlanks s
  rw [Scan.items]
  refine .step hc fun c₁ h₁ hp₁ => .eat h₁ hp₁ (fun c₂ s₂ h₂ hp₂ => ?_) fun c₂ h₂ hp₂ => ?_
  · exact .pure h₂ hp₂ (by decide)
  refine .bind (ih.sum c₂ _ h₂ (by omega)) hp₂ (by decide) fun v c₃ s₃ h₃ hp₃ => ?_
  refine .eat h₃ hp₃ (fun c₄ s₄ h₄ hp₄ => ?_) fun c₄ h₄ hp₄ => ?_
  · have hs₄ := hp₄.bytes_lt (by decide) hc h₄
    exact (ih.items close _).resume h₄ (by omega) hp₄ (by decide) (by decide)
  · exact .expect h₄ hp₄ (by decide) fun c₅ s₅ h₅ hp₅ => .pure h₅ hp₅ (by decide)

theorem entries_succ (ih : Bounded functions src depth) (done : List (String × Value)) :
    Affords src (depth + 1) 4 (-1) 4 (Scan.entries functions src (depth + 1) done) := by
  intro c s hc hdepth
  have hbytes := bytes_dropBlanks s
  rw [Scan.entries]
  refine .step hc fun c₁ h₁ hp₁ => .eat h₁ hp₁ (fun c₂ s₂ h₂ hp₂ => ?_) fun c₂ h₂ hp₂ => ?_
  · exact .pure h₂ hp₂ (by decide)
  refine .bind (ih.sum c₂ _ h₂ (by omega)) hp₂ (by decide) fun k c₃ s₃ h₃ hp₃ => ?_
  refine .bind (.perform h₃) hp₃ (by decide) fun key c₄ s₄ h₄ hp₄ => ?_
  refine .expect h₄ hp₄ (by decide) fun c₅ s₅ h₅ hp₅ => ?_
  have hs₅ := hp₅.bytes_lt (by decide) hc h₅
  refine .bind (ih.sum c₅ s₅ h₅ (by omega)) hp₅ (by decide) fun v c₆ s₆ h₆ hp₆ => ?_
  refine .eat h₆ hp₆ (fun c₇ s₇ h₇ hp₇ => ?_) fun c₇ h₇ hp₇ => ?_
  · have hs₇ := hp₇.bytes_lt (by decide) hc h₇
    exact (ih.entries _).resume h₇ (by omega) hp₇ (by decide) (by decide)
  · exact .expect h₇ hp₇ (by decide) fun c₈ s₈ h₈ hp₈ => .pure h₈ hp₈ (by decide)

end Bounded

/-- At every depth, the scans of expressions end and pay for their steps. -/
theorem bounded (functions : UserFunctions) (src : String) (depth : Nat) :
    Bounded functions src depth := by
  induction depth with
  | zero => constructor <;> intros <;> exact fun _ _ _ hdepth => absurd hdepth (by omega)
  | succ depth ih =>
    exact ⟨ih.sum_succ, ih.sumTail_succ, ih.product_succ, ih.productTail_succ, ih.factor_succ,
      ih.items_succ, ih.entries_succ⟩

theorem affords_whole (functions : UserFunctions) (depth : Nat) :
    Affords src depth 3 (-1) 3 (whole functions src depth) := by
  intro c s hc hdepth
  rw [whole]
  refine .bind ((bounded functions src depth).sum c s hc hdepth) (.refl c) (by decide)
    fun v c₁ s₁ h₁ hp₁ => .atEnd h₁ hp₁ fun c₂ h₂ hp₂ => ?_
  split
  · exact .pure h₂ hp₂ (by decide)
  · exact .rest h₂ (.fail h₂ hp₂ (by decide))

theorem affords_texts (functions : UserFunctions) (depth : Nat) (done : List String) :
    Affords src depth 4 1 4 (texts functions src depth done) := by
  induction depth generalizing done with
  | zero => exact fun _ _ _ hdepth => absurd hdepth (by omega)
  | succ depth ih =>
    intro c s hc hdepth
    have hbytes := bytes_dropBlanks s
    rw [texts]
    refine .step hc fun c₁ h₁ hp₁ => .atEnd h₁ hp₁ fun c₂ h₂ hp₂ => ?_
    split
    · exact .pure h₂ hp₂ (by decide)
    · have hsum := (bounded functions src depth).sum c₂ _ h₂ (by omega)
      -- The turn pays for its own step only because the expression is not empty.
      refine (Ends.after (k := 0) (l := 3) ?_ hp₂).mono (by decide) (by decide)
      refine .bind hsum (.refl c₂) (by decide) fun v c₃ s₃ h₃ hp₃ => ?_
      refine .bind (.perform h₃) hp₃ (by decide) fun text c₄ s₄ h₄ hp₄ => ?_
      have hs₄ := hp₄.bytes_lt (by decide) h₂ h₄
      exact (ih _).resume h₄ (by omega) hp₄ (by decide) (by decide)

end Expressions

/-! ### Every text -/

section Every

variable {functions : UserFunctions} {c c' : Cursor} {s : List Char}

/-- From one cursor to another: onward to a boundary of the text, in a number of steps that is
bounded by what lies between them. -/
structure Course (src : String) (c c' : Cursor) : Prop where
  boundary : c'.OnBoundary src
  onward : c.pos ≤ c'.pos
  within : c'.pos ≤ src.utf8ByteSize
  steps : c'.steps ≤ c.steps + 6 * (c'.pos - c.pos) + 4

/-- A depth that the length of the text sets is enough for a scan: it is not cut off, and it has the
same outcome at every greater depth. -/
def Runs (src : String) (a : Nat → Scan α) (c : Cursor) (r : Except (Stop HostError) α)
    (c' : Cursor) : Prop :=
  ∀ depth, 4 * src.utf8ByteSize + 4 ≤ depth → a depth c = some (r, c')

/-- A scan ends, whether with a value or with a failure. -/
def Finishes (src : String) (a : Nat → Scan α) (c : Cursor) : Prop :=
  ∃ r c', Runs src a c r c' ∧ Course src c c'

/-- A scan for an expression, where `p` is what is read from the text at the cursor. -/
structure Calls (functions : UserFunctions) (src : String) (p : Parsed) (a : Nat → Scan Value)
    (c : Cursor) : Prop where
  finishes : Finishes src a c
  /-- A value is behind some text. -/
  passes {v : Value} {c' : Cursor} (h : Runs src a c (.ok v) c') : c.pos < c'.pos
  /-- The outcome is that of the tree. -/
  evaluates {r : Except (Stop HostError) Value} {c' : Cursor} (h : Runs src a c r c') :
    c'.outcome r = p.tree.eval functions c.editor
  /-- The text that is left is at the new position. -/
  leaves {v : Value} {c' : Cursor} (h : Runs src a c (.ok v) c') :
    p.rest? = textFrom? src.toList c'.pos

/-- The loops, whatever they have got so far. -/
structure Loops (functions : UserFunctions) (src : String) (c : Cursor) : Prop where
  sumTail (left : Value) : Finishes src (sumTail functions src · left) c
  productTail (left : Value) : Finishes src (productTail functions src · left) c
  items (close : Char) (done : List Value) : Finishes src (items functions src · close done) c
  entries (done : List (String × Value)) : Finishes src (entries functions src · done) c
  singleQuoted (out : List Char) : Finishes src (singleQuoted src · out) c
  doubleQuoted (out : List Char) : Finishes src (doubleQuoted src · out) c
  texts (done : List String) : Finishes src (texts functions src · done) c

/-- From the start of the text, a scan does what a computation of the interpreter does. -/
def Performs (src : String) (a : Nat → Scan α) (want : Eval α) : Prop :=
  ∀ e, ∃ r c', Runs src a ⟨0, e, 0⟩ r c' ∧ c'.outcome r = want e ∧
    c'.steps ≤ 6 * src.utf8ByteSize + 4

theorem Paid.course (h : Paid c c' 4) (htext : c'.At src s) : Course src c c' := by
  have hpos := htext.pos_add
  have hdue := h.due
  have honward := h.onward
  exact ⟨Cursor.onBoundary_iff.mpr ⟨s, htext⟩, honward, by omega, by omega⟩

section Outcomes

variable {a : Scan α} {k l : Int} {want : EStateM.Result (Stop HostError) Editor α}
  {rest : Option (List Char)}

/-- Fewer than six steps for each byte: some text has been passed. -/
theorem Ends.passes {v : α} (h : Ends src c k l a c) (hk : k < 0)
    (hrun : a c = some (.ok v, c')) : c.pos < c'.pos := by
  cases h with
  | value w c₁ s run text paid =>
    obtain ⟨-, rfl⟩ := Prod.mk.inj (Option.some.inj (run.symm.trans hrun))
    have hdue := paid.due
    have hsteps := paid.steps
    omega
  | stop err c₁ s run text paid => cases run.symm.trans hrun

theorem Agrees.outcome {r : Except (Stop HostError) α} (h : Agrees src want rest a c)
    (hrun : a c = some (r, c')) : c'.outcome r = want := by
  cases h with
  | value v c₁ s run want_eq =>
    obtain ⟨rfl, rfl⟩ := Prod.mk.inj (Option.some.inj (run.symm.trans hrun))
    exact want_eq.symm
  | stop err c₁ run want_eq =>
    obtain ⟨rfl, rfl⟩ := Prod.mk.inj (Option.some.inj (run.symm.trans hrun))
    exact want_eq.symm
  | cut run => cases run.symm.trans hrun

theorem Agrees.leaves {v : α} (h : Agrees src want rest a c) (hrun : a c = some (.ok v, c')) :
    rest = textFrom? src.toList c'.pos := by
  cases h with
  | value w c₁ s run want_eq rest_eq text =>
    obtain ⟨-, rfl⟩ := Prod.mk.inj (Option.some.inj (run.symm.trans hrun))
    rw [rest_eq, text.textFrom?_eq]
  | stop err c₁ run want_eq => cases run.symm.trans hrun
  | cut run => cases run.symm.trans hrun

end Outcomes

section Depths

variable {a : Nat → Scan α} {j : Nat} {k l : Int} (ha : ∀ depth, Affords src depth j k l (a depth))

include ha

/-- The bytes of the whole text leave room for what is owed at any of its boundaries. -/
theorem Affords.ends (hj : j ≤ 4) (hc : c.At src s) :
    Ends src c k l (a (4 * src.utf8ByteSize + 4)) c := by
  have hpos := hc.pos_add
  exact ha _ c s hc (by omega)

theorem Affords.finishes (hkeeps : ∀ n, Keeps (a n) (a (n + 1))) (hc : c.At src s) (hj : j ≤ 4)
    (hk : k ≤ 4) (hl : l ≤ 4) : Finishes src a c := by
  cases Affords.ends ha hj hc with
  | value v c' s run text paid =>
    exact ⟨_, c', fun _ hdepth => Keeps.of_le hkeeps hdepth c _ run, (paid.mono hk).course text⟩
  | stop err c' s run text paid =>
    exact ⟨_, c', fun _ hdepth => Keeps.of_le hkeeps hdepth c _ run, (paid.mono hl).course text⟩

end Depths

/-- A scan that pays for itself and agrees with a reader. -/
theorem calls {p : Parsed} {a : Nat → Scan Value} {j : Nat} {k l : Int}
    (ha : ∀ depth, Affords src depth j k l (a depth)) (hkeeps : ∀ n, Keeps (a n) (a (n + 1)))
    (hj : j ≤ 4) (hk : k < 0) (hl : l ≤ 4) (hc : c.At src s)
    (hagrees : ∀ depth, Agrees src (p.tree.eval functions c.editor) p.rest? (a depth) c) :
    Calls functions src p a c where
  finishes := Affords.finishes ha hkeeps hc hj (by omega) hl
  passes h := (Affords.ends ha hj hc).passes hk (h _ (Nat.le_refl _))
  evaluates h := (hagrees _).outcome (h _ (Nat.le_refl _))
  leaves h := (hagrees _).leaves (h _ (Nat.le_refl _))

theorem loops (functions : UserFunctions) (hc : c.At src s) : Loops functions src c where
  sumTail left := Affords.finishes (fun n => (bounded functions src n).sumTail left)
    (fun n => (deepens functions src n).sumTail left) hc (by decide) (by decide) (by decide)
  productTail left := Affords.finishes (fun n => (bounded functions src n).productTail left)
    (fun n => (deepens functions src n).productTail left) hc (by decide) (by decide) (by decide)
  items close done := Affords.finishes (fun n => (bounded functions src n).items close done)
    (fun n => (deepens functions src n).items close done) hc (by decide) (by decide) (by decide)
  entries done := Affords.finishes (fun n => (bounded functions src n).entries done)
    (fun n => (deepens functions src n).entries done) hc (by decide) (by decide) (by decide)
  singleQuoted out := Affords.finishes (affords_singleQuoted · out)
    (keeps_singleQuoted src · out) hc (by decide) (by decide) (by decide)
  doubleQuoted out := Affords.finishes (affords_doubleQuoted · out)
    (keeps_doubleQuoted src · out) hc (by decide) (by decide) (by decide)
  texts done := Affords.finishes (affords_texts functions · done)
    (keeps_texts functions src · done) hc (by decide) (by decide) (by decide)

theorem performs {a : Nat → Scan α} {want : Eval α} {rest : Option (List Char)}
    (hfinishes : ∀ e, Finishes src a ⟨0, e, 0⟩)
    (hagrees : ∀ depth e, Agrees src (want e) rest (a depth) ⟨0, e, 0⟩) :
    Performs src a want := by
  intro e
  obtain ⟨r, c', hruns, hcourse⟩ := hfinishes e
  refine ⟨r, c', hruns, (hagrees _ e).outcome (hruns _ (Nat.le_refl _)), ?_⟩
  have hsteps := hcourse.steps
  have hwithin := hcourse.within
  dsimp only at hsteps
  omega

/-- From each boundary of a text, whether the text is well-formed or not, every call for an
expression and every loop ends, at a boundary, in a number of steps that is bounded by the length of
the text, and an expression with a value has taken some text. The scans are those of the
interpreter: they give what the trees that are read there evaluate to, and so do the scans of all of
a text, for one expression and for expressions one after another. -/
theorem ends_on_boundary_in_bounded_steps (functions : UserFunctions) {src : String} {c : Cursor}
    (h : c.OnBoundary src) :
    (∃ s, textFrom? src.toList c.pos = some s ∧
      Calls functions src (Expr.read src s) (sum functions src) c ∧
      Calls functions src (Expr.readProduct src s) (product functions src) c ∧
      Calls functions src (Expr.readFactor src s) (factor functions src) c) ∧
    Loops functions src c ∧
    Performs src (whole functions src) (evalText functions src) ∧
    Performs src (texts functions src · []) (echoAll functions (Expr.readAll src)) := by
  obtain ⟨s, hc⟩ := Cursor.onBoundary_iff.mp h
  have hbounded := bounded functions src
  have hdeepens := deepens functions src
  have hstart (e : Editor) := Cursor.At.start src e 0
  refine ⟨⟨s, hc.textFrom?_eq, ?_, ?_, ?_⟩, loops functions hc, ?_, ?_⟩
  · rw [Expr.read_eq]
    exact calls (fun n => (hbounded n).sum) (fun n => (hdeepens n).sum) (by decide) (by decide)
      (by decide) hc (agrees_sum functions · hc)
  · exact calls (fun n => (hbounded n).product) (fun n => (hdeepens n).product) (by decide)
      (by decide) (by decide) hc (agrees_product functions · hc)
  · exact calls (fun n => (hbounded n).factor) (fun n => (hdeepens n).factor) (by decide)
      (by decide) (by decide) hc (agrees_factor functions · hc)
  · exact performs
      (fun e => Affords.finishes (affords_whole functions) (keeps_whole functions src) (hstart e)
        (by decide) (by decide) (by decide))
      fun depth e => agrees_whole functions depth (hstart e)
  · exact performs (fun e => (loops functions (hstart e)).texts [])
      fun depth e => agrees_readAll functions depth (hstart e)

/-- Behind a letter of two bytes stands a list that is closed no more than the string in it. -/
theorem unclosed_list_ends_on_boundary :
    (⟨2, .new, 0⟩ : Cursor).OnBoundary "é[1, 'x" ∧
    ∃ c', Runs "é[1, 'x" (sum Functions.empty "é[1, 'x") ⟨2, .new, 0⟩
        (.error (.error (.missingSingleQuote "é[1, 'x"))) c' ∧
      Course "é[1, 'x" ⟨2, .new, 0⟩ c' := by
  have h : (⟨2, .new, 0⟩ : Cursor).OnBoundary "é[1, 'x" :=
    Cursor.onBoundary_iff.mpr ⟨"[1, 'x".toList, "é".toList, by decide, by decide⟩
  refine ⟨h, ?_⟩
  obtain ⟨⟨s, hs, hsum, -⟩, -⟩ := ends_on_boundary_in_bounded_steps Functions.empty h
  have htext : textFrom? "é[1, 'x".toList 2 = some "[1, 'x".toList := by decide
  obtain rfl : s = "[1, 'x".toList := Option.some.inj (hs.symm.trans htext)
  obtain ⟨r, c', hruns, hcourse⟩ := hsum.finishes
  have heval : c'.outcome r = .error (.error (.missingSingleQuote "é[1, 'x")) .new :=
    hsum.evaluates hruns
  cases r with
  | ok v => cases heval
  | error err =>
    obtain ⟨rfl, -⟩ := EStateM.Result.error.inj heval
    exact ⟨c', hruns, hcourse⟩

/-- A string with a letter of two bytes and the blank behind it take five bytes. -/
example : (sum Functions.empty "'é' 2" 32 ⟨0, .new, 0⟩).map (fun r => (r.2.pos, r.2.steps)) =
    some (5, 7) := by decide

end Every

end Scan

end ScriptBridge.Host
