import Mathlib.Data.List.DropRight
import ScriptBridge.Host.Expr.Parse
import ScriptBridge.Proofs.Text.Front

/-!
# Reading expressions at any depth

The readers of expressions take a bound on their nesting. Each of them leaves less text than it was
given, so a bound that grows with the length of the text is never reached: from some depth on a
reader always gives the same answer. That answer obeys the equations of a reader without a bound.
-/

namespace ScriptBridge.Host

open Text (dropBlanks)

/-- A reader gives one answer at two depths, and leaves less than `n` characters. -/
def Agree (n : Nat) (a b : Option Parsed) : Prop :=
  ∃ p, a = some p ∧ b = some p ∧ ∀ tree rest, p = .complete tree rest → rest.length < n

theorem dropBlanks_idem (s : List Char) : dropBlanks (dropBlanks s) = dropBlanks s :=
  List.dropWhile_idempotent _ _

theorem dropBlanks_length (s : List Char) : (dropBlanks s).length ≤ s.length :=
  (List.dropWhile_suffix _).length_le

/-- An answer that goes on, where no depth bounds what comes next. -/
def Parsed.into (p : Parsed) (wrap : Expr → Expr) (next : Expr → List Char → Parsed) : Parsed :=
  match p with
  | .complete tree rest => next (wrap tree) rest
  | .stuck tree => .stuck (wrap tree)

theorem Parsed.andThen_eq {p : Parsed} {wrap : Expr → Expr}
    {next : Expr → List Char → Option Parsed} {next' : Expr → List Char → Parsed}
    (h : ∀ tree rest, p = .complete tree rest → next (wrap tree) rest = some (next' (wrap tree) rest)) :
    p.andThen wrap next = some (p.into wrap next') := by
  cases p with
  | complete tree rest => exact h tree rest rfl
  | stuck tree => rfl

/-- The tree of what was read. -/
def Parsed.tree : Parsed → Expr
  | .complete tree _ => tree
  | .stuck tree => tree

/-- The text that is left, if all of the expression was read. -/
def Parsed.rest? : Parsed → Option (List Char)
  | .complete _ rest => some rest
  | .stuck _ => none

/-- The sign of an operator. -/
def Operator.sign : Operator → Char
  | .add => '+'
  | .subtract => '-'
  | .concat => '.'
  | .multiply => '*'
  | .divide => '/'
  | .remainder => '%'

/-- How tightly an operator binds: those of a sum less than those of a product. -/
def Operator.level : Operator → Nat
  | .add | .subtract | .concat => 0
  | .multiply | .divide | .remainder => 1

/-! ### Parts without nesting -/

theorem readSingleQuoted_length {s text rest : List Char}
    (h : readSingleQuoted s = some (text, rest)) : rest.length < s.length := by
  fun_induction readSingleQuoted s generalizing text with
  | case1 => cases h
  | case2 s ih =>
    obtain ⟨⟨text', rest'⟩, hs, heq⟩ := Option.map_eq_some_iff.mp h
    cases heq
    have hrest : rest'.length < s.length := ih hs
    simp only [List.length_cons]
    omega
  | case3 =>
    cases h
    simp
  | case4 c s hquote hc ih =>
    obtain ⟨⟨text', rest'⟩, hs, heq⟩ := Option.map_eq_some_iff.mp h
    cases heq
    have hrest : rest'.length < s.length := ih hs
    simp only [List.length_cons]
    omega

theorem readDoubleQuoted_length {s text rest : List Char}
    (h : readDoubleQuoted s = some (text, rest)) : rest.length < s.length := by
  fun_induction readDoubleQuoted s generalizing text with
  | case1 => cases h
  | case2 s =>
    cases h
    simp
  | case3 => cases h
  | case4 c s ih | case5 c s _ _ _ ih =>
    obtain ⟨⟨text', rest'⟩, hs, heq⟩ := Option.map_eq_some_iff.mp h
    cases heq
    have hrest : rest'.length < s.length := ih hs
    simp only [List.length_cons]
    omega

theorem readQuoted_length {r : Option (List Char × List Char)} {missing : HostError} {n : Nat}
    (h : ∀ text rest, r = some (text, rest) → rest.length < n) {tree : Expr} {rest : List Char}
    (hread : readQuoted r missing = .complete tree rest) : rest.length < n := by
  unfold readQuoted at hread
  split at hread
  · cases hread
    exact h _ _ rfl
  · cases hread

/-- The text of a number starts with its first digit. -/
theorem numberText_ne_nil {c : Char} {s : List Char} (hc : c.isDigit = true) :
    numberText (c :: s) ≠ [] := by
  have htext : (c :: s).takeWhile isNumeric = c :: s.takeWhile isNumeric := by
    simp [isNumeric, hc]
  unfold numberText
  rw [htext]
  dsimp only
  split
  · split
    · nofun
    · simp [hc]
  · simp [hc]

theorem readNumber_length {c : Char} {s rest : List Char} {tree : Expr} (hc : c.isDigit = true)
    (h : readNumber (c :: s) = .complete tree rest) : rest.length < (c :: s).length := by
  have hlength : 0 < (numberText (c :: s)).length :=
    List.length_pos_iff.mpr (numberText_ne_nil hc)
  unfold readNumber at h
  dsimp only at h
  split at h
  · cases h
    simp only [List.length_drop, List.length_cons]
    omega
  · cases h

/-- A character that a name starts with. -/
def startsName (c : Char) : Bool := c.isAlpha || c = '_'

theorem isNameChar_of_startsName {c : Char} (hc : startsName c = true) : isNameChar c = true := by
  simp only [startsName, isNameChar, Char.isAlphanum] at hc ⊢
  grind

/-- A name does not start as a number does. -/
theorem isDigit_of_startsName {c : Char} (hc : startsName c = true) : c.isDigit = false := by
  by_contra hdigit
  simp only [Char.isDigit, Bool.not_eq_false, Bool.and_eq_true, decide_eq_true_eq, ge_iff_le,
    UInt32.le_iff_toNat_le] at hdigit
  obtain halpha | hunderscore := Bool.or_eq_true_iff.mp hc
  · have hletter : 65 ≤ c.val.toNat := (Text.toNat_of_isAlpha halpha).1
    have hnine : '9'.val.toNat = 57 := by decide
    omega
  · obtain rfl : c = '_' := of_decide_eq_true hunderscore
    exact absurd hdigit (by decide)

namespace Agree

variable {n m : Nat} {a b : Option Parsed} {tree : Expr} {rest : List Char}

theorem stuck (n : Nat) (tree : Expr) : Agree n (some (.stuck tree)) (some (.stuck tree)) :=
  ⟨_, rfl, rfl, nofun⟩

theorem same {p : Parsed} (h : ∀ tree rest, p = .complete tree rest → rest.length < n) :
    Agree n (some p) (some p) := ⟨p, rfl, rfl, h⟩

theorem complete (h : rest.length < n) :
    Agree n (some (.complete tree rest)) (some (.complete tree rest)) :=
  .same fun _ _ heq => by cases heq; exact h

theorem mono (h : Agree n a b) (hnm : n ≤ m) : Agree m a b := by
  obtain ⟨p, ha, hb, hrest⟩ := h
  exact ⟨p, ha, hb, fun tree rest hp => Nat.lt_of_lt_of_le (hrest tree rest hp) hnm⟩

/-- An answer that goes on. -/
theorem andThen {wrap : Expr → Expr} {next next' : Expr → List Char → Option Parsed} :
    Agree n a b →
    (∀ tree rest, rest.length < n → Agree m (next (wrap tree) rest) (next' (wrap tree) rest)) →
    Agree m (match a with | none => none | some p => p.andThen wrap next)
      (match b with | none => none | some p => p.andThen wrap next') := by
  rintro ⟨p, rfl, rfl, hrest⟩ hnext
  cases p with
  | complete tree rest => exact hnext tree rest (hrest tree rest rfl)
  | stuck tree => exact .stuck m _

/-- An answer that is a part of a sequence. -/
theorem part {stop stop' : Expr → Option Parsed} {next next' : Expr → List Char → Option Parsed} :
    Agree n a b → (∀ tree, Agree m (stop tree) (stop' tree)) →
    (∀ tree rest, rest.length < n → Agree m (next tree rest) (next' tree rest)) →
    Agree m (match a with
        | none => none
        | some (.stuck tree) => stop tree
        | some (.complete tree rest) => next tree rest)
      (match b with
        | none => none
        | some (.stuck tree) => stop' tree
        | some (.complete tree rest) => next' tree rest) := by
  rintro ⟨p, rfl, rfl, hrest⟩ hstop hnext
  cases p with
  | complete tree rest => exact hnext tree rest (hrest tree rest rfl)
  | stuck tree => exact hstop tree

end Agree

namespace Expr

/-- At a depth that suffices for the length of a text, each reader answers, as it does one level
deeper. -/
structure Settled (src : String) (depth : Nat) : Prop where
  sum (s : List Char) (h : 4 * s.length + 3 ≤ depth) :
    Agree s.length (sum? src depth s) (sum? src (depth + 1) s)
  sumTail (left : Expr) (s : List Char) (h : 4 * s.length + 1 ≤ depth) :
    Agree (s.length + 1) (sumTail? src depth left s) (sumTail? src (depth + 1) left s)
  product (s : List Char) (h : 4 * s.length + 2 ≤ depth) :
    Agree s.length (product? src depth s) (product? src (depth + 1) s)
  productTail (left : Expr) (s : List Char) (h : 4 * s.length + 1 ≤ depth) :
    Agree (s.length + 1) (productTail? src depth left s) (productTail? src (depth + 1) left s)
  factor (s : List Char) (h : 4 * s.length + 1 ≤ depth) :
    Agree s.length (factor? src depth s) (factor? src (depth + 1) s)
  items (close : Char) (wrap : List Expr → Expr) (done : List Expr) (s : List Char)
    (h : 4 * s.length + 4 ≤ depth) :
    Agree s.length (items? src close wrap depth done s) (items? src close wrap (depth + 1) done s)
  entries (done : List (Expr × Expr)) (s : List Char) (h : 4 * s.length + 4 ≤ depth) :
    Agree s.length (entries? src depth done s) (entries? src (depth + 1) done s)

variable {src : String} {depth : Nat}

namespace Settled

/-- A product and the terms after it. -/
theorem terms (h : Settled src depth) (wrap : Expr → Expr) {s : List Char} {n : Nat}
    (hs : 4 * s.length + 2 ≤ depth) (hn : s.length ≤ n) :
    Agree n (match product? src depth s with
        | none => none
        | some p => p.andThen wrap (sumTail? src depth))
      (match product? src (depth + 1) s with
        | none => none
        | some p => p.andThen wrap (sumTail? src (depth + 1))) := by
  refine (h.product s hs).andThen fun tree rest hrest => ?_
  exact (h.sumTail (wrap tree) rest (by omega)).mono (by omega)

/-- A factor and the factors after it. -/
theorem factors (h : Settled src depth) (wrap : Expr → Expr) {s : List Char} {n : Nat}
    (hs : 4 * s.length + 1 ≤ depth) (hn : s.length ≤ n) :
    Agree n (match factor? src depth s with
        | none => none
        | some p => p.andThen wrap (productTail? src depth))
      (match factor? src (depth + 1) s with
        | none => none
        | some p => p.andThen wrap (productTail? src (depth + 1))) := by
  refine (h.factor s hs).andThen fun tree rest hrest => ?_
  exact (h.productTail (wrap tree) rest (by omega)).mono (by omega)

theorem sum_succ (h : Settled src depth) (s : List Char) (hs : 4 * s.length + 3 ≤ depth + 1) :
    Agree s.length (sum? src (depth + 1) s) (sum? src (depth + 2) s) := by
  rw [sum?, sum?]
  exact h.terms id (by omega) (Nat.le_refl _)

theorem product_succ (h : Settled src depth) (s : List Char)
    (hs : 4 * s.length + 2 ≤ depth + 1) :
    Agree s.length (product? src (depth + 1) s) (product? src (depth + 2) s) := by
  rw [product?, product?]
  exact h.factors id (by omega) (Nat.le_refl _)

theorem sumTail_succ (h : Settled src depth) (left : Expr) (s : List Char)
    (hs : 4 * s.length + 1 ≤ depth + 1) :
    Agree (s.length + 1) (sumTail? src (depth + 1) left s) (sumTail? src (depth + 2) left s) := by
  have hlength := dropBlanks_length s
  rw [sumTail?, sumTail?]
  split
  case h_5 => exact .complete (by omega)
  all_goals
    rename_i hsign
    simp only [hsign, List.length_cons] at hlength
    exact h.terms _ (by omega) (by omega)

theorem productTail_succ (h : Settled src depth) (left : Expr) (s : List Char)
    (hs : 4 * s.length + 1 ≤ depth + 1) :
    Agree (s.length + 1) (productTail? src (depth + 1) left s)
      (productTail? src (depth + 2) left s) := by
  have hlength := dropBlanks_length s
  rw [productTail?, productTail?]
  split
  case h_4 => exact .complete (by omega)
  all_goals
    rename_i hsign
    simp only [hsign, List.length_cons] at hlength
    exact h.factors _ (by omega) (by omega)

theorem factor_succ (h : Settled src depth) (s : List Char)
    (hs : 4 * s.length + 1 ≤ depth + 1) :
    Agree s.length (factor? src (depth + 1) s) (factor? src (depth + 2) s) := by
  have hlength := dropBlanks_length s
  rw [factor?, factor?]
  split
  case h_1 => exact .stuck _ _
  all_goals
    rename_i hdrop
    simp only [hdrop, List.length_cons] at hlength
  case h_2 =>
    refine (h.factor _ (by omega)).andThen fun tree rest hrest => ?_
    exact .complete (by omega)
  case h_3 =>
    refine (h.sum _ (by omega)).andThen fun tree rest hrest => ?_
    have hlength' := dropBlanks_length rest
    split
    · rename_i hclose
      rw [hclose, List.length_cons] at hlength'
      exact .complete (by omega)
    · exact .stuck _ _
  case h_4 =>
    refine .same fun tree rest hread => ?_
    refine Nat.lt_of_lt_of_le (readQuoted_length (fun _ _ => readSingleQuoted_length) hread) ?_
    omega
  case h_5 =>
    refine .same fun tree rest hread => ?_
    refine Nat.lt_of_lt_of_le (readQuoted_length (fun _ _ => readDoubleQuoted_length) hread) ?_
    omega
  case h_6 => exact (h.items _ _ _ _ (by omega)).mono (by omega)
  case h_7 => exact (h.entries _ _ (by omega)).mono (by omega)
  case h_8 c r _ _ _ _ _ _ =>
    split
    · rename_i hdigit
      refine .same fun tree rest hread => ?_
      have := readNumber_length hdigit hread
      simp only [List.length_cons] at this
      omega
    split
    · rename_i hname
      have hnext : isNameChar c = true := isNameChar_of_startsName hname
      have hlength' := dropBlanks_length ((c :: r).dropWhile isNameChar)
      have hrest := (List.dropWhile_suffix (l := r) isNameChar).length_le
      rw [List.dropWhile_cons_of_pos hnext] at hlength' ⊢
      dsimp only
      split
      · rename_i heq
        simp only [heq, List.length_cons] at hlength'
        exact (h.items _ _ _ _ (by omega)).mono (by omega)
      · exact .complete (by omega)
    · exact .stuck _ _

theorem items_succ (h : Settled src depth) (close : Char) (wrap : List Expr → Expr)
    (done : List Expr) (s : List Char) (hs : 4 * s.length + 4 ≤ depth + 1) :
    Agree s.length (items? src close wrap (depth + 1) done s)
      (items? src close wrap (depth + 2) done s) := by
  have hlength := dropBlanks_length s
  rw [items?, items?]
  split
  · exact .stuck _ _
  · rename_i c r hdrop
    simp only [hdrop, List.length_cons] at hlength
    split
    · exact .complete (by omega)
    · refine (h.sum (c :: r) (by simp only [List.length_cons]; omega)).part
        (fun _ => .stuck _ _) fun tree rest hrest => ?_
      have hlength' := dropBlanks_length rest
      simp only [List.length_cons] at hrest
      dsimp only
      split
      · exact .stuck _ _
      · rename_i c' r' hdrop'
        rw [hdrop', List.length_cons] at hlength'
        split
        · exact (h.items _ _ _ _ (by omega)).mono (by omega)
        · split
          · exact .complete (by omega)
          · exact .stuck _ _

theorem entries_succ (h : Settled src depth) (done : List (Expr × Expr)) (s : List Char)
    (hs : 4 * s.length + 4 ≤ depth + 1) :
    Agree s.length (entries? src (depth + 1) done s) (entries? src (depth + 2) done s) := by
  have hlength := dropBlanks_length s
  rw [entries?, entries?]
  dsimp only
  split
  · exact .stuck _ _
  · rename_i c r hdrop
    simp only [hdrop, List.length_cons] at hlength
    split
    · exact .complete (by omega)
    · refine (h.sum (c :: r) (by simp only [List.length_cons]; omega)).part
        (fun _ => .stuck _ _) fun key rest hrest => ?_
      have hlength' := dropBlanks_length rest
      simp only [List.length_cons] at hrest
      split
      · rename_i afterKey hcolon
        rw [hcolon, List.length_cons] at hlength'
        refine (h.sum afterKey (by omega)).part (fun _ => .stuck _ _) fun value rest hrest => ?_
        have hlength'' := dropBlanks_length rest
        split
        · rename_i hcomma
          rw [hcomma, List.length_cons] at hlength''
          exact (h.entries _ _ (by omega)).mono (by omega)
        · rename_i hclose
          rw [hclose, List.length_cons] at hlength''
          exact .complete (by omega)
        · exact .stuck _ _
      · exact .stuck _ _

end Settled

theorem settled (src : String) (depth : Nat) : Settled src depth := by
  induction depth with
  | zero => constructor <;> intros <;> omega
  | succ depth ih =>
    exact ⟨ih.sum_succ, ih.sumTail_succ, ih.product_succ, ih.productTail_succ, ih.factor_succ,
      ih.items_succ, ih.entries_succ⟩

/-! ### Answers -/

/-- What a reader answers for a text at a depth that suffices. -/
def answer (read : Nat → Option Parsed) (s : List Char) : Parsed :=
  (read (depthBound s)).getD (.stuck (.malformed (.invalidExpression "")))

/-- A reader that settles gives its answer at every depth that suffices. -/
theorem eq_answer {read : Nat → Option Parsed} {s : List Char} {least n : Nat}
    (h : ∀ depth, least ≤ depth → Agree n (read depth) (read (depth + 1)))
    (hleast : least ≤ depthBound s) (hdepth : least ≤ depth) :
    read depth = some (answer read s) := by
  have hsame : ∀ depth, least ≤ depth → read depth = read least := by
    intro depth hdepth
    induction hdepth with
    | refl => rfl
    | step hdepth ih =>
      obtain ⟨p, hp, hp', -⟩ := h _ hdepth
      rw [hp', ← hp, ih]
  obtain ⟨p, hp, -⟩ := h least (Nat.le_refl _)
  rw [hsame depth hdepth, answer, hsame _ hleast, hp]
  rfl

section Answers

variable (src : String)

/-- A sum at the front of a text. -/
def readSum (s : List Char) : Parsed := answer (sum? src · s) s

/-- The further terms of a sum. -/
def readTerms (left : Expr) (s : List Char) : Parsed := answer (sumTail? src · left s) s

/-- A product at the front of a text. -/
def readProduct (s : List Char) : Parsed := answer (product? src · s) s

/-- The further factors of a product. -/
def readFactors (left : Expr) (s : List Char) : Parsed := answer (productTail? src · left s) s

/-- A factor at the front of a text. -/
def readFactor (s : List Char) : Parsed := answer (factor? src · s) s

/-- Expressions between commas up to a closing bracket. -/
def readItems (close : Char) (wrap : List Expr → Expr) (done : List Expr) (s : List Char) : Parsed :=
  answer (items? src close wrap · done s) s

/-- The entries of a dictionary up to its closing brace. -/
def readEntries (done : List (Expr × Expr)) (s : List Char) : Parsed :=
  answer (entries? src · done s) s

variable {src} {s : List Char}

theorem sum?_eq (h : 4 * s.length + 3 ≤ depth) : sum? src depth s = some (readSum src s) :=
  eq_answer (fun depth => (settled src depth).sum s) (by unfold depthBound; omega) h

theorem sumTail?_eq {left : Expr} (h : 4 * s.length + 1 ≤ depth) :
    sumTail? src depth left s = some (readTerms src left s) :=
  eq_answer (fun depth => (settled src depth).sumTail left s) (by unfold depthBound; omega) h

theorem product?_eq (h : 4 * s.length + 2 ≤ depth) :
    product? src depth s = some (readProduct src s) :=
  eq_answer (fun depth => (settled src depth).product s) (by unfold depthBound; omega) h

theorem productTail?_eq {left : Expr} (h : 4 * s.length + 1 ≤ depth) :
    productTail? src depth left s = some (readFactors src left s) :=
  eq_answer (fun depth => (settled src depth).productTail left s) (by unfold depthBound; omega) h

theorem factor?_eq (h : 4 * s.length + 1 ≤ depth) : factor? src depth s = some (readFactor src s) :=
  eq_answer (fun depth => (settled src depth).factor s) (by unfold depthBound; omega) h

theorem items?_eq {close : Char} {wrap : List Expr → Expr} {done : List Expr}
    (h : 4 * s.length + 4 ≤ depth) :
    items? src close wrap depth done s = some (readItems src close wrap done s) :=
  eq_answer (fun depth => (settled src depth).items close wrap done s) (by unfold depthBound; omega) h

theorem entries?_eq {done : List (Expr × Expr)} (h : 4 * s.length + 4 ≤ depth) :
    entries? src depth done s = some (readEntries src done s) :=
  eq_answer (fun depth => (settled src depth).entries done s) (by unfold depthBound; omega) h

/-- The bound on the nesting that `read` takes suffices. -/
theorem read_eq : read src s = readSum src s := by
  have h : sum? src (depthBound s) s = some (readSum src s) := sum?_eq (by unfold depthBound; omega)
  rw [read, h]
  rfl

/-! ### Equations -/

theorem readSum_length {tree : Expr} {rest : List Char} (h : readSum src s = .complete tree rest) :
    rest.length < s.length := by
  obtain ⟨p, hp, -, hrest⟩ := (settled src (4 * s.length + 3)).sum s (Nat.le_refl _)
  rw [sum?_eq (Nat.le_refl _)] at hp
  exact hrest tree rest (by rw [← h, Option.some.inj hp])

theorem terms_eq (wrap : Expr → Expr) (h : 4 * s.length + 2 ≤ depth) :
    (match product? src depth s with
      | none => none
      | some p => p.andThen wrap (sumTail? src depth)) =
      some ((readProduct src s).into wrap (readTerms src)) := by
  obtain ⟨p, hp, -, hrest⟩ := (settled src depth).product s h
  rw [product?_eq h] at hp ⊢
  refine Parsed.andThen_eq fun tree rest hread => sumTail?_eq ?_
  have hlength := hrest tree rest (by rw [← Option.some.inj hp, hread])
  omega

theorem factors_eq (wrap : Expr → Expr) (h : 4 * s.length + 1 ≤ depth) :
    (match factor? src depth s with
      | none => none
      | some p => p.andThen wrap (productTail? src depth)) =
      some ((readFactor src s).into wrap (readFactors src)) := by
  obtain ⟨p, hp, -, hrest⟩ := (settled src depth).factor s h
  rw [factor?_eq h] at hp ⊢
  refine Parsed.andThen_eq fun tree rest hread => productTail?_eq ?_
  have hlength := hrest tree rest (by rw [← Option.some.inj hp, hread])
  omega

/-- Blanks in front of an expression do not matter. -/
theorem readFactor_dropBlanks (src : String) (s : List Char) :
    readFactor src (dropBlanks s) = readFactor src s := by
  have hlength := dropBlanks_length s
  have h : factor? src (4 * s.length + 1) s = some (readFactor src s) := factor?_eq (Nat.le_refl _)
  have h' : factor? src (4 * s.length + 1) (dropBlanks s) = some (readFactor src (dropBlanks s)) :=
    factor?_eq (by omega)
  rw [factor?] at h h'
  rw [dropBlanks_idem] at h'
  exact Option.some.inj (h'.symm.trans h)

/-- A sum is a product and further terms. -/
theorem readSum_eq : readSum src s = (readProduct src s).into id (readTerms src) := by
  have h : sum? src (4 * s.length + 3) s = some (readSum src s) := sum?_eq (Nat.le_refl _)
  rw [sum?] at h
  exact Option.some.inj (h.symm.trans (terms_eq id (Nat.le_refl _)))

/-- A product is a factor and further factors. -/
theorem readProduct_eq : readProduct src s = (readFactor src s).into id (readFactors src) := by
  have h : product? src (4 * s.length + 2) s = some (readProduct src s) :=
    product?_eq (Nat.le_refl _)
  rw [product?] at h
  exact Option.some.inj (h.symm.trans (factors_eq id (Nat.le_refl _)))

theorem readProduct_dropBlanks (src : String) (s : List Char) :
    readProduct src (dropBlanks s) = readProduct src s := by
  rw [readProduct_eq, readProduct_eq, readFactor_dropBlanks]

theorem readSum_dropBlanks (src : String) (s : List Char) :
    readSum src (dropBlanks s) = readSum src s := by
  rw [readSum_eq, readSum_eq, readProduct_dropBlanks]

theorem readFactors_dropBlanks (src : String) (left : Expr) (s : List Char) :
    readFactors src left (dropBlanks s) = readFactors src left s := by
  have hlength := dropBlanks_length s
  have h : productTail? src (4 * s.length + 1) left s = some (readFactors src left s) :=
    productTail?_eq (Nat.le_refl _)
  have h' : productTail? src (4 * s.length + 1) left (dropBlanks s) =
      some (readFactors src left (dropBlanks s)) := productTail?_eq (by omega)
  rw [productTail?] at h h'
  rw [dropBlanks_idem] at h'
  exact Option.some.inj (h'.symm.trans h)

theorem readTerms_dropBlanks (src : String) (left : Expr) (s : List Char) :
    readTerms src left (dropBlanks s) = readTerms src left s := by
  have hlength := dropBlanks_length s
  have h : sumTail? src (4 * s.length + 1) left s = some (readTerms src left s) :=
    sumTail?_eq (Nat.le_refl _)
  have h' : sumTail? src (4 * s.length + 1) left (dropBlanks s) =
      some (readTerms src left (dropBlanks s)) := sumTail?_eq (by omega)
  rw [sumTail?] at h h'
  rw [dropBlanks_idem] at h'
  exact Option.some.inj (h'.symm.trans h)

section Tails

variable {left : Expr} {op : Operator} {r : List Char}

/-- A sum goes on with an operator and a product. -/
theorem readTerms_operator (hop : op.level = 0) (h : dropBlanks s = op.sign :: r)
    (hr : ∀ c ∈ r.head?, c ≠ '.') :
    readTerms src left s = (readProduct src r).into (.binary op left) (readTerms src) := by
  have htail : sumTail? src (4 * s.length + 1) left s = some (readTerms src left s) :=
    sumTail?_eq (Nat.le_refl _)
  have hbound : 4 * r.length + 2 ≤ 4 * s.length := by
    have hlength := dropBlanks_length s
    rw [h, List.length_cons] at hlength
    omega
  rw [sumTail?, h] at htail
  cases op with
  | add | subtract => exact Option.some.inj (htail.symm.trans (terms_eq _ hbound))
  | concat =>
    -- Two points are one operator, so the reader looks at what follows the first.
    split at htail
    case h_3 heq =>
      cases heq
      exact absurd rfl (hr '.' rfl)
    case h_4 heq =>
      cases heq
      exact Option.some.inj (htail.symm.trans (terms_eq _ hbound))
    all_goals simp_all [Operator.sign]
  | multiply | divide | remainder => cases hop

/-- A sum ends where no operator of a sum follows. -/
theorem readTerms_end (h : ∀ c ∈ (dropBlanks s).head?, c ∉ ['+', '-', '.']) :
    readTerms src left s = .complete left (dropBlanks s) := by
  have htail : sumTail? src (4 * s.length + 1) left s = some (readTerms src left s) :=
    sumTail?_eq (Nat.le_refl _)
  rw [sumTail?] at htail
  split at htail
  case h_5 => exact (Option.some.inj htail).symm
  all_goals
    rename_i hsign
    rw [hsign] at h
    exact absurd (h _ rfl) (by decide)

/-- A product goes on with an operator and a factor. -/
theorem readFactors_operator (hop : op.level = 1) (h : dropBlanks s = op.sign :: r) :
    readFactors src left s = (readFactor src r).into (.binary op left) (readFactors src) := by
  have htail : productTail? src (4 * s.length + 1) left s = some (readFactors src left s) :=
    productTail?_eq (Nat.le_refl _)
  have hbound : 4 * r.length + 1 ≤ 4 * s.length := by
    have hlength := dropBlanks_length s
    rw [h, List.length_cons] at hlength
    omega
  rw [productTail?, h] at htail
  cases op with
  | add | subtract | concat => cases hop
  | multiply | divide | remainder =>
    exact Option.some.inj (htail.symm.trans (factors_eq _ hbound))

/-- A product ends where no operator of a product follows. -/
theorem readFactors_end (h : ∀ c ∈ (dropBlanks s).head?, c ∉ ['*', '/', '%']) :
    readFactors src left s = .complete left (dropBlanks s) := by
  have htail : productTail? src (4 * s.length + 1) left s = some (readFactors src left s) :=
    productTail?_eq (Nat.le_refl _)
  rw [productTail?] at htail
  split at htail
  case h_4 => exact (Option.some.inj htail).symm
  all_goals
    rename_i hsign
    rw [hsign] at h
    exact absurd (h _ rfl) (by decide)

end Tails

section Factors

variable {c : Char} {r rest rest' : List Char} {tree : Expr}

/-- One level of the reader of factors, and how much is left to the next one. -/
theorem readFactor_step (src : String) (h : dropBlanks s = c :: r) :
    factor? src (4 * s.length + 1) s = some (readFactor src s) ∧ r.length + 1 ≤ s.length := by
  have hlength := dropBlanks_length s
  rw [h, List.length_cons] at hlength
  exact ⟨factor?_eq (Nat.le_refl _), hlength⟩

theorem readFactor_negate (h : dropBlanks s = '-' :: r)
    (hinner : readFactor src r = .complete tree rest) :
    readFactor src s = .complete (.negate tree) rest := by
  obtain ⟨hfactor, hlength⟩ := readFactor_step src h
  have hread : factor? src (4 * s.length) r = some (readFactor src r) := factor?_eq (by omega)
  rw [factor?, h] at hfactor
  simp only [hread, hinner] at hfactor
  exact (Option.some.inj hfactor).symm

theorem readFactor_bracket (h : dropBlanks s = '(' :: r)
    (hinner : readSum src r = .complete tree rest) (hclose : dropBlanks rest = ')' :: rest') :
    readFactor src s = .complete tree rest' := by
  obtain ⟨hfactor, hlength⟩ := readFactor_step src h
  have hread : sum? src (4 * s.length) r = some (readSum src r) := sum?_eq (by omega)
  rw [factor?, h] at hfactor
  simp only [hread, hinner, Parsed.andThen, id, hclose] at hfactor
  exact (Option.some.inj hfactor).symm

theorem readFactor_quote (h : dropBlanks s = '\'' :: r) :
    readFactor src s = readQuoted (readSingleQuoted r) (.missingSingleQuote src) := by
  have hfactor := (readFactor_step src h).1
  rw [factor?, h] at hfactor
  exact (Option.some.inj hfactor).symm

theorem readFactor_list (h : dropBlanks s = '[' :: r) :
    readFactor src s = readItems src ']' .list [] r := by
  obtain ⟨hfactor, hlength⟩ := readFactor_step src h
  rw [factor?, h] at hfactor
  exact Option.some.inj (hfactor.symm.trans (items?_eq (by omega)))

theorem readFactor_dict (h : dropBlanks s = '\x7b' :: r) :
    readFactor src s = readEntries src [] r := by
  obtain ⟨hfactor, hlength⟩ := readFactor_step src h
  rw [factor?, h] at hfactor
  exact Option.some.inj (hfactor.symm.trans (entries?_eq (by omega)))

theorem factor?_number {depth : Nat} (h : dropBlanks s = c :: r) (hc : c.isDigit = true) :
    factor? src (depth + 1) s = some (readNumber (c :: r)) := by
  rw [factor?, h]
  split
  case h_1 heq => cases heq
  case h_8 heq =>
    cases heq
    exact if_pos hc
  all_goals
    rename_i heq
    cases heq
    exact absurd hc (by decide)

theorem readFactor_number (h : dropBlanks s = c :: r) (hc : c.isDigit = true) :
    readFactor src s = readNumber (c :: r) :=
  Option.some.inj ((readFactor_step src h).1.symm.trans (factor?_number h hc))

/-- A name is a variable, or a function in front of its arguments. -/
theorem factor?_name {depth : Nat} (h : dropBlanks s = c :: r) (hc : startsName c = true) :
    factor? src (depth + 1) s =
      match dropBlanks ((c :: r).dropWhile isNameChar) with
      | '(' :: rest =>
        items? src ')' (.call (String.ofList ((c :: r).takeWhile isNameChar))) depth [] rest
      | rest =>
        some (.complete (.variable (String.ofList ((c :: r).takeWhile isNameChar))) rest) := by
  rw [factor?, h]
  split
  case h_1 heq => cases heq
  case h_8 heq =>
    cases heq
    have hnumber : ¬c.isDigit = true := by simp [isDigit_of_startsName hc]
    exact (if_neg hnumber).trans (if_pos hc)
  all_goals
    rename_i heq
    cases heq
    exact absurd hc (by decide)

theorem readFactor_variable (h : dropBlanks s = c :: r) (hc : startsName c = true)
    (hnext : dropBlanks ((c :: r).dropWhile isNameChar) = rest) (hrest : ∀ t, rest ≠ '(' :: t) :
    readFactor src s = .complete (.variable (String.ofList ((c :: r).takeWhile isNameChar))) rest := by
  have hfactor := (readFactor_step src h).1
  rw [factor?_name h hc, hnext] at hfactor
  split at hfactor
  · exact absurd rfl (hrest _)
  · exact (Option.some.inj hfactor).symm

theorem readFactor_call (h : dropBlanks s = c :: r) (hc : startsName c = true)
    (hnext : dropBlanks ((c :: r).dropWhile isNameChar) = '(' :: rest) :
    readFactor src s =
      readItems src ')' (.call (String.ofList ((c :: r).takeWhile isNameChar))) [] rest := by
  obtain ⟨hfactor, hlength⟩ := readFactor_step src h
  have hnext' := dropBlanks_length ((c :: r).dropWhile isNameChar)
  have hskipped := (List.dropWhile_suffix (l := c :: r) isNameChar).length_le
  rw [hnext, List.length_cons] at hnext'
  rw [List.length_cons] at hskipped
  rw [factor?_name h hc, hnext] at hfactor
  exact Option.some.inj (hfactor.symm.trans (items?_eq (by omega)))

/-- A character that no factor starts with. -/
theorem factor?_other {depth : Nat} (h : dropBlanks s = c :: r)
    (hc : c ∉ ['-', '(', '\'', '"', '[', '\x7b']) (hdigit : ¬c.isDigit = true)
    (hname : ¬startsName c = true) :
    factor? src (depth + 1) s = some (.stuck (.malformed (.invalidExpression src))) := by
  rw [factor?, h]
  split
  case h_1 heq => cases heq
  case h_8 heq =>
    cases heq
    exact (if_neg hdigit).trans (if_neg hname)
  all_goals
    rename_i heq
    cases heq
    exact absurd (by decide) hc

end Factors

section Sequences

variable {close c : Char} {wrap : List Expr → Expr} {done : List Expr} {r rest rest' : List Char}
  {tree : Expr}

/-- An expression does not start with a closing bracket. -/
theorem readSum_starts (h : readSum src s = .complete tree rest) :
    ∃ c r, dropBlanks s = c :: r ∧ c ∉ [')', ']', '\x7d'] := by
  cases hdrop : dropBlanks s with
  | nil =>
    have hfactor : factor? src (4 * s.length + 1) s = some (readFactor src s) :=
      factor?_eq (Nat.le_refl _)
    rw [factor?, hdrop] at hfactor
    rw [readSum_eq, readProduct_eq, ← Option.some.inj hfactor] at h
    cases h
  | cons c r =>
    refine ⟨c, r, rfl, fun hc => ?_⟩
    have hfactor := (readFactor_step src hdrop).1
    rw [readSum_eq, readProduct_eq] at h
    rw [factor?, hdrop] at hfactor
    simp only [List.mem_cons, List.not_mem_nil, or_false] at hc
    rcases hc with rfl | rfl | rfl
    all_goals
      rw [← Option.some.inj hfactor] at h
      cases h

/-- One level of the reader of items, and how much is left to the next one. -/
theorem readItems_step (src : String) (close : Char) (wrap : List Expr → Expr) (done : List Expr)
    (h : dropBlanks s = c :: r) :
    items? src close wrap (4 * s.length + 4) done s = some (readItems src close wrap done s) ∧
      r.length + 1 ≤ s.length := by
  have hlength := dropBlanks_length s
  rw [h, List.length_cons] at hlength
  exact ⟨items?_eq (Nat.le_refl _), hlength⟩

theorem readItems_close (h : dropBlanks s = close :: r) :
    readItems src close wrap done s = .complete (wrap done) r := by
  have hitems := (readItems_step src close wrap done h).1
  rw [items?, h] at hitems
  simp only [if_pos] at hitems
  exact (Option.some.inj hitems).symm

/-- After an item, items go on with a comma or end. -/
theorem readItems_item (wrap : List Expr → Expr) (done : List Expr)
    (hclose : close ∈ [')', ']', '\x7d']) (hitem : readSum src s = .complete tree rest) :
    (∀ rest', dropBlanks rest = ',' :: rest' →
      readItems src close wrap done s = readItems src close wrap (done ++ [tree]) rest') ∧
    ∀ rest', dropBlanks rest = close :: rest' →
      readItems src close wrap done s = .complete (wrap (done ++ [tree])) rest' := by
  obtain ⟨c, r, h, hstart⟩ := readSum_starts hitem
  have hc : c ≠ close := fun hc => hstart (hc ▸ hclose)
  have hcomma : close ≠ ',' := by rintro rfl; exact absurd hclose (by decide)
  obtain ⟨hitems, hlength⟩ := readItems_step src close wrap done h
  have hbelow := readSum_length hitem
  have hbelow' := dropBlanks_length rest
  have hread : sum? src (4 * s.length + 3) (c :: r) = some (readSum src (c :: r)) :=
    sum?_eq (by simp only [List.length_cons]; omega)
  rw [← h, readSum_dropBlanks, h] at hread
  rw [items?, h] at hitems
  simp only [if_neg hc, hread, hitem] at hitems
  constructor
  · intro rest' hnext
    rw [hnext, List.length_cons] at hbelow'
    rw [hnext] at hitems
    simp only [if_pos] at hitems
    exact Option.some.inj (hitems.symm.trans (items?_eq (by omega)))
  · intro rest' hend
    rw [hend] at hitems
    simp only [if_neg hcomma, if_pos] at hitems
    exact (Option.some.inj hitems).symm

/-- One level of the reader of entries, and how much is left to the next one. -/
theorem readEntries_step (src : String) (done : List (Expr × Expr)) (h : dropBlanks s = c :: r) :
    entries? src (4 * s.length + 4) done s = some (readEntries src done s) ∧
      r.length + 1 ≤ s.length := by
  have hlength := dropBlanks_length s
  rw [h, List.length_cons] at hlength
  exact ⟨entries?_eq (Nat.le_refl _), hlength⟩

theorem readEntries_close {done : List (Expr × Expr)} (h : dropBlanks s = '\x7d' :: r) :
    readEntries src done s = .complete (.dict done) r := by
  have hentries := (readEntries_step src done h).1
  rw [entries?, h] at hentries
  simp only [if_pos] at hentries
  exact (Option.some.inj hentries).symm

/-- After a key and its value, entries go on with a comma or end. -/
theorem readEntries_entry (done : List (Expr × Expr)) {key value : Expr}
    {afterKey afterColon afterValue : List Char} (hkey : readSum src s = .complete key afterKey)
    (hcolon : dropBlanks afterKey = ':' :: afterColon)
    (hvalue : readSum src afterColon = .complete value afterValue) :
    (∀ rest, dropBlanks afterValue = ',' :: rest →
      readEntries src done s = readEntries src (done ++ [(key, value)]) rest) ∧
    ∀ rest, dropBlanks afterValue = '\x7d' :: rest →
      readEntries src done s = .complete (.dict (done ++ [(key, value)])) rest := by
  obtain ⟨c, r, h, hstart⟩ := readSum_starts hkey
  have hc : c ≠ '\x7d' := by rintro rfl; exact hstart (by decide)
  obtain ⟨hentries, hlength⟩ := readEntries_step src done h
  have hbelow := readSum_length hkey
  have hcolonLength := dropBlanks_length afterKey
  have hbelow' := readSum_length hvalue
  rw [hcolon, List.length_cons] at hcolonLength
  have hread : sum? src (4 * s.length + 3) (c :: r) = some (readSum src (c :: r)) :=
    sum?_eq (by simp only [List.length_cons]; omega)
  have hread' : sum? src (4 * s.length + 3) afterColon = some (readSum src afterColon) :=
    sum?_eq (by omega)
  rw [← h, readSum_dropBlanks, h] at hread
  rw [entries?, h] at hentries
  simp only [if_neg hc, hread, hkey, hcolon, hread', hvalue] at hentries
  constructor
  · intro rest hcomma
    have hrestLength := dropBlanks_length afterValue
    rw [hcomma, List.length_cons] at hrestLength
    rw [hcomma] at hentries
    exact Option.some.inj (hentries.symm.trans (entries?_eq (by omega)))
  · intro rest hclose
    rw [hclose] at hentries
    exact (Option.some.inj hentries).symm

end Sequences

end Answers

/-! ### Trees that are read on from others -/

section Behind

variable {src : String} {p : Parsed} {s : List Char}

/-- What follows an item is read behind the items that are there. -/
theorem afterItem_tree {close : Char} {wrap : List Expr → Expr} {done : List Expr}
    {next : List Char → Option Parsed}
    (hnext : ∀ {r}, next r = some p → ∃ more, p.tree = wrap (done ++ more))
    (h : (match dropBlanks s with
      | [] => some (.stuck (wrap (done ++ [.malformed (.invalidExpression src)])))
      | c :: r =>
        if c = ',' then next r
        else if c = close then some (.complete (wrap done) r)
        else some (.stuck (wrap (done ++ [.malformed (.invalidExpression src)])))) = some p) :
    ∃ more, p.tree = wrap (done ++ more) := by
  split at h
  · cases h
    exact ⟨_, rfl⟩
  split at h
  · exact hnext h
  split at h
  · cases h
    exact ⟨[], by rw [List.append_nil]; rfl⟩
  · cases h
    exact ⟨_, rfl⟩

theorem items?_tree {close : Char} {wrap : List Expr → Expr} {done : List Expr}
    (h : items? src close wrap depth done s = some p) :
    ∃ more, p.tree = wrap (done ++ more) := by
  induction depth generalizing done s with
  | zero =>
    rw [items?] at h
    cases h
  | succ depth ih =>
    rw [items?] at h
    split at h
    · cases h
      exact ⟨_, rfl⟩
    split at h
    · cases h
      exact ⟨[], by rw [List.append_nil]; rfl⟩
    split at h
    · cases h
    · cases h
      exact ⟨_, rfl⟩
    · obtain ⟨more, hmore⟩ := afterItem_tree ih h
      exact ⟨_, hmore.trans (congrArg wrap (List.append_assoc ..))⟩

/-- What follows an entry is read behind the entries that are there. -/
theorem afterEntry_tree {done : List (Expr × Expr)} {next : List Char → Option Parsed}
    (hnext : ∀ {r}, next r = some p → ∃ more, p.tree = .dict (done ++ more))
    (h : (match dropBlanks s with
      | ',' :: r => next r
      | '\x7d' :: r => some (.complete (.dict done) r)
      | _ => some (.stuck (.dict
          (done ++ [(.malformed (.invalidExpression src), .str "")])))) = some p) :
    ∃ more, p.tree = .dict (done ++ more) := by
  split at h
  · exact hnext h
  · cases h
    exact ⟨[], by rw [List.append_nil]; rfl⟩
  · cases h
    exact ⟨_, rfl⟩

/-- What follows a key is the value of the same entry, and is read behind those that are there. -/
theorem afterKey_tree {done : List (Expr × Expr)} {key : Expr}
    (next : List (Expr × Expr) → List Char → Option Parsed)
    (hnext : ∀ {done r}, next done r = some p → ∃ more, p.tree = .dict (done ++ more))
    (h : (match dropBlanks s with
      | ':' :: r =>
        match sum? src depth r with
        | none => none
        | some (.stuck value) => some (.stuck (.dict (done ++ [(key, value)])))
        | some (.complete value rest) =>
          match dropBlanks rest with
          | ',' :: r => next (done ++ [(key, value)]) r
          | '\x7d' :: r => some (.complete (.dict (done ++ [(key, value)])) r)
          | _ => some (.stuck (.dict (done ++ [(key, value)] ++
              [(.malformed (.invalidExpression src), .str "")])))
      | _ => some (.stuck (.dict
          (done ++ [(key, .malformed (.invalidExpression src))])))) = some p) :
    ∃ value more, p.tree = .dict (done ++ (key, value) :: more) := by
  split at h
  · split at h
    · cases h
    · cases h
      exact ⟨_, _, rfl⟩
    · obtain ⟨more, hmore⟩ := afterEntry_tree hnext h
      exact ⟨_, more, hmore.trans (congrArg dict (List.append_assoc ..))⟩
  · cases h
    exact ⟨_, _, rfl⟩

theorem entries?_tree {done : List (Expr × Expr)} (h : entries? src depth done s = some p) :
    ∃ more, p.tree = .dict (done ++ more) := by
  induction depth generalizing done s with
  | zero =>
    rw [entries?] at h
    cases h
  | succ depth ih =>
    rw [entries?] at h
    dsimp only at h
    split at h
    · cases h
      exact ⟨_, rfl⟩
    split at h
    · cases h
      exact ⟨[], by rw [List.append_nil]; rfl⟩
    split at h
    · cases h
    · cases h
      exact ⟨_, rfl⟩
    · obtain ⟨value, more, hmore⟩ := afterKey_tree (entries? src depth) ih h
      exact ⟨_, hmore⟩

end Behind

end Expr

end ScriptBridge.Host
