import ScriptBridge.Host.Expr.Eval
import ScriptBridge.Host.Functions
import ScriptBridge.Proofs.Host.Reading
import ScriptBridge.Proofs.Text.Front

/-!
# Writing expressions down

An expression is written down with one blank between its tokens, and with brackets only where the
reader would otherwise take an operand apart. The text reads back as the expression up to its last
character, so to evaluate the text is to evaluate the expression.
-/

namespace ScriptBridge.Host

open Text (isBlank dropBlanks Front)

namespace Expr

/-! ### Texts -/

/-- How tightly an expression binds: one without an operator at its top binds as a factor. -/
def level : Expr → Nat
  | .binary op _ _ => op.level
  | _ => 2

/-- The tokens of an operand, in brackets if the operand binds less tightly than its place asks. -/
def operandTokens (least : Nat) (e : Expr) (ts : List (List Char)) : List (List Char) :=
  if e.level < least then ['('] :: ts ++ [[')']] else ts

mutual

/-- The tokens of an expression. -/
@[simp]
def tokens : Expr → List (List Char)
  | .number n => [Nat.toDigits 10 n.toInt.toNat]
  | .str s => [(singleQuoted s).toList]
  | .list items => ['['] :: itemTokens items ++ [[']']]
  | .dict entries => ['\x7b'] :: entryTokens entries ++ [['\x7d']]
  | .variable name => [name.toList]
  | .call function args => function.toList :: ['('] :: itemTokens args ++ [[')']]
  | .negate e => ['-'] :: operandTokens 2 e (tokens e)
  | .binary op left right =>
    operandTokens op.level left (tokens left) ++
      [op.sign] :: operandTokens (op.level + 1) right (tokens right)
  | .float _ | .unfinished _ _ | .malformed _ => []

/-- The tokens of expressions with commas between them. -/
@[simp]
def itemTokens : List Expr → List (List Char)
  | [] => []
  | [e] => tokens e
  | e :: next :: es => tokens e ++ [','] :: itemTokens (next :: es)

/-- The tokens of the entries of a dictionary. -/
@[simp]
def entryTokens : List (Expr × Expr) → List (List Char)
  | [] => []
  | [(key, value)] => tokens key ++ [':'] :: tokens value
  | (key, value) :: next :: entries =>
    tokens key ++ [':'] :: tokens value ++ [','] :: entryTokens (next :: entries)

end

/-- The text of an expression. -/
def text (e : Expr) : String := String.ofList ([' '].intercalate e.tokens)

/-- A name of a variable or a function. -/
def IsName (name : String) : Prop :=
  ∃ c r, name.toList = c :: r ∧ startsName c = true ∧ r.all isNameChar = true

/-- An expression that can be written down: it has no floats, its numbers are not negative, and
its names are names. -/
inductive Writable : Expr → Prop where
  | number {n : Int64} (hn : 0 ≤ n.toInt) : Writable (.number n)
  | str (s : String) : Writable (.str s)
  | list {items : List Expr} (hitems : ∀ e ∈ items, Writable e) : Writable (.list items)
  | dict {entries : List (Expr × Expr)} (hkeys : ∀ p ∈ entries, Writable p.1)
      (hvalues : ∀ p ∈ entries, Writable p.2) : Writable (.dict entries)
  | variable {name : String} (hname : IsName name) : Writable (.variable name)
  | call {function : String} {args : List Expr} (hname : IsName function)
      (hargs : ∀ e ∈ args, Writable e) : Writable (.call function args)
  | negate {e : Expr} (he : Writable e) : Writable (.negate e)
  | binary {op : Operator} {left right : Expr} (hleft : Writable left) (hright : Writable right) :
    Writable (.binary op left right)

/-- Tokens with a blank before each. -/
def spaced (ts : List (List Char)) : List Char := ts.flatMap (' ' :: ·)

@[simp] theorem spaced_nil : spaced [] = [] := rfl

@[simp] theorem spaced_cons (t : List Char) (ts : List (List Char)) :
    spaced (t :: ts) = ' ' :: (t ++ spaced ts) := rfl

@[simp] theorem spaced_append (ts us : List (List Char)) :
    spaced (ts ++ us) = spaced ts ++ spaced us := List.flatMap_append

theorem dropBlanks_space (s : List Char) : dropBlanks (' ' :: s) = dropBlanks s := rfl

theorem dropBlanks_token {c : Char} {s : List Char} (hc : isBlank c = false) :
    dropBlanks (c :: s) = c :: s :=
  List.dropWhile_cons_of_neg (by simp [hc])

/-- Without the blank before the first token, a text starts with the token. -/
theorem dropBlanks_spaced {c : Char} {t rest : List Char} {ts : List (List Char)}
    (hc : isBlank c = false) :
    dropBlanks (spaced ((c :: t) :: ts) ++ rest) = c :: (t ++ (spaced ts ++ rest)) := by
  rw [spaced_cons, List.cons_append, dropBlanks_space, List.cons_append, List.cons_append,
    dropBlanks_token hc, List.append_assoc]

/-- The blank before the first token does not matter. -/
theorem dropBlanks_intercalate (ts : List (List Char)) :
    dropBlanks ([' '].intercalate ts) = dropBlanks (spaced ts) := by
  have h : ∀ t ts, ' ' :: [' '].intercalate (t :: ts) = spaced (t :: ts) := by
    intro t ts
    induction ts generalizing t with
    | nil => simp
    | cons u ts ih => rw [List.intercalate_cons_cons, spaced_cons, ← ih]; simp
  cases ts with
  | nil => rfl
  | cons t ts => rw [← h, dropBlanks_space]

/-! ### What follows -/

/-- What follows an expression starts with a blank, and with no character of `barred` after it. -/
structure Apart (barred rest : List Char) : Prop where
  blank : ∀ c ∈ rest.head?, c = ' '
  next : ∀ c ∈ (dropBlanks rest).head?, c ∉ barred

namespace Apart

variable {barred barred' rest : List Char} {c : Char}

theorem nil : Apart barred [] := ⟨nofun, nofun⟩

theorem token (hblank : isBlank c = false) (hc : c ∉ barred) : Apart barred (' ' :: c :: rest) := by
  refine ⟨by simp, fun d hd => ?_⟩
  rw [dropBlanks_space, dropBlanks_token hblank, List.head?_cons, Option.mem_some_iff] at hd
  exact hd ▸ hc

/-- Tokens in front do not change how a text starts. -/
theorem head_spaced (h : Apart barred rest) (ts : List (List Char)) :
    ∀ c ∈ (spaced ts ++ rest).head?, c = ' ' := by
  cases ts with
  | nil => exact h.blank
  | cons t ts => simp

theorem mono (h : Apart barred rest) (hsub : barred' ⊆ barred) : Apart barred' rest :=
  ⟨h.blank, fun c hc hmem => h.next c hc (hsub hmem)⟩

end Apart

/-! ### Reading tokens -/

section Tokens

variable {src : String} {s rest : List Char}

/-- Digits without a sign read as their value, if it fits 64 bits. -/
theorem readInt64?_digits {n : Int64} (hdigits : Text.readDigits? rest = some n.toInt.toNat)
    (hn : 0 ≤ n.toInt) : Text.readInt64? rest = some n := by
  obtain ⟨-, hdigit, -⟩ := Text.readDigits?_eq_some_iff.mp hdigits
  have hint : Text.readInt? rest = some n.toInt := by
    unfold Text.readInt?
    split
    · exact absurd (hdigit '-' List.mem_cons_self) (by decide)
    · exact absurd (hdigit '+' List.mem_cons_self) (by decide)
    · rw [hdigits, Option.map_some]
      exact congrArg some (Int.toNat_of_nonneg hn)
  have hfits : Text.fitsInt64 n.toInt = true := by
    have hlt : n.toInt < 9223372036854775808 := n.toInt_lt
    exact Bool.and_eq_true_iff.mpr
      ⟨decide_eq_true n.le_toInt, decide_eq_true (by unfold Text.maxInt64; omega)⟩
  rw [Text.readInt64?, hint, Option.filter_some_pos hfits, Option.map_some, Int64.ofInt_toInt]

/-- Digits up to the end of a token read as a number. -/
theorem readNumber_digits {digits : List Char} {n : Int64}
    (hdigits : Text.readDigits? digits = some n.toInt.toNat) (hn : 0 ≤ n.toInt)
    (hrest : ∀ c ∈ rest.head?, isNumeric c = false) :
    readNumber (digits ++ rest) = .complete (.number n) rest := by
  obtain ⟨-, hdigit, -⟩ := Text.readDigits?_eq_some_iff.mp hdigits
  have htext : numberText (digits ++ rest) = digits := by
    have hfront : Front isNumeric (digits ++ rest) digits rest :=
      ⟨rfl, fun c hc => by simp [isNumeric, hdigit c hc], hrest⟩
    rw [numberText, hfront.takeWhile_eq, List.dropWhile_eq_nil_iff.mpr hdigit]
    exact List.takeWhile_eq_self_iff.mpr hdigit
  have hpoint : digits.contains '.' = false := by
    rw [List.contains_eq_mem, decide_eq_false_iff_not]
    exact fun hmem => absurd (hdigit _ hmem) (by decide)
  unfold readNumber
  dsimp only
  rw [htext, hpoint, readInt64?_digits hdigits hn]
  simp

theorem not_isBlank_of_isDigit {c : Char} (hc : c.isDigit = true) : isBlank c = false := by
  cases hblank : isBlank c with
  | false => rfl
  | true => cases hc.symm.trans (Text.of_isBlank (by decide) hblank)

/-- A text with its quotes doubled reads as the text. -/
theorem readSingleQuoted_doubled (s : List Char) (hrest : ∀ c ∈ rest.head?, c ≠ '\'') :
    readSingleQuoted ((s.flatMap fun c => if c = '\'' then ['\'', '\''] else [c]) ++ '\'' :: rest) =
      some (s, rest) := by
  induction s with
  | nil =>
    cases rest with
    | nil => simp [readSingleQuoted]
    | cons c rest => simp [readSingleQuoted, hrest c rfl]
  | cons c s ih =>
    rw [List.flatMap_cons, List.append_assoc]
    by_cases hc : c = '\''
    · simp [hc, readSingleQuoted, ih]
    · simp [hc, readSingleQuoted, ih]

/-- The text of a natural number starts with a digit. -/
theorem exists_digit (n : Nat) : ∃ c r, Nat.toDigits 10 n = c :: r ∧ c.isDigit = true := by
  cases hdigits : Nat.toDigits 10 n with
  | nil => exact absurd hdigits Nat.toDigits_ne_nil
  | cons c r =>
    refine ⟨c, r, rfl, Nat.isDigit_of_mem_toDigits (b := 10) (n := n) (by decide) (by decide) ?_⟩
    rw [hdigits]
    exact List.mem_cons_self

/-- The text of a number that is not negative is read as the number. -/
theorem readFactor_digits {n : Int64} (hn : 0 ≤ n.toInt)
    (h : dropBlanks s = Nat.toDigits 10 n.toInt.toNat ++ rest)
    (hrest : ∀ c ∈ rest.head?, isNumeric c = false) :
    readFactor src s = .complete (.number n) rest := by
  have hdigits : Text.readDigits? (Nat.toDigits 10 n.toInt.toNat) = some n.toInt.toNat :=
    Text.readDigits?_eq_some_iff.mpr
      ⟨Nat.toDigits_ne_nil, fun c hc => Nat.isDigit_of_mem_toDigits (by decide) (by decide) hc,
        Nat.ofDigitChars_toDigits (by decide) (by decide)⟩
  have hread := readNumber_digits hdigits hn hrest
  obtain ⟨c, r, htext, hc⟩ := exists_digit n.toInt.toNat
  rw [htext] at h hread
  rw [readFactor_number h hc]
  exact hread

theorem singleQuoted_toList (t : String) : (singleQuoted t).toList =
    '\'' :: ((t.toList.flatMap fun c => if c = '\'' then ['\'', '\''] else [c]) ++ ['\'']) := by
  simp [singleQuoted]

/-- The text of a string between quotes is read as the string. -/
theorem readFactor_quoted (t : String) (h : dropBlanks s = (singleQuoted t).toList ++ rest)
    (hrest : ∀ c ∈ rest.head?, c ≠ '\'') : readFactor src s = .complete (.str t) rest := by
  rw [singleQuoted_toList, List.cons_append, List.append_assoc] at h
  rw [readFactor_quote h, List.singleton_append, readSingleQuoted_doubled t.toList hrest, readQuoted,
    String.ofList_toList]

end Tokens

/-! ### Reading back -/

/-- What goes on with a factor: the arguments after a name. -/
def factorSigns : List Char := ['(']

/-- What goes on with a product. -/
def productSigns : List Char := ['*', '/', '%'] ++ factorSigns

/-- What goes on with a sum. -/
def sumSigns : List Char := ['+', '-', '.'] ++ productSigns

/-- A reader reads an expression and leaves a text, up to the blanks it starts with. -/
def Leaves (p : Parsed) (e : Expr) (rest : List Char) : Prop :=
  ∃ rest', p = .complete e rest' ∧ dropBlanks rest' = dropBlanks rest

/-- The text of an operand in a place for factors, products or sums, as a reader takes it. -/
def operandText (least : Nat) (e : Expr) : List Char := spaced (operandTokens least e e.tokens)

/-- An expression reads back in each place, whatever follows that does not go on with it. -/
structure ReadsBack (src : String) (e : Expr) : Prop where
  factor {rest : List Char} (h : Apart factorSigns rest) :
    Leaves (readFactor src (operandText 2 e ++ rest)) e rest
  product {rest : List Char} (h : Apart factorSigns rest) :
    readProduct src (operandText 1 e ++ rest) = readFactors src e rest
  sum {rest : List Char} (h : Apart productSigns rest) :
    readSum src (operandText 0 e ++ rest) = readTerms src e rest

section ReadsBack

variable {src : String} {e : Expr} {s rest : List Char}

/-- A factor is a product as far as it goes. -/
theorem readProduct_of_factor (h : Leaves (readFactor src s) e rest) :
    readProduct src s = readFactors src e rest := by
  obtain ⟨rest', hread, hrest⟩ := h
  rw [readProduct_eq, hread]
  change readFactors src e rest' = _
  rw [← readFactors_dropBlanks, hrest, readFactors_dropBlanks]

/-- A product ends where no operator of a product follows. -/
theorem readFactors_apart (hrest : Apart productSigns rest) :
    readFactors src e rest = .complete e (dropBlanks rest) :=
  readFactors_end fun c hc hmem => hrest.next c hc (List.mem_append_left _ hmem)

/-- A product is a sum as far as it goes. -/
theorem readSum_of_product (h : readProduct src s = readFactors src e rest)
    (hrest : Apart productSigns rest) : readSum src s = readTerms src e rest := by
  rw [readSum_eq, h, readFactors_apart hrest]
  exact readTerms_dropBlanks src e rest

/-- A sum ends where no operator follows. -/
theorem readTerms_apart (hrest : Apart sumSigns rest) :
    readTerms src e rest = .complete e (dropBlanks rest) :=
  readTerms_end fun c hc hmem => hrest.next c hc (List.mem_append_left _ hmem)

/-- What reads as a sum reads as a factor in brackets. -/
theorem readFactor_of_sum {ts : List (List Char)}
    (h : ∀ rest, Apart productSigns rest →
      readSum src (spaced ts ++ rest) = readTerms src e rest) (rest : List Char) :
    readFactor src (spaced (['('] :: ts ++ [[')']]) ++ rest) = .complete e rest := by
  have hclose : Apart sumSigns (' ' :: ')' :: rest) := .token (by decide) (by decide)
  have hinner : readSum src (spaced ts ++ ' ' :: ')' :: rest) = .complete e (')' :: rest) := by
    rw [h _ (hclose.mono (by decide)), readTerms_apart hclose]
    rfl
  refine readFactor_bracket (r := spaced ts ++ ' ' :: ')' :: rest) ?_ hinner rfl
  rw [List.cons_append, dropBlanks_spaced (by decide)]
  simp

namespace ReadsBack

/-- An expression without an operator at its top. -/
theorem of_factor (hlevel : e.level = 2)
    (h : ∀ rest, Apart factorSigns rest → Leaves (readFactor src (spaced e.tokens ++ rest)) e rest) :
    ReadsBack src e := by
  have htext : ∀ least ≤ 2, operandText least e = spaced e.tokens := by
    intro least hleast
    rw [operandText, operandTokens, if_neg (by omega)]
  refine ⟨fun hrest => ?_, fun hrest => ?_, fun hrest => ?_⟩
  · rw [htext 2 (by decide)]
    exact h _ hrest
  · rw [htext 1 (by decide)]
    exact readProduct_of_factor (h _ hrest)
  · rw [htext 0 (by decide)]
    exact readSum_of_product (readProduct_of_factor (h _ (hrest.mono (by decide)))) hrest

/-- An expression with an operator of a product at its top. -/
theorem of_product (hlevel : e.level = 1)
    (h : ∀ rest, Apart factorSigns rest →
      readProduct src (spaced e.tokens ++ rest) = readFactors src e rest) : ReadsBack src e := by
  have htext : ∀ least ≤ 1, operandText least e = spaced e.tokens := by
    intro least hleast
    rw [operandText, operandTokens, if_neg (by omega)]
  have hsum : ∀ rest, Apart productSigns rest →
      readSum src (spaced e.tokens ++ rest) = readTerms src e rest :=
    fun rest hrest => readSum_of_product (h _ (hrest.mono (by decide))) hrest
  refine ⟨fun hrest => ?_, fun hrest => ?_, fun hrest => ?_⟩
  · rw [operandText, operandTokens, if_pos (by omega)]
    exact ⟨_, readFactor_of_sum hsum _, rfl⟩
  · rw [htext 1 (by decide)]
    exact h _ hrest
  · rw [htext 0 (by decide)]
    exact hsum _ hrest

/-- An expression with an operator of a sum at its top. -/
theorem of_sum (hlevel : e.level = 0)
    (h : ∀ rest, Apart productSigns rest →
      readSum src (spaced e.tokens ++ rest) = readTerms src e rest) : ReadsBack src e := by
  have htext : ∀ least, 0 < least → ∀ rest,
      readFactor src (operandText least e ++ rest) = .complete e rest := by
    intro least hleast rest
    rw [operandText, operandTokens, if_pos (by omega)]
    exact readFactor_of_sum h rest
  refine ⟨fun hrest => ⟨_, htext 2 (by decide) _, rfl⟩, fun hrest => ?_, fun hrest => ?_⟩
  · exact readProduct_of_factor ⟨_, htext 1 (by decide) _, rfl⟩
  · rw [operandText, operandTokens, if_neg (by omega)]
    exact h _ hrest

/-- An expression that reads back is read to its end where no operator follows. -/
theorem complete (he : ReadsBack src e) (hrest : Apart sumSigns rest) :
    readSum src (spaced e.tokens ++ rest) = .complete e (dropBlanks rest) := by
  have hread := he.sum (hrest.mono (by decide))
  rw [operandText, operandTokens, if_neg (Nat.not_lt_zero _)] at hread
  rw [hread, readTerms_apart hrest]

theorem number {n : Int64} (hn : 0 ≤ n.toInt) : ReadsBack src (.number n) := by
  refine .of_factor rfl fun rest hrest => ⟨rest, readFactor_digits hn ?_ ?_, rfl⟩
  · obtain ⟨c, r, htext, hc⟩ := exists_digit n.toInt.toNat
    rw [tokens, htext, dropBlanks_spaced (not_isBlank_of_isDigit hc)]
    rfl
  · exact fun c hc => by rw [hrest.blank c hc]; decide

theorem str (t : String) : ReadsBack src (.str t) := by
  refine .of_factor rfl fun rest hrest => ⟨rest, readFactor_quoted t ?_ ?_, rfl⟩
  · rw [tokens, singleQuoted_toList, dropBlanks_spaced (by decide)]
    rfl
  · exact fun c hc => by rw [hrest.blank c hc]; decide

/-- A name is one token. -/
theorem name_token {name : String} (hname : IsName name) (hrest : ∀ c ∈ rest.head?, c = ' ') :
    ∃ c r, startsName c = true ∧ dropBlanks (spaced [name.toList] ++ rest) = c :: r ∧
      String.ofList ((c :: r).takeWhile isNameChar) = name ∧
      (c :: r).dropWhile isNameChar = rest := by
  obtain ⟨c, r, htext, hc, hr⟩ := hname
  have hblank : isBlank c = false := by
    cases hblank : isBlank c with
    | false => rfl
    | true => cases hc.symm.trans (Text.of_isBlank (by decide) hblank)
  have hfront : Front isNameChar (c :: (r ++ rest)) (c :: r) rest := by
    refine ⟨rfl, ?_, fun d hd => by rw [hrest d hd]; decide⟩
    rintro d (_ | ⟨_, hd⟩)
    · exact isNameChar_of_startsName hc
    · exact List.all_eq_true.mp hr d hd
  refine ⟨c, r ++ rest, hc, ?_, ?_, hfront.dropWhile_eq⟩
  · rw [htext, dropBlanks_spaced hblank]
    rfl
  · rw [hfront.takeWhile_eq, ← htext, String.ofList_toList]

theorem name {name : String} (hname : IsName name) : ReadsBack src (.variable name) := by
  refine .of_factor rfl fun rest hrest => ⟨dropBlanks rest, ?_, dropBlanks_idem rest⟩
  obtain ⟨c, r, hc, htext, hread, hnext⟩ := name_token hname hrest.blank
  rw [tokens, readFactor_variable htext hc (congrArg dropBlanks hnext), hread]
  intro t hopen
  exact hrest.next '(' (by rw [hopen]; rfl) (by decide)

theorem negate (he : ReadsBack src e) : ReadsBack src (.negate e) := by
  refine .of_factor rfl fun rest hrest => ?_
  obtain ⟨rest', hread, hrest'⟩ := he.factor hrest
  refine ⟨rest', ?_, hrest'⟩
  rw [tokens]
  exact readFactor_negate (dropBlanks_spaced (by decide)) hread

theorem binary {op : Operator} {left right : Expr} (hleft : ReadsBack src left)
    (hright : ReadsBack src right) : ReadsBack src (.binary op left right) := by
  have hblank : isBlank op.sign = false := by cases op <;> decide
  have htext : ∀ rest, spaced (Expr.binary op left right).tokens ++ rest =
      operandText op.level left ++ ' ' :: op.sign :: (operandText (op.level + 1) right ++ rest) := by
    intro rest
    rw [tokens]
    simp [operandText]
  have hdrop : ∀ s, dropBlanks (' ' :: op.sign :: s) = op.sign :: s :=
    fun s => dropBlanks_token hblank
  obtain hop | hop : op.level = 0 ∨ op.level = 1 := by cases op <;> decide
  · have hsign : op.sign ∉ productSigns := by revert hop; cases op <;> decide
    refine .of_sum hop fun rest hrest => ?_
    have hnext : ∀ c ∈ (operandText 1 right ++ rest).head?, c ≠ '.' := by
      intro c hc
      rw [hrest.head_spaced _ c hc]
      decide
    rw [htext, hop, hleft.sum (.token hblank hsign), readTerms_operator hop (hdrop _) hnext,
      hright.product (hrest.mono (by decide)), readFactors_apart hrest]
    exact readTerms_dropBlanks src _ rest
  · have hsign : op.sign ∉ factorSigns := by cases op <;> decide
    refine .of_product hop fun rest hrest => ?_
    obtain ⟨rest', hread, hrest'⟩ := hright.factor hrest
    rw [htext, hop, hleft.product (.token hblank hsign), readFactors_operator hop (hdrop _), hread]
    change readFactors src _ rest' = _
    rw [← readFactors_dropBlanks, hrest', readFactors_dropBlanks]

/-- Items read back up to the bracket that closes them. -/
theorem items {close : Char} {wrap : List Expr → Expr} (hclose : close ∈ [')', ']', '\x7d'])
    {items : List Expr} (h : ∀ e ∈ items, ReadsBack src e) (done : List Expr) (rest : List Char) :
    readItems src close wrap done (spaced (itemTokens items) ++ ' ' :: close :: rest) =
      .complete (wrap (done ++ items)) rest := by
  obtain ⟨hblank, hsign⟩ : isBlank close = false ∧ close ∉ sumSigns := by
    simp only [List.mem_cons, List.not_mem_nil, or_false] at hclose
    rcases hclose with rfl | rfl | rfl <;> decide
  have hdrop : dropBlanks (' ' :: close :: rest) = close :: rest := dropBlanks_token hblank
  induction items generalizing done with
  | nil => rw [itemTokens, spaced_nil, List.nil_append, readItems_close hdrop, List.append_nil]
  | cons e es ih =>
    have hread := h e List.mem_cons_self
    cases es with
    | nil =>
      have hend : Apart sumSigns (' ' :: close :: rest) := .token hblank hsign
      rw [itemTokens]
      refine (readItems_item wrap done hclose (hread.complete hend)).2 _ ?_
      rw [dropBlanks_idem, hdrop]
    | cons next es =>
      have hcomma : Apart sumSigns
          (' ' :: ',' :: (spaced (itemTokens (next :: es)) ++ ' ' :: close :: rest)) :=
        .token (by decide) (by decide)
      have hnext := (readItems_item wrap done hclose (hread.complete hcomma)).1 _
        (dropBlanks_token (by decide))
      rw [itemTokens, spaced_append, List.append_assoc]
      refine hnext.trans ?_
      rw [ih (fun e he => h e (List.mem_cons_of_mem _ he)), List.append_assoc]
      rfl

theorem list {items : List Expr} (h : ∀ e ∈ items, ReadsBack src e) :
    ReadsBack src (.list items) := by
  refine .of_factor rfl fun rest hrest => ⟨rest, ?_, rfl⟩
  rw [tokens, List.cons_append, readFactor_list (dropBlanks_spaced (by decide)), spaced_append,
    List.nil_append, List.append_assoc]
  exact ReadsBack.items (by decide) h [] rest

/-- Entries read back up to the brace that closes them. -/
theorem entries {entries : List (Expr × Expr)} (hkeys : ∀ p ∈ entries, ReadsBack src p.1)
    (hvalues : ∀ p ∈ entries, ReadsBack src p.2) (done : List (Expr × Expr)) (rest : List Char) :
    readEntries src done (spaced (entryTokens entries) ++ ' ' :: '\x7d' :: rest) =
      .complete (.dict (done ++ entries)) rest := by
  induction entries generalizing done with
  | nil =>
    have hblank : isBlank '\x7d' = false := by decide
    have hend : dropBlanks (' ' :: '\x7d' :: rest) = '\x7d' :: rest := dropBlanks_token hblank
    rw [entryTokens, spaced_nil, List.nil_append, readEntries_close hend, List.append_nil]
  | cons entry entries ih =>
    obtain ⟨key, value⟩ := entry
    have hkey : ReadsBack src key := hkeys _ List.mem_cons_self
    have hvalue : ReadsBack src value := hvalues _ List.mem_cons_self
    have hcolon : ∀ s, Apart sumSigns (' ' :: ':' :: s) := fun s => .token (by decide) (by decide)
    cases entries with
    | nil =>
      have hend : Apart sumSigns (' ' :: '\x7d' :: rest) := .token (by decide) (by decide)
      have hentry := (readEntries_entry done (hkey.complete (hcolon _))
        (dropBlanks_token (by decide)) (hvalue.complete hend)).2 _ (dropBlanks_token (by decide))
      rw [entryTokens, spaced_append, List.append_assoc]
      exact hentry
    | cons next entries =>
      have hcomma : Apart sumSigns
          (' ' :: ',' :: (spaced (entryTokens (next :: entries)) ++ ' ' :: '\x7d' :: rest)) :=
        .token (by decide) (by decide)
      have hentry := (readEntries_entry done (hkey.complete (hcolon _))
        (dropBlanks_token (by decide)) (hvalue.complete hcomma)).1 _ (dropBlanks_token (by decide))
      rw [entryTokens]
      simp only [spaced_append, spaced_cons, List.append_assoc, List.cons_append, List.nil_append]
      refine hentry.trans ?_
      rw [ih (fun p hp => hkeys p (List.mem_cons_of_mem _ hp))
        (fun p hp => hvalues p (List.mem_cons_of_mem _ hp)), List.append_assoc]
      rfl

theorem dict {entries : List (Expr × Expr)} (hkeys : ∀ p ∈ entries, ReadsBack src p.1)
    (hvalues : ∀ p ∈ entries, ReadsBack src p.2) : ReadsBack src (.dict entries) := by
  refine .of_factor rfl fun rest hrest => ⟨rest, ?_, rfl⟩
  rw [tokens, List.cons_append, readFactor_dict (dropBlanks_spaced (by decide)), spaced_append,
    List.nil_append, List.append_assoc]
  exact ReadsBack.entries hkeys hvalues [] rest

theorem call {function : String} {args : List Expr} (hname : IsName function)
    (h : ∀ e ∈ args, ReadsBack src e) : ReadsBack src (.call function args) := by
  refine .of_factor rfl fun rest hrest => ⟨rest, ?_, rfl⟩
  have hargs : readItems src ')' (.call function) []
      (spaced (itemTokens args) ++ ' ' :: ')' :: rest) = .complete (.call function args) rest :=
    ReadsBack.items (by decide) h [] rest
  generalize hafter : spaced (itemTokens args) ++ ' ' :: ')' :: rest = after at hargs
  have hsplit : spaced (Expr.call function args).tokens ++ rest =
      spaced [function.toList] ++ ' ' :: '(' :: after := by
    rw [tokens, ← hafter]
    simp
  have hblank : isBlank '(' = false := by decide
  obtain ⟨c, r, hc, htext, hread, hnext⟩ :=
    name_token hname (show ∀ d ∈ (' ' :: '(' :: after).head?, d = ' ' by simp)
  have hopen : dropBlanks ((c :: r).dropWhile isNameChar) = '(' :: after := by
    rw [hnext]
    exact dropBlanks_token hblank
  rw [hsplit, readFactor_call htext hc hopen, hread]
  exact hargs

end ReadsBack

/-- Every expression that can be written down reads back. -/
theorem Writable.readsBack (he : Writable e) : ReadsBack src e := by
  induction he with
  | number hn => exact .number hn
  | str s => exact .str s
  | list _ ih => exact .list ih
  | dict _ _ ihkeys ihvalues => exact .dict ihkeys ihvalues
  | «variable» hname => exact .name hname
  | call hname _ ih => exact .call hname ih
  | negate _ ih => exact ih.negate
  | binary _ _ ihleft ihright => exact ihleft.binary ihright

end ReadsBack

/-- An expression that can be written down is what the whole of its text reads as. -/
theorem read_text {e : Expr} (he : Writable e) (src : String) :
    read src e.text.toList = .complete e [] := by
  have hread : readSum src (spaced e.tokens ++ []) = .complete e [] :=
    he.readsBack.complete .nil
  rw [read_eq, text, String.toList_ofList, ← readSum_dropBlanks, dropBlanks_intercalate,
    readSum_dropBlanks, ← hread, List.append_nil]

theorem ofText_text {e : Expr} (he : Writable e) : ofText e.text = e := by
  rw [ofText, read_text he]
  rfl

/-- To evaluate the text of an expression is to evaluate the expression: the text is read to its
end, and the value, the error and what is done to the editor are those of the expression. -/
theorem evalText_text {e : Expr} (he : Writable e) :
    (∀ src, read src e.text.toList = .complete e []) ∧
      ∀ functions, evalText functions e.text = e.eval functions := by
  refine ⟨read_text he, fun functions => ?_⟩
  rw [evalText, ofText_text he]

theorem evalText_text_nested :
    evalText Functions.empty "( 1 + 2 ) * - g:x . len ( [ 'it''s' , \x7b 'k' : 3 \x7d ] )" =
      eval Functions.empty (.binary .concat
        (.binary .multiply (.binary .add (.number 1) (.number 2)) (.negate (.variable "g:x")))
        (.call "len" [.list [.str "it's", .dict [(.str "k", .number 3)]]])) := by
  have hsum : Writable (.binary .add (.number 1) (.number 2)) :=
    .binary (.number (by decide)) (.number (by decide))
  have hx : Writable (.negate (.variable "g:x")) := .negate (.variable ⟨'g', [':', 'x'], by decide⟩)
  have hdict : Writable (.dict [(.str "k", .number 3)]) :=
    .dict (by simpa using Writable.str "k") (by simpa using Writable.number (by decide))
  have hlist : Writable (.list [.str "it's", .dict [(.str "k", .number 3)]]) :=
    .list (by simpa using ⟨Writable.str "it's", hdict⟩)
  have hcall : Writable (.call "len" [.list [.str "it's", .dict [(.str "k", .number 3)]]]) :=
    .call ⟨'l', ['e', 'n'], by decide⟩ (by simpa using hlist)
  refine Eq.trans (congrArg (evalText Functions.empty) ?_)
    ((evalText_text (.binary (.binary hsum hx) hcall)).2 Functions.empty)
  rfl

end Expr

end ScriptBridge.Host
