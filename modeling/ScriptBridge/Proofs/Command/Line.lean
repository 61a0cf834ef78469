import ScriptBridge.Command.Line
import ScriptBridge.Proofs.Text.Front

/-!
# The grammar of command lines

A command line is written as blanks and colons, a range, blanks, a word, and an argument between
blanks. Splitting a line gives the parts of which it is written, and every line that is written so
is split, unless a line number of its range cannot be read. Any other line is no command.
-/

namespace ScriptBridge.Command

open Text (Front Trimmed isBlank isDecimalDigit dropBlanks trimBlanks)

/-! ### The grammar -/

/-- A line number: decimal digits of any script. -/
def IsLineNumber (s : List Char) : Prop := s ≠ [] ∧ ∀ c ∈ s, isDecimalDigit c = true

/-- The text of an address: a point, a dollar sign, or a line number. -/
inductive IsAddress : List Char → Prop
  | cursor : IsAddress ['.']
  | last : IsAddress ['$']
  | line {s : List Char} (h : IsLineNumber s) : IsAddress s

/-- The text of a range. Blanks may stand around a comma. -/
inductive RangeText.Written : RangeText → List Char → Prop
  | whole : Written .whole ['%']
  | single {a : List Char} (ha : IsAddress a) : Written (.single a) a
  | pair {a b before after : List Char} (ha : IsAddress a) (hb : IsAddress b)
      (hbefore : ∀ c ∈ before, isBlank c = true) (hafter : ∀ c ∈ after, isBlank c = true) :
      Written (.pair a b) (a ++ before ++ ',' :: (after ++ b))

/-- The text of a range that may be missing. -/
inductive RangeText.WrittenIfGiven : Option RangeText → List Char → Prop
  | missing : WrittenIfGiven none []
  | given {r : RangeText} {s : List Char} (h : r.Written s) : WrittenIfGiven (some r) s

/-- A word: an ASCII letter, then ASCII letters and digits. -/
def IsWord (s : List Char) : Prop :=
  (∃ c ∈ s.head?, c.isAlpha = true) ∧ ∀ c ∈ s, c.isAlphanum = true

/-- A command line with a range, a word and an argument. Blanks after the word are no line feeds,
and an argument that follows the word at once does not go on with it. -/
inductive Written : List Char → Option RangeText → List Char → List Char → Prop
  | line {lead front gap word separator arg trail : List Char} {range : Option RangeText}
      (hlead : ∀ c ∈ lead, isBlank c = true ∨ c = ':') (hrange : RangeText.WrittenIfGiven range front)
      (hgap : ∀ c ∈ gap, isBlank c = true) (hword : IsWord word)
      (hseparator : ∀ c ∈ separator, isBlank c = true ∧ c ≠ '\n')
      (hargument : Trimmed arg ∧ '\n' ∉ arg)
      (hboundary : separator ≠ [] ∨ ∀ c ∈ arg.head?, c.isAlphanum = false)
      (htrail : ∀ c ∈ trail, isBlank c = true ∧ c ≠ '\n') :
      Written (lead ++ front ++ gap ++ word ++ separator ++ arg ++ trail) range word arg

/-- The address that a text names; a line number in ASCII digits names the line of that number, if
it fits 64 bits. -/
inductive Address.Named : List Char → Address → Prop
  | cursor : Named ['.'] .cursor
  | last : Named ['$'] .last
  | line {s : List Char} (hne : s ≠ []) (hdigits : ∀ c ∈ s, c.isDigit = true)
      (hbound : Nat.ofDigitChars 10 s 0 < Text.count64) : Named s (.line (Nat.ofDigitChars 10 s 0))

/-- The range that a text names. -/
inductive LineRange.Named : RangeText → LineRange → Prop
  | whole : Named .whole .whole
  | single {s : List Char} {a : Address} (h : Address.Named s a) : Named (.single s) (.single a)
  | pair {s t : List Char} {a b : Address} (ha : Address.Named s a) (hb : Address.Named t b) :
    Named (.pair s t) (.pair a b)

/-- The range that the text of a range names, if there is one. -/
inductive LineRange.NamedIfGiven : Option RangeText → Option LineRange → Prop
  | missing : NamedIfGiven none none
  | given {s : RangeText} {r : LineRange} (h : LineRange.Named s r) :
    NamedIfGiven (some s) (some r)

/-- A line number that names no line: one of its digits is no ASCII digit, or it is too large. -/
def Misnumbered (s : List Char) : Prop :=
  IsLineNumber s ∧ ((∃ c ∈ s, c.isDigit = false) ∨ Text.count64 ≤ Nat.ofDigitChars 10 s 0)

/-- A range with a line number that names no line. -/
inductive RangeText.Misnumbered : RangeText → Prop
  | single {a : List Char} (h : Command.Misnumbered a) : Misnumbered (.single a)
  | first {a b : List Char} (h : Command.Misnumbered a) : Misnumbered (.pair a b)
  | second {a b : List Char} (h : Command.Misnumbered b) : Misnumbered (.pair a b)

/-! ### Characters -/

/-- A blank is no decimal digit. -/
theorem isDecimalDigit_of_isBlank {c : Char} (h : isBlank c = true) : isDecimalDigit c = false :=
  Text.of_isBlank (by decide) h

/-- An ASCII letter is neither a blank nor a digit, and no letter stands for an address. -/
theorem of_isAlpha {c : Char} (h : c.isAlpha = true) :
    isBlank c = false ∧ isDecimalDigit c = false ∧ c ∉ [':', ',', '%', '.', '$'] := by
  have hcode : c.toNat < 128 := Nat.lt_of_le_of_lt (Text.toNat_of_isAlpha h).2 (by decide)
  rw [← Char.ofNat_toNat c] at h ⊢
  generalize c.toNat = n at hcode h
  revert n
  decide

/-! ### Addresses -/

theorem Address.ofText?_line {s : List Char} (hs : IsLineNumber s) :
    Address.ofText? s = (Text.readNatBelow? Text.count64 s).map .line := by
  have hdot : s ≠ ['.'] := by
    rintro rfl
    exact absurd (hs.2 '.' List.mem_cons_self) (by decide)
  have hdollar : s ≠ ['$'] := by
    rintro rfl
    exact absurd (hs.2 '$' List.mem_cons_self) (by decide)
  rw [Address.ofText?, if_neg hdot, if_neg hdollar]

/-- A line number has no sign, and is read if all its digits are ASCII digits and it is small. -/
theorem readNatBelow?_line {s : List Char} (hs : IsLineNumber s) {bound n : Nat} :
    Text.readNatBelow? bound s = some n ↔
      (∀ c ∈ s, c.isDigit = true) ∧ Nat.ofDigitChars 10 s 0 = n ∧ n < bound := by
  have hunsigned : Text.readNatBelow? bound s = (Text.readDigits? s).filter (· < bound) := by
    unfold Text.readNatBelow?
    split
    · exact absurd (hs.2 '+' List.mem_cons_self) (by decide)
    · rfl
  rw [hunsigned, Option.filter_eq_some_iff, Text.readDigits?_eq_some_iff]
  simp [hs.1, and_assoc]

/-- An address is read as what its text names. -/
theorem Address.ofText?_eq_some_iff {s : List Char} (hs : IsAddress s) {a : Address} :
    Address.ofText? s = some a ↔ Address.Named s a := by
  constructor
  · intro h
    cases hs with
    | cursor =>
      cases h
      exact .cursor
    | last =>
      cases h
      exact .last
    | line hs =>
      rw [ofText?_line hs, Option.map_eq_some_iff] at h
      obtain ⟨n, hn, rfl⟩ := h
      obtain ⟨hdigits, rfl, hbound⟩ := (readNatBelow?_line hs).mp hn
      exact .line hs.1 hdigits hbound
  · intro h
    cases h with
    | cursor => rfl
    | last => rfl
    | line hne hdigits hbound =>
      have hs : IsLineNumber s := ⟨hne, fun c hc => Text.isDecimalDigit_of_isDigit (hdigits c hc)⟩
      have hread : Text.readNatBelow? Text.count64 s = some (Nat.ofDigitChars 10 s 0) :=
        (readNatBelow?_line hs).mpr ⟨hdigits, rfl, hbound⟩
      rw [ofText?_line hs, hread]
      rfl

/-- An address is not read if it is a line number that names no line. -/
theorem Address.ofText?_eq_none_iff {s : List Char} (hs : IsAddress s) :
    Address.ofText? s = none ↔ Misnumbered s := by
  constructor
  · intro h
    cases hs with
    | cursor => cases h
    | last => cases h
    | line hs =>
      refine ⟨hs, ?_⟩
      by_contra hnot
      simp only [not_or, not_exists, not_and, Bool.not_eq_false, not_le] at hnot
      rw [(Address.ofText?_eq_some_iff (.line hs)).mpr (.line hs.1 hnot.1 hnot.2)] at h
      cases h
  · rintro ⟨hs, hbad⟩
    rw [Option.eq_none_iff_forall_ne_some]
    intro a ha
    rw [ofText?_line hs, Option.map_eq_some_iff] at ha
    obtain ⟨n, hn, -⟩ := ha
    obtain ⟨hdigits, rfl, hbound⟩ := (readNatBelow?_line hs).mp hn
    obtain ⟨c, hc, hforeign⟩ | hlarge := hbad
    · exact absurd (hdigits c hc) (by simp [hforeign])
    · exact absurd hbound (Nat.not_lt.mpr hlarge)

/-! ### Ranges -/

theorem RangeText.Written.isAddress_single {a s : List Char}
    (h : RangeText.Written (.single a) s) : IsAddress a := by
  cases h with
  | single ha => exact ha

theorem RangeText.Written.isAddress_pair {a b s : List Char}
    (h : RangeText.Written (.pair a b) s) : IsAddress a ∧ IsAddress b := by
  cases h with
  | pair ha hb => exact ⟨ha, hb⟩

/-- A range is read as what its text names. -/
theorem LineRange.ofText?_eq_some_iff {s : RangeText} {front : List Char} (hs : s.Written front)
    {r : LineRange} : LineRange.ofText? s = some r ↔ LineRange.Named s r := by
  constructor
  · intro h
    cases s with
    | whole =>
      cases h
      exact .whole
    | single a =>
      obtain ⟨x, hx, rfl⟩ := Option.map_eq_some_iff.mp h
      exact .single ((Address.ofText?_eq_some_iff hs.isAddress_single).mp hx)
    | pair a b =>
      obtain ⟨ha, hb⟩ := hs.isAddress_pair
      obtain ⟨x, hx, h⟩ := Option.bind_eq_some_iff.mp h
      obtain ⟨y, hy, h⟩ := Option.bind_eq_some_iff.mp h
      cases h
      exact .pair ((Address.ofText?_eq_some_iff ha).mp hx) ((Address.ofText?_eq_some_iff hb).mp hy)
  · intro h
    cases h with
    | whole => rfl
    | single h =>
      rw [LineRange.ofText?, (Address.ofText?_eq_some_iff hs.isAddress_single).mpr h]
      rfl
    | pair ha hb =>
      obtain ⟨hfirst, hsecond⟩ := hs.isAddress_pair
      rw [LineRange.ofText?, (Address.ofText?_eq_some_iff hfirst).mpr ha,
        (Address.ofText?_eq_some_iff hsecond).mpr hb]
      rfl

/-- A range is not read if one of its line numbers names no line. -/
theorem LineRange.ofText?_eq_none_iff {s : RangeText} {front : List Char} (hs : s.Written front) :
    LineRange.ofText? s = none ↔ s.Misnumbered := by
  cases s with
  | whole => exact ⟨nofun, nofun⟩
  | single a =>
    have ha := Address.ofText?_eq_none_iff hs.isAddress_single
    rw [LineRange.ofText?, Option.map_eq_none_iff, ha]
    exact ⟨.single, fun | .single h => h⟩
  | pair a b =>
    obtain ⟨hfirst, hsecond⟩ := hs.isAddress_pair
    have hnone : LineRange.ofText? (.pair a b) = none ↔
        Address.ofText? a = none ∨ Address.ofText? b = none := by
      rw [LineRange.ofText?]
      cases Address.ofText? a <;> cases Address.ofText? b <;> simp
    rw [hnone, Address.ofText?_eq_none_iff hfirst, Address.ofText?_eq_none_iff hsecond]
    exact ⟨fun h => h.elim .first .second, fun | .first h => .inl h | .second h => .inr h⟩

/-! ### Splitting -/

/-- An address is cut off where no further digit follows. -/
theorem splitAddress?_append {a rest : List Char} (ha : IsAddress a)
    (hrest : ∀ c ∈ rest.head?, isDecimalDigit c = false) :
    splitAddress? (a ++ rest) = some (a, rest) := by
  cases ha with
  | cursor => rfl
  | last => rfl
  | line ha =>
    have hfront : Front isDecimalDigit (a ++ rest) a rest := ⟨rfl, ha.2, hrest⟩
    obtain ⟨c, a', rfl⟩ := List.exists_cons_of_ne_nil ha.1
    have hc := ha.2 c List.mem_cons_self
    unfold splitAddress?
    split
    · rename_i heq
      cases heq
      exact absurd hc (by decide)
    · rename_i heq
      cases heq
      exact absurd hc (by decide)
    · rw [hfront.takeWhile_eq, hfront.dropWhile_eq]
      rfl

/-- What is cut off is an address. -/
theorem splitAddress?_sound {s a rest : List Char} (h : splitAddress? s = some (a, rest)) :
    s = a ++ rest ∧ IsAddress a := by
  unfold splitAddress? at h
  split at h
  · cases h
    exact ⟨rfl, .cursor⟩
  · cases h
    exact ⟨rfl, .last⟩
  · have hfront := Front.split isDecimalDigit s
    dsimp only at h
    split at h
    · cases h
    · rename_i hne
      cases h
      exact ⟨hfront.text_eq, .line ⟨by simpa using hne, hfront.all_front⟩⟩

/-- The first character of an address is neither a blank nor a colon nor the sign of all lines. -/
theorem IsAddress.exists_cons {a : List Char} (ha : IsAddress a) :
    ∃ c s, a = c :: s ∧ isBlank c = false ∧ c ≠ ':' ∧ c ≠ '%' := by
  cases ha with
  | cursor => exact ⟨_, _, rfl, by decide⟩
  | last => exact ⟨_, _, rfl, by decide⟩
  | line ha =>
    obtain ⟨c, s, rfl⟩ := List.exists_cons_of_ne_nil ha.1
    have hc := ha.2 c List.mem_cons_self
    refine ⟨c, s, rfl, ?_, ?_, ?_⟩
    · by_contra hblank
      rw [Bool.not_eq_false] at hblank
      rw [isDecimalDigit_of_isBlank hblank] at hc
      cases hc
    · rintro rfl
      exact absurd hc (by decide)
    · rintro rfl
      exact absurd hc (by decide)

/-- A range is cut off where neither a further digit nor a comma follows. -/
theorem splitRange_append {r : RangeText} {front rest : List Char} (hr : r.Written front)
    (hdigit : ∀ c ∈ rest.head?, isDecimalDigit c = false)
    (hcomma : ∀ t, dropBlanks rest ≠ ',' :: t) : splitRange (front ++ rest) = (some r, rest) := by
  cases hr with
  | whole => rfl
  | single ha =>
    obtain ⟨c, s, hcons, -, -, hpercent⟩ := ha.exists_cons
    unfold splitRange
    split
    · rename_i heq
      rw [hcons] at heq
      cases heq
      exact absurd rfl hpercent
    · rw [splitAddress?_append ha hdigit]
      dsimp only
      split
      · rename_i heq
        exact absurd heq (hcomma _)
      · rfl
  | @pair a b before after ha hb hbefore hafter =>
    obtain ⟨c, s, hcons, -, -, hpercent⟩ := ha.exists_cons
    obtain ⟨d, t, hcons', hblank, -, -⟩ := hb.exists_cons
    have htext : a ++ before ++ ',' :: (after ++ b) ++ rest =
        a ++ (before ++ ',' :: (after ++ (b ++ rest))) := by simp
    have hbefore' : Front isBlank (before ++ ',' :: (after ++ (b ++ rest))) before
        (',' :: (after ++ (b ++ rest))) := ⟨rfl, hbefore, by simp; decide⟩
    have hafter' : Front isBlank (after ++ (b ++ rest)) after (b ++ rest) :=
      ⟨rfl, hafter, by simp [hcons', hblank]⟩
    have hstop : ∀ c ∈ (before ++ ',' :: (after ++ (b ++ rest))).head?,
        isDecimalDigit c = false := by
      cases before with
      | nil => simp; decide
      | cons x before => simpa using isDecimalDigit_of_isBlank (hbefore x List.mem_cons_self)
    rw [htext]
    unfold splitRange
    split
    · rename_i heq
      rw [hcons] at heq
      cases heq
      exact absurd rfl hpercent
    · simp only [splitAddress?_append ha hstop, Text.dropBlanks_eq hbefore',
        Text.dropBlanks_eq hafter', splitAddress?_append hb hdigit]

/-- What is cut off is a range, or nothing. -/
theorem splitRange_sound {s rest : List Char} {range : Option RangeText}
    (h : splitRange s = (range, rest)) :
    ∃ front, s = front ++ rest ∧ RangeText.WrittenIfGiven range front := by
  unfold splitRange at h
  split at h
  · cases h
    exact ⟨['%'], rfl, .given .whole⟩
  · split at h
    · cases h
      exact ⟨[], rfl, .missing⟩
    · rename_i a r hfirst
      obtain ⟨rfl, ha⟩ := splitAddress?_sound hfirst
      split at h
      · rename_i t hcomma
        split at h
        · rename_i b r' hsecond
          obtain ⟨ht, hb⟩ := splitAddress?_sound hsecond
          cases h
          obtain ⟨before, hr, hbefore⟩ := Text.exists_blanks r
          obtain ⟨after, hafter, hblanks⟩ := Text.exists_blanks t
          rw [hcomma] at hr
          rw [ht] at hafter
          exact ⟨a ++ before ++ ',' :: (after ++ b), by rw [hr, hafter]; simp,
            .given (.pair ha hb hbefore hblanks)⟩
        · cases h
          exact ⟨a, rfl, .given (.single ha)⟩
      · cases h
        exact ⟨a, rfl, .given (.single ha)⟩

/-! ### Lines -/

/-- What splitting gives for a line with these parts. -/
def Line.outcome (text : String) (range : Option RangeText) (word arg : List Char) :
    Except ParseError Line :=
  let line (range : Option LineRange) : Line :=
    { range, text, kind := Kind.ofWord (String.ofList word), arg := String.ofList arg }
  match range with
  | none => .ok (line none)
  | some r =>
    match LineRange.ofText? r with
    | some r => .ok (line (some r))
    | none => .error .invalidRange

section Lines

variable {text : String} {range : Option RangeText} {word arg front rest : List Char}

/-- The first character of a range is taken off neither with the blanks and colons in front of it
nor with those of a line without a range. -/
theorem RangeText.Written.exists_cons {r : RangeText} (h : r.Written front) :
    ∃ c s, front = c :: s ∧ isBlank c = false ∧ c ≠ ':' := by
  cases h with
  | whole => exact ⟨_, _, rfl, by decide⟩
  | single ha =>
    obtain ⟨c, s, rfl, hblank, hcolon, -⟩ := ha.exists_cons
    exact ⟨c, s, rfl, hblank, hcolon⟩
  | pair ha hb =>
    obtain ⟨c, s, rfl, hblank, hcolon, -⟩ := ha.exists_cons
    exact ⟨c, _, rfl, hblank, hcolon⟩

theorem IsWord.exists_cons (h : IsWord word) : ∃ c s, word = c :: s ∧ c.isAlpha = true := by
  obtain ⟨⟨c, hc, halpha⟩, -⟩ := h
  cases word with
  | nil => cases hc
  | cons d s =>
    cases hc
    exact ⟨c, s, rfl, halpha⟩

/-- In front of a word and the blanks before it a range is cut off. -/
theorem splitRange_written {gap : List Char} (hrange : RangeText.WrittenIfGiven range front)
    (hgap : ∀ c ∈ gap, isBlank c = true) (hword : IsWord word) (hmissing : range = none → gap = []) :
    splitRange (front ++ (gap ++ (word ++ rest))) = (range, gap ++ (word ++ rest)) := by
  obtain ⟨c, s, rfl, hc⟩ := hword.exists_cons
  obtain ⟨hblank, hdigit, hsigns⟩ := of_isAlpha hc
  simp only [List.mem_cons, List.not_mem_nil, or_false, not_or] at hsigns
  cases hrange with
  | missing =>
    obtain rfl := hmissing rfl
    have hnone : splitAddress? (c :: s ++ rest) = none := by
      unfold splitAddress?
      split
      · rename_i heq
        cases heq
        exact absurd rfl hsigns.2.2.2.1
      · rename_i heq
        cases heq
        exact absurd rfl hsigns.2.2.2.2
      · simp [hdigit]
    rw [List.nil_append, List.nil_append]
    unfold splitRange
    split
    · rename_i heq
      cases heq
      exact absurd rfl hsigns.2.2.1
    · rw [hnone]
  | given hr =>
    have hafter : Front isBlank (gap ++ (c :: s ++ rest)) gap (c :: s ++ rest) :=
      ⟨rfl, hgap, by simpa using hblank⟩
    refine splitRange_append hr ?_ ?_
    · cases gap with
      | nil => simpa using hdigit
      | cons x gap => simpa using isDecimalDigit_of_isBlank (hgap x List.mem_cons_self)
    · intro t ht
      rw [Text.dropBlanks_eq hafter] at ht
      cases ht
      exact absurd rfl hsigns.2.1

/-- What stands in front of a line is taken off; without a range, also the blanks after it. -/
theorem dropWhile_written {lead gap : List Char} (hlead : ∀ c ∈ lead, isBlank c = true ∨ c = ':')
    (hrange : RangeText.WrittenIfGiven range front) (hgap : ∀ c ∈ gap, isBlank c = true)
    (hword : IsWord word) (rest : List Char) :
    ∃ gap', (∀ c ∈ gap', isBlank c = true) ∧ (range = none → gap' = []) ∧
      (lead ++ (front ++ (gap ++ (word ++ rest)))).dropWhile (fun c => isBlank c || c = ':') =
        front ++ (gap' ++ (word ++ rest)) := by
  have hlead' : ∀ c ∈ lead, (isBlank c || decide (c = ':')) = true := by simpa using hlead
  cases hrange with
  | missing =>
    obtain ⟨c, s, rfl, hc⟩ := hword.exists_cons
    obtain ⟨hblank, -, hsigns⟩ := of_isAlpha hc
    have hfront : Front (fun c => isBlank c || decide (c = ':')) (lead ++ (gap ++ (c :: s ++ rest)))
        (lead ++ gap) (c :: s ++ rest) := by
      refine ⟨by simp, fun d hd => ?_, ?_⟩
      · obtain hd | hd := List.mem_append.mp hd
        · exact hlead' d hd
        · simp [hgap d hd]
      · simp only [List.mem_cons, not_or] at hsigns
        simpa [hblank] using hsigns.1
    exact ⟨[], nofun, fun _ => rfl, hfront.dropWhile_eq⟩
  | given hr =>
    obtain ⟨c, s, rfl, hblank, hcolon⟩ := hr.exists_cons
    have hfront : Front (fun c => isBlank c || decide (c = ':'))
        (lead ++ (c :: s ++ (gap ++ (word ++ rest)))) lead (c :: s ++ (gap ++ (word ++ rest))) :=
      ⟨rfl, hlead', by simp [hblank, hcolon]⟩
    exact ⟨gap, hgap, nofun, hfront.dropWhile_eq⟩

/-- What follows the word does not go on with it if there is a blank, or if the argument does not. -/
theorem head_tail_iff {separator trail : List Char}
    (hseparator : ∀ c ∈ separator, isBlank c = true ∧ c ≠ '\n')
    (htrail : ∀ c ∈ trail, isBlank c = true ∧ c ≠ '\n') :
    (∀ c ∈ (separator ++ arg ++ trail).head?, c.isAlphanum = false) ↔
      separator ≠ [] ∨ ∀ c ∈ arg.head?, c.isAlphanum = false := by
  cases separator with
  | cons d separator =>
    have hblank := Text.isAlphanum_of_isBlank (hseparator d List.mem_cons_self).1
    exact iff_of_true (by simpa using hblank) (.inl (List.cons_ne_nil _ _))
  | nil =>
    cases arg with
    | cons d arg => simp
    | nil =>
      refine iff_of_true ?_ (.inr nofun)
      cases trail with
      | cons d trail => simpa using Text.isAlphanum_of_isBlank (htrail d List.mem_cons_self).1
      | nil => nofun

/-- A line that is written so has its parts. -/
theorem Line.parse_of_written (h : Written text.toList range word arg) :
    Line.parse text = Line.outcome text range word arg := by
  generalize htext : text.toList = s at h
  cases h with
  | @line lead front gap word separator arg trail range hlead hrange hgap hword hseparator hargument
      hboundary htrail =>
    set tail := separator ++ arg ++ trail with htail
    have hassoc : lead ++ front ++ gap ++ word ++ separator ++ arg ++ trail =
        lead ++ (front ++ (gap ++ (word ++ tail))) := by simp [htail]
    obtain ⟨gap', hgap', hmissing, hdrop⟩ := dropWhile_written hlead hrange hgap hword tail
    obtain ⟨c, w, hcons, halpha⟩ := hword.exists_cons
    have hblanks : Front isBlank (gap' ++ (word ++ tail)) gap' (word ++ tail) :=
      ⟨rfl, hgap', by simp [hcons, (of_isAlpha halpha).1]⟩
    have hwords : Front Char.isAlphanum (word ++ tail) word tail :=
      ⟨rfl, hword.2, (head_tail_iff hseparator htrail).mpr hboundary⟩
    have hfeed : '\n' ∉ tail := by
      simp only [htail, List.mem_append, not_or]
      exact ⟨⟨fun h => (hseparator _ h).2 rfl, hargument.2⟩, fun h => (htrail _ h).2 rfl⟩
    have hhead : (word ++ tail).head?.any Char.isAlpha = true := by simp [hcons, halpha]
    have htrim : trimBlanks tail = arg :=
      Text.trimBlanks_eq (fun c hc => (hseparator c hc).1) hargument.1 fun c hc => (htrail c hc).1
    rw [hassoc] at htext
    unfold Line.parse
    simp only [htext, hdrop, splitRange_written hrange hgap' hword hmissing,
      Text.dropBlanks_eq hblanks, hwords.takeWhile_eq, hwords.dropWhile_eq, hhead, htrim]
    rw [if_neg (by simpa using hfeed)]
    rfl

/-- The tests that a command line passes: a word starts after the range, and no line feed follows
it. -/
theorem Line.accepted_of_parse {s u : List Char}
    (h : Line.parse text ≠ .error (.notACommand (Text.trim text)))
    (hs : text.toList.dropWhile (fun c => isBlank c || c = ':') = s)
    (hu : splitRange s = (range, u)) :
    (∃ c ∈ (dropBlanks u).head?, c.isAlpha = true) ∧
      '\n' ∉ (dropBlanks u).dropWhile Char.isAlphanum := by
  unfold Line.parse at h
  simp only [hs, hu] at h
  split at h
  · exact absurd rfl h
  · rename_i haccepted
    rw [Bool.or_eq_true, not_or] at haccepted
    refine ⟨?_, by simpa using haccepted.2⟩
    cases hhead : (dropBlanks u).head? with
    | none => simp [hhead] at haccepted
    | some c => exact ⟨c, rfl, by simpa [hhead] using haccepted.1⟩

/-- A line that is not refused as no command is written so. -/
theorem Line.written_of_parse (h : Line.parse text ≠ .error (.notACommand (Text.trim text))) :
    ∃ range word arg, Written text.toList range word arg := by
  have hlead := Front.split (fun c => isBlank c || decide (c = ':')) text.toList
  generalize hs : text.toList.dropWhile (fun c => isBlank c || decide (c = ':')) = s at hlead
  generalize hu : splitRange s = split
  obtain ⟨range, u⟩ := split
  obtain ⟨hfirst, hfeed⟩ := Line.accepted_of_parse h hs hu
  obtain ⟨front, rfl, hrange⟩ := splitRange_sound hu
  obtain ⟨gap, hgap, hblanks⟩ := Text.exists_blanks u
  have hword := Front.split Char.isAlphanum (dropBlanks u)
  obtain ⟨separator, trail, htail, hseparator, htrimmed, htrail⟩ :=
    Text.exists_trimmed ((dropBlanks u).dropWhile Char.isAlphanum)
  generalize (dropBlanks u).takeWhile Char.isAlphanum = word at hword
  generalize (dropBlanks u).dropWhile Char.isAlphanum = tail at hword hfeed htail htrimmed
  generalize trimBlanks tail = arg at htail htrimmed
  rw [hword.text_eq] at hgap hfirst
  subst htail hgap
  have hisWord : IsWord word := by
    refine ⟨?_, hword.all_front⟩
    cases word with
    | cons c word => simpa using hfirst
    | nil =>
      obtain ⟨c, hc, halpha⟩ := hfirst
      have hstop := hword.rest_stops c hc
      simp [Char.isAlphanum, halpha] at hstop
  simp only [List.mem_append, not_or] at hfeed
  have hseparator' : ∀ c ∈ separator, isBlank c = true ∧ c ≠ '\n' :=
    fun c hc => ⟨hseparator c hc, fun heq => hfeed.1.1 (heq ▸ hc)⟩
  have htrail' : ∀ c ∈ trail, isBlank c = true ∧ c ≠ '\n' :=
    fun c hc => ⟨htrail c hc, fun heq => hfeed.2 (heq ▸ hc)⟩
  have hboundary := (head_tail_iff hseparator' htrail').mp hword.rest_stops
  have hwritten := Written.line (fun c hc => by simpa using hlead.all_front c hc) hrange hblanks
    hisWord hseparator' ⟨htrimmed, hfeed.1.2⟩ hboundary htrail'
  refine ⟨range, word, arg, ?_⟩
  rw [hlead.text_eq]
  simpa only [List.append_assoc] using hwritten

theorem Written.range_written {s : List Char} {r : RangeText} (h : Written s (some r) word arg) :
    ∃ front, r.Written front := by
  cases h with
  | line hlead hrange =>
    cases hrange with
    | given hr => exact ⟨_, hr⟩

/-- Splitting gives a line if the range, where there is one, names lines. -/
theorem Line.outcome_eq_ok_iff (h : Written text.toList range word arg) {l : Line} :
    Line.outcome text range word arg = .ok l ↔ l.text = text ∧
      LineRange.NamedIfGiven range l.range ∧ l.kind = Kind.ofWord (String.ofList word) ∧
        l.arg = String.ofList arg := by
  obtain ⟨given, kind, argument, line⟩ := l
  cases range with
  | none =>
    constructor
    · rintro ⟨⟩
      exact ⟨rfl, .missing, rfl, rfl⟩
    · rintro ⟨rfl, ⟨⟩, rfl, rfl⟩
      rfl
  | some r =>
    obtain ⟨front, hr⟩ := h.range_written
    unfold Line.outcome
    dsimp only
    constructor
    · intro heq
      split at heq
      · rename_i hread
        cases heq
        exact ⟨rfl, .given ((LineRange.ofText?_eq_some_iff hr).mp hread), rfl, rfl⟩
      · cases heq
    · rintro ⟨rfl, hgiven, rfl, rfl⟩
      cases hgiven with
      | given hnamed => rw [(LineRange.ofText?_eq_some_iff hr).mpr hnamed]

/-- Splitting gives an invalid range if a line number of the range names no line. -/
theorem Line.outcome_eq_invalidRange_iff (h : Written text.toList range word arg) :
    Line.outcome text range word arg = .error .invalidRange ↔
      ∃ r, range = some r ∧ r.Misnumbered := by
  cases range with
  | none => exact ⟨nofun, nofun⟩
  | some r =>
    obtain ⟨front, hr⟩ := h.range_written
    have hnone := LineRange.ofText?_eq_none_iff hr
    unfold Line.outcome
    dsimp only
    constructor
    · intro heq
      split at heq
      · cases heq
      · rename_i hread
        exact ⟨r, rfl, hnone.mp hread⟩
    · rintro ⟨r', heq, hbad⟩
      cases heq
      rw [hnone.mpr hbad]

/-- No line with parts is refused as no command. -/
theorem Line.outcome_ne_notACommand {reason : String} :
    Line.outcome text range word arg ≠ .error (.notACommand reason) := by
  unfold Line.outcome
  dsimp only
  split
  · nofun
  · split <;> nofun

end Lines

/-- Splitting accepts the lines that are written by the grammar, and gives the parts of which they
are written; a line with a range that does not name lines is refused for its range, and any other
line is no command. -/
theorem Line.splits_by_grammar (text : String) :
    (∀ l, Line.parse text = .ok l ↔ l.text = text ∧
      ∃ range word arg, Written text.toList range word arg ∧
        LineRange.NamedIfGiven range l.range ∧ l.kind = Kind.ofWord (String.ofList word) ∧
          l.arg = String.ofList arg) ∧
    (Line.parse text = .error .invalidRange ↔
      ∃ r word arg, Written text.toList (some r) word arg ∧ r.Misnumbered) ∧
    (Line.parse text = .error (.notACommand (Text.trim text)) ↔
      ¬∃ range word arg, Written text.toList range word arg) := by
  by_cases hparse : Line.parse text = .error (.notACommand (Text.trim text))
  · have hnone : ¬∃ range word arg, Written text.toList range word arg := by
      rintro ⟨range, word, arg, h⟩
      rw [Line.parse_of_written h] at hparse
      exact Line.outcome_ne_notACommand hparse
    rw [hparse]
    refine ⟨fun l => ⟨nofun, ?_⟩, ⟨nofun, ?_⟩, iff_of_true rfl hnone⟩
    · rintro ⟨-, range, word, arg, h, -⟩
      exact absurd ⟨range, word, arg, h⟩ hnone
    · rintro ⟨r, word, arg, h, -⟩
      exact absurd ⟨some r, word, arg, h⟩ hnone
  · obtain ⟨range, word, arg, h⟩ := Line.written_of_parse hparse
    refine ⟨fun l => ⟨fun hl => ?_, ?_⟩, ⟨fun hl => ?_, ?_⟩, iff_of_false hparse ?_⟩
    · rw [Line.parse_of_written h, Line.outcome_eq_ok_iff h] at hl
      exact ⟨hl.1, range, word, arg, h, hl.2⟩
    · rintro ⟨htext, range', word', arg', h', hl⟩
      rw [Line.parse_of_written h', Line.outcome_eq_ok_iff h']
      exact ⟨htext, hl⟩
    · rw [Line.parse_of_written h, Line.outcome_eq_invalidRange_iff h] at hl
      obtain ⟨r, rfl, hbad⟩ := hl
      exact ⟨r, word, arg, h, hbad⟩
    · rintro ⟨r, word', arg', h', hbad⟩
      rw [Line.parse_of_written h', Line.outcome_eq_invalidRange_iff h']
      exact ⟨r, rfl, hbad⟩
    · exact not_not_intro ⟨range, word, arg, h⟩

/-- A line number in other than ASCII digits names no line. -/
example : Line.parse "1,٣py x" = .error .invalidRange := by rfl

end ScriptBridge.Command
