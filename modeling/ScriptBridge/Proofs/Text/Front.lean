import Mathlib.Data.List.TakeWhile
import ScriptBridge.Text.Class

/-!
# The front of a text

A text is read from its front: all characters of one class that it starts with, and what follows.
There is one way to see a text so. Blanks are taken off in the same way, at one end or at both.
-/

namespace ScriptBridge.Text

/-- A sequence in two parts: all elements of a class that it starts with, and the rest. -/
structure Front {α : Type} (p : α → Bool) (s front rest : List α) : Prop where
  text_eq : s = front ++ rest
  all_front : ∀ c ∈ front, p c = true
  rest_stops : ∀ c ∈ rest.head?, p c = false

/-- A text without blanks at its ends. -/
structure Trimmed (s : List Char) : Prop where
  head_eq : ∀ c ∈ s.head?, isBlank c = false
  last_eq : ∀ c ∈ s.getLast?, isBlank c = false

namespace Front

variable {α : Type} {p : α → Bool} {s front rest : List α}

/-- Every sequence has such parts. -/
theorem split (p : α → Bool) (s : List α) : Front p s (s.takeWhile p) (s.dropWhile p) := by
  refine ⟨List.takeWhile_append_dropWhile.symm, fun c hc => List.mem_takeWhile_imp hc, ?_⟩
  intro c hc
  have hnot := List.head?_dropWhile_not p s
  rw [Option.mem_def.mp hc] at hnot
  exact hnot

theorem takeWhile_eq (h : Front p s front rest) : s.takeWhile p = front := by
  rw [h.text_eq, List.takeWhile_append_of_pos h.all_front]
  cases rest with
  | nil => simp
  | cons c rest =>
    rw [List.takeWhile_cons_of_neg (by simp [h.rest_stops c rfl]), List.append_nil]

theorem dropWhile_eq (h : Front p s front rest) : s.dropWhile p = rest := by
  rw [h.text_eq, List.dropWhile_append_of_pos h.all_front]
  cases rest with
  | nil => rfl
  | cons c rest => rw [List.dropWhile_cons_of_neg (by simp [h.rest_stops c rfl])]

end Front

/-! ### Letters -/

/-- Where the ASCII letters are among the codes. -/
theorem toNat_of_isAlpha {c : Char} (h : c.isAlpha = true) : 65 ≤ c.toNat ∧ c.toNat ≤ 122 := by
  have hbounds : ∀ {lo hi : Char}, lo.val ≤ c.val ∧ c.val ≤ hi.val →
      lo.toNat ≤ c.toNat ∧ c.toNat ≤ hi.toNat := by
    rintro lo hi ⟨hlo, hhi⟩
    exact ⟨UInt32.le_iff_toNat_le.mp hlo, UInt32.le_iff_toNat_le.mp hhi⟩
  obtain hupper | hlower := Bool.or_eq_true_iff.mp h
  · obtain ⟨hlo, hhi⟩ := hbounds (of_decide_eq_true hupper)
    exact ⟨hlo, Nat.le_trans hhi (by decide)⟩
  · obtain ⟨hlo, hhi⟩ := Bool.and_eq_true_iff.mp hlower
    obtain ⟨hlo, hhi⟩ := hbounds ⟨of_decide_eq_true hlo, of_decide_eq_true hhi⟩
    exact ⟨Nat.le_trans (by decide) hlo, hhi⟩

/-! ### Blanks -/

/-- The codes of the blanks. -/
def blankCodes : List Nat :=
  [9, 10, 11, 12, 13, 0x20, 0x85, 0xa0, 0x1680, 0x2000, 0x2001, 0x2002, 0x2003, 0x2004, 0x2005,
    0x2006, 0x2007, 0x2008, 0x2009, 0x200a, 0x2028, 0x2029, 0x202f, 0x205f, 0x3000]

/-- A class that none of the blanks is in. -/
theorem of_isBlank {p : Char → Bool} {c : Char} (hp : ∀ n ∈ blankCodes, p (Char.ofNat n) = false)
    (h : isBlank c = true) : p c = false := by
  have hcode : c.toNat ∈ blankCodes := by
    simp only [isBlank, Bool.or_eq_true, Bool.and_eq_true, decide_eq_true_eq, beq_iff_eq] at h
    simp only [blankCodes, List.mem_cons, List.not_mem_nil, or_false]
    omega
  have hc := hp _ hcode
  rwa [Char.ofNat_toNat] at hc

/-- A blank is neither a letter nor a digit. -/
theorem isAlphanum_of_isBlank {c : Char} (h : isBlank c = true) : c.isAlphanum = false :=
  of_isBlank (by decide) h

variable {s front rest lead trail : List Char}

theorem dropBlanks_eq (h : Front isBlank s front rest) : dropBlanks s = rest := h.dropWhile_eq

/-- Only blanks are taken off. -/
theorem exists_blanks (s : List Char) :
    ∃ lead, s = lead ++ dropBlanks s ∧ ∀ c ∈ lead, isBlank c = true :=
  ⟨_, (Front.split isBlank s).text_eq, (Front.split isBlank s).all_front⟩

theorem dropBlanks_eq_nil_iff : dropBlanks s = [] ↔ ∀ c ∈ s, isBlank c = true :=
  List.dropWhile_eq_nil_iff

/-- What follows a text stays behind it when the text starts with something other than blanks. -/
theorem dropBlanks_append {c : Char} {r : List Char} (h : dropBlanks s = c :: r) :
    dropBlanks (s ++ trail) = c :: (r ++ trail) := by
  rw [dropBlanks, List.dropWhile_append, ← dropBlanks, h]
  rfl

/-- A character that is no blank is not the first of the blanks behind a text. -/
theorem starts_of_append (htrail : ∀ c ∈ trail, isBlank c = true) {c : Char} {t : List Char}
    (hc : isBlank c = false) (h : s ++ trail = c :: t) : ∃ r, s = c :: r := by
  cases s with
  | nil =>
    rw [List.nil_append] at h
    have hblank := htrail c (h ▸ List.mem_cons_self)
    exact absurd hblank (by simp [hc])
  | cons d r =>
    cases h
    exact ⟨r, rfl⟩

/-- A class that none of the characters behind a text is in ends in the text. -/
theorem takeWhile_trail {p : Char → Bool} (hp : ∀ c ∈ trail, p c = false) (s : List Char) :
    (s ++ trail).takeWhile p = s.takeWhile p ∧
      (s ++ trail).dropWhile p = s.dropWhile p ++ trail := by
  have hsplit := Front.split p s
  have hfront : Front p (s ++ trail) (s.takeWhile p) (s.dropWhile p ++ trail) := by
    refine ⟨by rw [← List.append_assoc, ← hsplit.text_eq], hsplit.all_front, fun c hc => ?_⟩
    rw [List.head?_append] at hc
    cases hrest : (s.dropWhile p).head? with
    | none =>
      rw [hrest] at hc
      exact hp c (List.mem_of_mem_head? hc)
    | some d =>
      rw [hrest] at hc
      cases hc
      exact hsplit.rest_stops _ hrest
  exact ⟨hfront.takeWhile_eq, hfront.dropWhile_eq⟩

/-- Blanks at the end are the blanks at the front, seen from behind. -/
theorem dropBlanksRight_eq (hs : ∀ c ∈ s.getLast?, isBlank c = false)
    (htrail : ∀ c ∈ trail, isBlank c = true) : dropBlanksRight (s ++ trail) = s := by
  have hfront : Front isBlank (s ++ trail).reverse trail.reverse s.reverse :=
    ⟨List.reverse_append, fun c hc => htrail c (List.mem_reverse.mp hc),
      fun c hc => hs c (by rwa [List.head?_reverse] at hc)⟩
  rw [dropBlanksRight, hfront.dropWhile_eq, List.reverse_reverse]

/-- What stands between blanks is what trimming leaves. -/
theorem trimBlanks_eq (hlead : ∀ c ∈ lead, isBlank c = true) (hs : Trimmed s)
    (htrail : ∀ c ∈ trail, isBlank c = true) : trimBlanks (lead ++ s ++ trail) = s := by
  cases s with
  | nil =>
    have hall : ∀ c ∈ lead ++ [] ++ trail, isBlank c = true := by
      intro c hc
      rw [List.append_nil] at hc
      exact (List.mem_append.mp hc).elim (hlead c) (htrail c)
    rw [trimBlanks, dropBlanks_eq_nil_iff.mpr hall]
    rfl
  | cons c s =>
    have hfront : Front isBlank (lead ++ (c :: s) ++ trail) lead ((c :: s) ++ trail) :=
      ⟨List.append_assoc .., hlead, hs.head_eq⟩
    rw [trimBlanks, dropBlanks_eq hfront, dropBlanksRight_eq hs.last_eq htrail]

/-- Only blanks are taken off at the end. -/
theorem exists_blanksRight (s : List Char) : ∃ trail, s = dropBlanksRight s ++ trail ∧
    (∀ c ∈ (dropBlanksRight s).getLast?, isBlank c = false) ∧ ∀ c ∈ trail, isBlank c = true := by
  have hright := Front.split isBlank s.reverse
  refine ⟨(s.reverse.takeWhile isBlank).reverse, ?_, fun c hc => ?_, fun c hc => ?_⟩
  · rw [dropBlanksRight, ← List.reverse_append, ← hright.text_eq, List.reverse_reverse]
  · rw [dropBlanksRight, List.getLast?_reverse] at hc
    exact hright.rest_stops c hc
  · exact hright.all_front c (List.mem_reverse.mp hc)

/-- Every text is what trimming leaves of it, between blanks. -/
theorem exists_trimmed (s : List Char) : ∃ lead trail, s = lead ++ trimBlanks s ++ trail ∧
    (∀ c ∈ lead, isBlank c = true) ∧ Trimmed (trimBlanks s) ∧
    ∀ c ∈ trail, isBlank c = true := by
  have hleft := Front.split isBlank s
  obtain ⟨trail, htext, hlast, htrail⟩ := exists_blanksRight (dropBlanks s)
  rw [← trimBlanks] at htext hlast
  refine ⟨s.takeWhile isBlank, trail, ?_, hleft.all_front, ⟨fun c hc => ?_, hlast⟩, htrail⟩
  · rw [List.append_assoc, ← htext]
    exact hleft.text_eq
  · refine hleft.rest_stops c ?_
    change c ∈ (dropBlanks s).head?
    rw [htext, List.head?_append, Option.mem_def.mp hc]
    rfl

/-- More blanks at the ends do not matter for what trimming leaves. -/
theorem trimBlanks_between (hlead : ∀ c ∈ lead, isBlank c = true)
    (htrail : ∀ c ∈ trail, isBlank c = true) (s : List Char) :
    trimBlanks (lead ++ s ++ trail) = trimBlanks s := by
  obtain ⟨lead', trail', hs, hlead', hmiddle, htrail'⟩ := exists_trimmed s
  have htext : lead ++ s ++ trail = (lead ++ lead') ++ trimBlanks s ++ (trail' ++ trail) :=
    calc
      lead ++ s ++ trail = lead ++ (lead' ++ trimBlanks s ++ trail') ++ trail := by rw [← hs]
      _ = (lead ++ lead') ++ trimBlanks s ++ (trail' ++ trail) := by simp only [List.append_assoc]
  rw [htext]
  refine trimBlanks_eq (fun c hc => ?_) hmiddle fun c hc => ?_
  · exact (List.mem_append.mp hc).elim (hlead c) (hlead' c)
  · exact (List.mem_append.mp hc).elim (htrail' c) (htrail c)

end ScriptBridge.Text
