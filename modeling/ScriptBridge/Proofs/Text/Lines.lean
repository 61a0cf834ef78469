import Mathlib.Data.List.Induction
import ScriptBridge.Text.Lines

/-!
# Lines of a text that grows

A text is its complete lines, each with its line feed, and a rest without one. There is one way to
see it so, and a text that grows keeps its complete lines: what comes next goes on with the rest.
So the lines of a text do not depend on the parts in which it comes.
-/

namespace ScriptBridge.Text

/-- A text is cut at its line feeds: into lines, each of which one follows, and the rest. -/
structure Cut (text : List Char) (ls : List (List Char)) (rest : List Char) : Prop where
  text_eq : text = ls.flatMap (· ++ ['\n']) ++ rest
  lines_open : ∀ line ∈ ls, '\n' ∉ line
  rest_open : '\n' ∉ rest

variable {text more line rest rest' : List Char} {ls ls' : List (List Char)}

theorem cutLine_rest (h : '\n' ∉ rest) : cutLine rest = (rest, none) := by
  induction rest with
  | nil => rfl
  | cons c rest ih =>
    rw [List.mem_cons, not_or] at h
    rw [cutLine, if_neg (Ne.symm h.1), ih h.2]

theorem cutLine_line (h : '\n' ∉ line) (s : List Char) :
    cutLine (line ++ '\n' :: s) = (line, some s) := by
  induction line with
  | nil => rfl
  | cons c line ih =>
    rw [List.mem_cons, not_or] at h
    rw [List.cons_append, cutLine, if_neg (Ne.symm h.1), ih h.2]

/-- A first line comes before the lines of what follows it. -/
theorem flatMap_lines_cons (line : List Char) (ls : List (List Char)) (rest : List Char) :
    (line :: ls).flatMap (· ++ ['\n']) ++ rest =
      line ++ '\n' :: (ls.flatMap (· ++ ['\n']) ++ rest) := by
  rw [List.flatMap_cons, List.append_assoc, List.append_assoc, List.singleton_append]

namespace Cut

/-- A text without line feeds is its rest. -/
theorem waiting (h : '\n' ∉ text) : Cut text [] text := ⟨rfl, by simp, h⟩

/-- The rest of a text goes on, and the complete lines stay. -/
theorem append (h : Cut text ls rest) (hmore : Cut (rest ++ more) ls' rest') :
    Cut (text ++ more) (ls ++ ls') rest' := by
  refine ⟨?_, fun line hline => ?_, hmore.rest_open⟩
  · rw [h.text_eq, List.append_assoc, hmore.text_eq, List.flatMap_append, List.append_assoc]
  · exact (List.mem_append.mp hline).elim (h.lines_open line) (hmore.lines_open line)

/-- Every text can be cut. -/
theorem exists_cut (text : List Char) : ∃ ls rest, Cut text ls rest := by
  induction text using List.reverseRecOn with
  | nil => exact ⟨[], [], .waiting List.not_mem_nil⟩
  | append_singleton text c ih =>
    obtain ⟨ls, rest, h⟩ := ih
    by_cases hc : c = '\n'
    · have hline : Cut (rest ++ [c]) [rest] [] :=
        ⟨by simp [hc], by simpa using h.rest_open, List.not_mem_nil⟩
      exact ⟨_, _, h.append hline⟩
    · have hopen : '\n' ∉ rest ++ [c] := by simpa [Ne.symm hc] using h.rest_open
      exact ⟨_, _, h.append (.waiting hopen)⟩

/-- There is one way to cut a text. -/
theorem unique (h : Cut text ls rest) (h' : Cut text ls' rest') : ls = ls' ∧ rest = rest' := by
  obtain ⟨rfl, hlines, hrest⟩ := h
  obtain ⟨htext, hlines', hrest'⟩ := h'
  induction ls generalizing ls' with
  | nil =>
    have hcut := cutLine_rest hrest
    cases ls' with
    | nil => exact ⟨rfl, htext⟩
    | cons line' ls' =>
      rw [List.flatMap_nil, List.nil_append, flatMap_lines_cons] at htext
      rw [htext, cutLine_line (hlines' line' List.mem_cons_self)] at hcut
      exact absurd (congrArg Prod.snd hcut) (Option.some_ne_none _)
  | cons line ls ih =>
    have hcut := cutLine_line (hlines line List.mem_cons_self) (ls.flatMap (· ++ ['\n']) ++ rest)
    rw [← flatMap_lines_cons, htext] at hcut
    cases ls' with
    | nil =>
      rw [List.flatMap_nil, List.nil_append, cutLine_rest hrest'] at hcut
      cases hcut
    | cons line' ls' =>
      rw [flatMap_lines_cons, cutLine_line (hlines' line' List.mem_cons_self)] at hcut
      obtain ⟨hline, hsome⟩ := Prod.mk.inj hcut
      obtain ⟨hls, hrests⟩ := ih (fun l hl => hlines l (List.mem_cons_of_mem _ hl))
        (Option.some.inj hsome).symm fun l hl => hlines' l (List.mem_cons_of_mem _ hl)
      exact ⟨by rw [hline, hls], hrests⟩

end Cut

/-! ### How a text is cut -/

/-- The end of complete lines, seen from behind. -/
theorem takeWhile_reverse_lines (ls : List (List Char)) :
    (ls.flatMap (· ++ ['\n'])).reverse.takeWhile (· ≠ '\n') = [] := by
  induction ls using List.reverseRecOn with
  | nil => rfl
  | append_singleton ls line => simp

/-- The complete lines of a text are taken off together. -/
theorem splitAtLastFeed_eq (h : Cut text ls rest) :
    splitAtLastFeed text = (ls.flatMap (· ++ ['\n']), rest) := by
  have hrest : ∀ c ∈ rest.reverse, decide (c ≠ '\n') = true := by
    intro c hc
    rw [decide_eq_true_eq]
    exact fun hfeed => h.rest_open (hfeed ▸ List.mem_reverse.mp hc)
  have htail : (text.reverse.takeWhile (· ≠ '\n')).reverse = rest := by
    rw [h.text_eq, List.reverse_append, List.takeWhile_append_of_pos hrest,
      takeWhile_reverse_lines, List.append_nil, List.reverse_reverse]
  unfold splitAtLastFeed
  dsimp only
  rw [htail, h.text_eq, List.length_append, Nat.add_sub_cancel, List.take_left]

/-- The first line of a text is read on its own. -/
theorem lines_line (h : '\n' ∉ line) (s : List Char) :
    lines (line ++ '\n' :: s) = dropReturn line :: lines s := by
  have hcut := cutLine_line h s
  rw [lines]
  split
  · rename_i heq
    rw [hcut] at heq
    cases heq
    rfl
  · rename_i heq
    rw [hcut] at heq
    cases heq

/-- A text without line feeds is a line unless it is empty. -/
theorem lines_rest (h : '\n' ∉ rest) : lines rest = if rest.isEmpty then [] else [rest] := by
  have hcut := cutLine_rest h
  rw [lines]
  split
  · rename_i heq
    rw [hcut] at heq
    cases heq
  · rename_i heq
    rw [hcut] at heq
    cases heq
    rfl

/-- Complete lines are read one by one. -/
theorem lines_flatMap (h : ∀ line ∈ ls, '\n' ∉ line) :
    lines (ls.flatMap (· ++ ['\n'])) = ls.map dropReturn := by
  induction ls with
  | nil =>
    rw [lines]
    rfl
  | cons line ls ih =>
    have hcons : (line :: ls).flatMap (· ++ ['\n']) = line ++ '\n' :: ls.flatMap (· ++ ['\n']) := by
      simp
    rw [hcons, lines_line (h line List.mem_cons_self), List.map_cons,
      ih fun l hl => h l (List.mem_cons_of_mem _ hl)]

/-- What holds of a text without line feeds, and of a first line in front of a text of which it
holds, holds of every text. -/
theorem linewise {motive : List Char → Prop} (rest : ∀ s, '\n' ∉ s → motive s)
    (line : ∀ first s, '\n' ∉ first → motive s → motive (first ++ '\n' :: s)) (s : List Char) :
    motive s := by
  obtain ⟨ls, last, h⟩ := Cut.exists_cut s
  obtain ⟨rfl, hlines, hlast⟩ := h
  induction ls with
  | nil => exact rest _ hlast
  | cons first ls ih =>
    rw [flatMap_lines_cons]
    exact line _ _ (hlines first List.mem_cons_self)
      (ih fun l hl => hlines l (List.mem_cons_of_mem _ hl))

end ScriptBridge.Text
