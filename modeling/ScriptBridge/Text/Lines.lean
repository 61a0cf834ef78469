/-!
# Lines of a text

A line ends with a line feed, which is not part of it, nor is one carriage return right before
that line feed. What follows the last line feed is a line unless it is empty.
-/

namespace ScriptBridge.Text

/-- The characters before the first line feed, and those after it if there is one. -/
def cutLine : List Char → List Char × Option (List Char)
  | [] => ([], none)
  | c :: s =>
    if c = '\n' then ([], some s)
    else let (line, rest) := cutLine s; (c :: line, rest)

/-- What follows the first line feed is shorter than the text. -/
theorem cutLine_length {s line rest : List Char} (h : cutLine s = (line, some rest)) :
    rest.length < s.length := by
  induction s generalizing line rest with
  | nil => simp [cutLine] at h
  | cons c s ih =>
    unfold cutLine at h
    split at h
    · simp only [Prod.mk.injEq, Option.some.injEq] at h
      simp [h.2]
    · generalize hs : cutLine s = p at h
      obtain ⟨l, r⟩ := p
      simp only [Prod.mk.injEq] at h
      have := ih (show cutLine s = (l, some rest) by rw [hs, h.2])
      simp only [List.length_cons]
      omega

/-- A line without the carriage return that its line feed follows. -/
def dropReturn (line : List Char) : List Char :=
  if line.getLast? = some '\r' then line.dropLast else line

/-- The lines of a text. -/
def lines (s : List Char) : List (List Char) :=
  match h : cutLine s with
  | (line, some rest) =>
    have := cutLine_length h
    dropReturn line :: lines rest
  | (line, none) => if line.isEmpty then [] else [line]
termination_by s.length

/-- `lines` on strings. -/
def linesOf (s : String) : List String := (lines s.toList).map String.ofList

/-- The part of a text up to its last line feed included, and the part after it. -/
def splitAtLastFeed (s : List Char) : List Char × List Char :=
  let tail := (s.reverse.takeWhile (· ≠ '\n')).reverse
  (s.take (s.length - tail.length), tail)

end ScriptBridge.Text
