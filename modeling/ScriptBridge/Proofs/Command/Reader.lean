import ScriptBridge.Command.Line
import ScriptBridge.Proofs.Text.Front

/-!
# What a command script gives

A command script is a sequence of pieces: lines that give nothing, lines that are refused, commands
of one line, and commands with a body. The reader takes the lines one by one, and gives what these
pieces say in their order. So each line belongs to one piece, and a script that goes on after the
end of a piece gives what its two parts give.
-/

namespace ScriptBridge.Command

open Text (isBlank dropBlanks trimBlanks)

/-! ### Lines -/

/-- A line between commands that gives nothing: it is blank, or a comment. -/
def Idle (line : String) : Prop :=
  (∀ c ∈ line.toList, isBlank c = true) ∨
    ∃ gap rest, line.toList = gap ++ '"' :: rest ∧ ∀ c ∈ gap, isBlank c = true

/-- A command line opens a body that ends at a marker: the text after `<<`, or a point. -/
def Line.Opens (l : Line) (marker : String) : Prop :=
  l.kind = .script ∧ ∃ rest, l.arg.toList = '<' :: '<' :: rest ∧
    marker = if trimBlanks rest = [] then "." else String.ofList (trimBlanks rest)

theorem isIgnored_iff (line : String) : Reader.isIgnored line = true ↔ Idle line := by
  unfold Reader.isIgnored
  constructor
  · intro h
    obtain ⟨gap, hline, hgap⟩ := Text.exists_blanks line.toList
    split at h
    · rename_i hnil
      exact .inl (Text.dropBlanks_eq_nil_iff.mp hnil)
    · rename_i c rest hcons
      rw [hcons, of_decide_eq_true h] at hline
      exact .inr ⟨gap, rest, hline, hgap⟩
  · rintro (hblank | ⟨gap, rest, hline, hgap⟩)
    · rw [Text.dropBlanks_eq_nil_iff.mpr hblank]
    · have hfront : Text.Front isBlank line.toList gap ('"' :: rest) := ⟨hline, hgap, by simp; decide⟩
      rw [Text.dropBlanks_eq hfront]
      rfl

theorem Line.marker?_eq_some_iff {l : Line} {marker : String} :
    l.marker? = some marker ↔ l.Opens marker := by
  unfold Line.marker?
  split
  · rename_i rest hkind harg
    rw [Option.some.injEq]
    constructor
    · intro h
      exact ⟨hkind, rest, harg, by simp [← h]⟩
    · rintro ⟨-, rest', harg', rfl⟩
      rw [harg] at harg'
      cases harg'
      simp
  · rename_i hnot
    refine ⟨nofun, ?_⟩
    rintro ⟨hkind, rest, harg, -⟩
    exact absurd harg (hnot rest hkind)

/-! ### The grammar -/

/-- A script, line by line, and what it gives. -/
inductive Script : List String → List (Except ParseError Input) → Prop
  | done : Script [] []
  | idle {line : String} {lines : List String} {given : List (Except ParseError Input)}
      (hidle : Idle line) (hrest : Script lines given) : Script (line :: lines) given
  | refused {line : String} {lines : List String} {given : List (Except ParseError Input)}
      {e : ParseError} (hbusy : ¬Idle line) (hline : Line.parse line = .error e)
      (hrest : Script lines given) : Script (line :: lines) (.error e :: given)
  | command {line : String} {lines : List String} {given : List (Except ParseError Input)}
      {l : Line} (hbusy : ¬Idle line) (hline : Line.parse line = .ok l)
      (hplain : ∀ marker, ¬l.Opens marker) (hrest : Script lines given) :
      Script (line :: lines) (.ok ⟨l, none⟩ :: given)
  | body {line stop marker : String} {body lines : List String}
      {given : List (Except ParseError Input)} {l : Line} (hbusy : ¬Idle line)
      (hline : Line.parse line = .ok l) (hopens : l.Opens marker)
      (hbody : ∀ x ∈ body, Text.trimRight x ≠ marker) (hstop : Text.trimRight stop = marker)
      (hrest : Script lines given) :
      Script (line :: (body ++ stop :: lines))
        (.ok ⟨l, some (String.intercalate "\n" body)⟩ :: given)
  | unfinished {line marker : String} {body : List String} {l : Line} (hbusy : ¬Idle line)
      (hline : Line.parse line = .ok l) (hopens : l.Opens marker)
      (hbody : ∀ x ∈ body, Text.trimRight x ≠ marker) :
      Script (line :: body) [.ok ⟨l, some (String.intercalate "\n" body)⟩]

namespace Reader

/-! ### Reading -/

/-- What the reader gives on one line. -/
def given (read : Except ParseError (Option Input)) : List (Except ParseError Input) :=
  match read with
  | .ok none => []
  | .ok (some input) => [.ok input]
  | .error e => [.error e]

/-- What the reader gives on lines and at the end of them. -/
def readLines : Reader → List String → List (Except ParseError Input)
  | r, [] => given (.ok r.finish)
  | r, line :: lines => given (r.push line).1 ++ readLines (r.push line).2 lines

/-- Where the reader is after lines. -/
def after (r : Reader) (lines : List String) : Reader :=
  lines.foldl (fun r line => (r.push line).2) r

variable {line marker : String} {lines body : List String} {l : Line} {r : Reader}

theorem push_idle (h : Idle line) : push none line = (.ok none, none) := by
  rw [push, if_pos ((isIgnored_iff line).mpr h)]

theorem push_refused {e : ParseError} (hbusy : ¬Idle line) (hline : Line.parse line = .error e) :
    push none line = (.error e, none) := by
  rw [push, if_neg (by rwa [isIgnored_iff]), hline]

theorem push_command (hbusy : ¬Idle line) (hline : Line.parse line = .ok l)
    (hplain : ∀ marker, ¬l.Opens marker) : push none line = (.ok (some ⟨l, none⟩), none) := by
  have hmarker : l.marker? = none :=
    Option.eq_none_iff_forall_ne_some.mpr fun m hm => hplain m (Line.marker?_eq_some_iff.mp hm)
  rw [push, if_neg (by rwa [isIgnored_iff]), hline]
  dsimp only
  rw [hmarker]

theorem push_opener (hbusy : ¬Idle line) (hline : Line.parse line = .ok l)
    (hopens : l.Opens marker) : push none line = (.ok none, some ⟨l, marker, []⟩) := by
  rw [push, if_neg (by rwa [isIgnored_iff]), hline]
  dsimp only
  rw [Line.marker?_eq_some_iff.mpr hopens]

theorem push_inside {b : OpenBody} (h : Text.trimRight line ≠ b.marker) :
    push (some b) line = (.ok none, some { b with lines := b.lines ++ [line] }) := by
  rw [push, if_neg h]

theorem push_stop {b : OpenBody} (h : Text.trimRight line = b.marker) :
    push (some b) line = (.ok (some (close b)), none) := by
  rw [push, if_pos h]

/-- Lines before the marker are collected, whatever they look like. -/
theorem readLines_body {b : OpenBody} (hbody : ∀ x ∈ body, Text.trimRight x ≠ b.marker)
    (lines : List String) :
    readLines (some b) (body ++ lines) =
      readLines (some { b with lines := b.lines ++ body }) lines := by
  induction body generalizing b with
  | nil => simp
  | cons x body ih =>
    have hrest : ∀ y ∈ body, Text.trimRight y ≠ b.marker :=
      fun y hy => hbody y (List.mem_cons_of_mem x hy)
    have hnext := ih (b := { b with lines := b.lines ++ [x] }) hrest
    rw [List.cons_append, readLines, push_inside (hbody x List.mem_cons_self)]
    simpa [given] using hnext

/-- A body that has no end is complete at the end. -/
theorem readLines_unfinished {b : OpenBody} (hbody : ∀ x ∈ body, Text.trimRight x ≠ b.marker) :
    readLines (some b) body = [.ok (close { b with lines := b.lines ++ body })] := by
  have h := readLines_body hbody []
  rwa [List.append_nil] at h

/-- The reader gives what a script says. -/
theorem readLines_of_script {outputs : List (Except ParseError Input)} (h : Script lines outputs) :
    readLines none lines = outputs := by
  induction h with
  | done => rfl
  | idle hidle _ ih => rw [readLines, push_idle hidle, ih]; rfl
  | refused hbusy hline _ ih => rw [readLines, push_refused hbusy hline, ih]; rfl
  | command hbusy hline hplain _ ih => rw [readLines, push_command hbusy hline hplain, ih]; rfl
  | body hbusy hline hopens hbody hstop _ ih =>
    rw [readLines, push_opener hbusy hline hopens]
    dsimp only
    rw [readLines_body hbody, readLines, push_stop hstop, ih]
    rfl
  | unfinished hbusy hline hopens hbody =>
    rw [readLines, push_opener hbusy hline hopens]
    dsimp only
    rw [readLines_unfinished hbody]
    rfl

/-- The lines after an opener: a body up to the first line that is the marker, or to the end. -/
theorem exists_script_body (hbusy : ¬Idle line) (hline : Line.parse line = .ok l)
    (hopens : l.Opens marker)
    (hrest : ∀ rest : List String, rest.length < lines.length → ∃ outputs, Script rest outputs) :
    ∃ outputs, Script (line :: lines) outputs := by
  have hfront := Text.Front.split (fun x => decide (Text.trimRight x ≠ marker)) lines
  generalize lines.takeWhile _ = body at hfront
  generalize lines.dropWhile _ = rest at hfront
  have hbody : ∀ x ∈ body, Text.trimRight x ≠ marker :=
    fun x hx => of_decide_eq_true (hfront.all_front x hx)
  obtain rfl := hfront.text_eq
  cases rest with
  | nil =>
    rw [List.append_nil]
    exact ⟨_, .unfinished hbusy hline hopens hbody⟩
  | cons stop rest =>
    obtain ⟨outputs, hscript⟩ := hrest rest (by simp; omega)
    have hstop : Text.trimRight stop = marker := by simpa using hfront.rest_stops stop rfl
    exact ⟨_, .body hbusy hline hopens hbody hstop hscript⟩

/-- Every sequence of lines is a script. -/
theorem exists_script (lines : List String) : ∃ outputs, Script lines outputs := by
  match lines with
  | [] => exact ⟨[], .done⟩
  | line :: lines =>
    obtain ⟨outputs, hrest⟩ := exists_script lines
    by_cases hidle : Idle line
    · exact ⟨outputs, .idle hidle hrest⟩
    cases hline : Line.parse line with
    | error e => exact ⟨_, .refused hidle hline hrest⟩
    | ok l =>
      by_cases hopens : ∃ marker, l.Opens marker
      · obtain ⟨marker, hopens⟩ := hopens
        exact exists_script_body hidle hline hopens fun rest hlength => exists_script rest
      · exact ⟨_, .command hidle hline (fun marker h => hopens ⟨marker, h⟩) hrest⟩
termination_by lines.length

/-- Lines after which the reader is between commands give what they give on their own. -/
theorem readLines_append (h : after r lines = none) (more : List String) :
    readLines r (lines ++ more) = readLines r lines ++ readLines none more := by
  induction lines generalizing r with
  | nil =>
    obtain rfl : r = none := h
    rfl
  | cons line lines ih => rw [List.cons_append, readLines, ih h, readLines, List.append_assoc]

end Reader

/-- Reading a script line by line gives what its pieces say, and nothing else; and where its first
part ends between two pieces, it gives what the two parts give on their own. -/
theorem Script.read_in_pieces (lines : List String) :
    (∀ outputs, Reader.readLines none lines = outputs ↔ Script lines outputs) ∧
      ∀ first second, lines = first ++ second → Reader.after none first = none →
        Reader.readLines none lines = Reader.readLines none first ++ Reader.readLines none second := by
  refine ⟨fun outputs => ⟨?_, Reader.readLines_of_script⟩, ?_⟩
  · rintro rfl
    obtain ⟨outputs, hscript⟩ := Reader.exists_script lines
    rwa [Reader.readLines_of_script hscript]
  · rintro first second rfl hafter
    exact Reader.readLines_append hafter second

/-- A body ends between two pieces. -/
theorem Script.read_in_pieces_after_body :
    Reader.after none ["python << EOF", "py 1", "EOF "] = none ∧
      Reader.readLines none ["python << EOF", "py 1", "EOF ", "echo 2"] =
        Reader.readLines none ["python << EOF", "py 1", "EOF "] ++
          Reader.readLines none ["echo 2"] := by
  have hafter : Reader.after none ["python << EOF", "py 1", "EOF "] = none := by rfl
  exact ⟨hafter, (Script.read_in_pieces _).2 _ _ rfl hafter⟩

/-- An opener inside a body is a line of it. -/
example : Reader.readLines none ["python << EOF", "python << X", "", "EOF"] =
    [.ok ⟨⟨none, .script, "<< EOF", "python << EOF"⟩, some "python << X\n"⟩] := by rfl

end ScriptBridge.Command
