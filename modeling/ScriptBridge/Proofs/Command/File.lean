import ScriptBridge.Proofs.Session.GivenLines
import ScriptBridge.Proofs.Session.SingleCall
import ScriptBridge.Proofs.Text.Front

/-!
# The statement for a script file

A script file is run by a statement with the path in it, twice, between single quotes. Whatever
characters the path has, the literals end where the statement means them to, and each of them stands
for the path; so a path is never read as code. A path that is too long is refused, and then nothing
runs.
-/

namespace ScriptBridge

open ScriptBridge.Computation

namespace Command

/-! ### Source texts with literals -/

/-- A literal between single quotes, from behind its first quote: the text that it stands for, and
what follows it. A backslash stands in front of a backslash or a quote that belongs to the text. A
literal ends on the line on which it starts. -/
inductive Literal : List Char → List Char → List Char → Prop
  | close (rest : List Char) : Literal ('\'' :: rest) [] rest
  | escaped {c : Char} {s value rest : List Char} (hc : c = '\\' ∨ c = '\'')
      (htail : Literal s value rest) : Literal ('\\' :: c :: s) (c :: value) rest
  | plain {c : Char} {s value rest : List Char} (hc : c ∉ ['\\', '\'', '\n', '\r'])
      (htail : Literal s value rest) : Literal (c :: s) (c :: value) rest

/-- A part of a source text. -/
inductive Part where
  | code (text : List Char)
  /-- A literal that stands for a text. -/
  | literal (value : List Char)

/-- Code in which no literal and no comment starts. -/
def Bare (s : List Char) : Prop := ∀ c ∈ s, c ∉ ['\'', '"', '#']

instance (s : List Char) : Decidable (Bare s) :=
  List.decidableBAll (fun c => c ∉ ['\'', '"', '#']) s

/-- A quote between two texts starts a literal by the rules of `Literal`: a letter in front of it or
two more quotes behind it would make other rules hold. -/
structure Opens (s t : List Char) : Prop where
  unmarked : ∀ c ∈ s.getLast?, c.isAlphanum = false
  single : ¬['\'', '\''] <+: t

/-- A source text and its parts. -/
inductive Source : List Char → List Part → Prop
  | code {s : List Char} (hs : Bare s) : Source s [.code s]
  | literal {s t value rest : List Char} {parts : List Part} (hs : Bare s) (hopens : Opens s t)
      (hliteral : Literal t value rest) (hrest : Source rest parts) :
      Source (s ++ '\'' :: t) (.code s :: .literal value :: parts)

variable {s t value value' rest rest' path : List Char} {parts parts' : List Part}

/-- There is one way to read a literal. -/
theorem Literal.unique (h : Literal s value rest) (h' : Literal s value' rest') :
    value = value' ∧ rest = rest' := by
  induction h generalizing value' with
  | close rest =>
    cases h' with
    | close => exact ⟨rfl, rfl⟩
    | plain hc => simp at hc
  | escaped hc _ ih =>
    cases h' with
    | escaped _ h' =>
      obtain ⟨rfl, rfl⟩ := ih h'
      exact ⟨rfl, rfl⟩
    | plain hc => simp at hc
  | plain hc _ ih =>
    cases h' with
    | close => simp at hc
    | escaped => simp at hc
    | plain _ h' =>
      obtain ⟨rfl, rfl⟩ := ih h'
      exact ⟨rfl, rfl⟩

/-- The code before the first quote of a text ends there. -/
theorem Bare.unique (hs : Bare s) (ht : Bare t) (h : s ++ '\'' :: rest = t ++ '\'' :: rest') :
    s = t ∧ rest = rest' := by
  have hfront {u v : List Char} (hu : Bare u) :
      Text.Front (fun c => c ≠ '\'') (u ++ '\'' :: v) u ('\'' :: v) :=
    ⟨rfl, fun c hc => decide_eq_true fun hquote => hu c hc (by simp [hquote]), by simp⟩
  have hs := hfront (v := rest) hs
  have ht := hfront (v := rest') ht
  rw [h] at hs
  exact ⟨hs.takeWhile_eq.symm.trans ht.takeWhile_eq,
    (List.cons.inj (hs.dropWhile_eq.symm.trans ht.dropWhile_eq)).2⟩

/-- There is one way to read a source text. -/
theorem Source.unique (h : Source s parts) (h' : Source s parts') : parts = parts' := by
  induction h generalizing parts' with
  | @code s hs =>
    generalize htext : s = s' at h'
    cases h' with
    | code => rfl
    | literal =>
      rw [htext] at hs
      exact absurd (hs '\'' (by simp)) (by simp)
  | @literal s t value rest parts hs hopens hliteral _ ih =>
    generalize htext : s ++ '\'' :: t = s' at h'
    cases h' with
    | code hbare =>
      rw [← htext] at hbare
      exact absurd (hbare '\'' (by simp)) (by simp)
    | literal hbare hopens' hliteral' hrest' =>
      obtain ⟨rfl, rfl⟩ := hs.unique hbare htext
      obtain ⟨rfl, rfl⟩ := hliteral.unique hliteral'
      rw [ih hrest']

/-! ### Paths -/

theorem escapePath_of_special {c : Char} (hc : c = '\\' ∨ c = '\'') (path : List Char) :
    escapePath (c :: path) = '\\' :: c :: escapePath path := by
  unfold escapePath
  rw [List.flatMap_cons, if_pos (by simpa using hc)]
  rfl

theorem escapePath_of_plain {c : Char} (hc : ¬(c = '\\' ∨ c = '\'')) (path : List Char) :
    escapePath (c :: path) = c :: escapePath path := by
  unfold escapePath
  rw [List.flatMap_cons, if_neg (by simpa using hc)]
  rfl

/-- A path in front of a quote is a literal that stands for it. -/
theorem literal_escapePath (hfeed : '\n' ∉ path) (hreturn : '\r' ∉ path) (rest : List Char) :
    Literal (escapePath path ++ '\'' :: rest) path rest := by
  induction path with
  | nil => exact .close rest
  | cons c path ih =>
    rw [List.mem_cons, not_or] at hfeed hreturn
    have htail := ih hfeed.2 hreturn.2
    by_cases hc : c = '\\' ∨ c = '\''
    · rw [escapePath_of_special hc]
      exact .escaped hc htail
    · rw [escapePath_of_plain hc]
      rw [not_or] at hc
      exact .plain (by simp [hc, Ne.symm hfeed.1, Ne.symm hreturn.1]) htail

/-- A path does not start with a quote, and an empty one is not followed by two. -/
theorem opens_escapePath (hs : ∀ c ∈ s.getLast?, c.isAlphanum = false)
    (hrest : '\'' ∉ rest.head?) (path : List Char) : Opens s (escapePath path ++ '\'' :: rest) := by
  refine ⟨hs, fun hquotes => ?_⟩
  cases path with
  | nil =>
    obtain ⟨tail, htail⟩ := hquotes
    cases htail
    exact hrest rfl
  | cons c path =>
    by_cases hc : c = '\\' ∨ c = '\''
    · rw [escapePath_of_special hc] at hquotes
      simp at hquotes
    · rw [escapePath_of_plain hc] at hquotes
      simp only [List.cons_append, List.cons_prefix_cons] at hquotes
      exact hc (.inr hquotes.1.symm)

/-- A backslash or a quote in the path counts twice. -/
theorem utf8ByteSize_escapePath (path : List Char) :
    (String.ofList (escapePath path)).utf8ByteSize =
      (String.ofList path).utf8ByteSize + path.count '\\' + path.count '\'' := by
  induction path with
  | nil => rfl
  | cons c path ih =>
    by_cases hc : c = '\\' ∨ c = '\''
    · rw [escapePath_of_special hc]
      simp only [String.ofList_cons, String.utf8ByteSize_append, String.utf8ByteSize_singleton, ih]
      have hsize : '\\'.utf8Size = 1 ∧ '\''.utf8Size = 1 := by decide
      obtain rfl | rfl := hc
      · rw [List.count_cons_self, List.count_cons_of_ne (by decide)]
        omega
      · rw [List.count_cons_of_ne (by decide), List.count_cons_self]
        omega
    · rw [escapePath_of_plain hc, String.ofList_cons, String.ofList_cons,
        String.utf8ByteSize_append, String.utf8ByteSize_append, ih]
      rw [not_or] at hc
      rw [List.count_cons_of_ne hc.1, List.count_cons_of_ne hc.2]
      omega

/-! ### Statements -/

/-- The bytes of a path in which a backslash or a quote counts twice. -/
def quotedSize (path : String) : Nat :=
  path.utf8ByteSize + path.toList.count '\\' + path.toList.count '\''

/-- The parts of the statement for a script file. -/
def statementParts (path : List Char) : List Part :=
  [.code "exec(compile(open(".toList, .literal path, .code ").read(), ".toList, .literal path,
    .code ", ".toList, .literal "exec".toList, .code "))".toList]

theorem fileStatement_eq (path : String) : fileStatement path =
    if maxPathBytes ≤ quotedSize path then .error (.pathTooLong path)
    else .ok (openText ++ String.ofList (escapePath path.toList) ++ "').read(), '" ++
      String.ofList (escapePath path.toList) ++ "', 'exec'))") := by
  unfold fileStatement
  dsimp only
  rw [utf8ByteSize_escapePath, String.ofList_toList, quotedSize]

theorem fileStatement_eq_error_iff (path : String) :
    fileStatement path = .error (.pathTooLong path) ↔ maxPathBytes ≤ quotedSize path := by
  rw [fileStatement_eq]
  split <;> simp [*]

/-- The statement for a path has the parts that every such statement has. -/
theorem source_statement (hfeed : '\n' ∉ path) (hreturn : '\r' ∉ path) :
    Source (openText ++ String.ofList (escapePath path) ++ "').read(), '" ++
      String.ofList (escapePath path) ++ "', 'exec'))").toList (statementParts path) := by
  have htext : (openText ++ String.ofList (escapePath path) ++ "').read(), '" ++
      String.ofList (escapePath path) ++ "', 'exec'))").toList =
      "exec(compile(open(".toList ++ '\'' :: (escapePath path ++ '\'' ::
        (").read(), ".toList ++ '\'' :: (escapePath path ++ '\'' ::
          (", ".toList ++ '\'' :: (escapePath "exec".toList ++ '\'' :: "))".toList))))) := by
    simp [openText]
    rfl
  rw [htext]
  have hpath := literal_escapePath hfeed hreturn
  have hexec (rest : List Char) : Literal (escapePath "exec".toList ++ '\'' :: rest) "exec".toList
      rest := literal_escapePath (by decide) (by decide) rest
  have hend : Source "))".toList [.code "))".toList] := .code (by decide)
  have hmode : Source (", ".toList ++ '\'' :: (escapePath "exec".toList ++ '\'' :: "))".toList))
      [.code ", ".toList, .literal "exec".toList, .code "))".toList] :=
    .literal (by decide) (opens_escapePath (by simp) (by decide) _) (hexec _) hend
  have hname := Source.literal (s := ").read(), ".toList) (by decide)
    (opens_escapePath (by simp) (by simp) path) (hpath _) hmode
  exact .literal (by decide) (opens_escapePath (by simp) (by simp) path) (hpath _) hname

end Command

/-! ### Commands -/

namespace Session

variable {engine : Engine} {b : Bridge} {path : String}

/-- Nothing runs for a path that is refused, and nothing changes. -/
theorem runFile_of_refused (h : Command.fileStatement path = .error (.pathTooLong path))
    (range : Option (Int64 × Int64)) :
    runFile engine path range b = .error (.error (.pathTooLong path)) b := by
  have hne : ¬path.isEmpty := by
    intro hempty
    rw [String.isEmpty_iff.mp hempty] at h
    cases h
  unfold runFile
  rw [if_neg hne, h]
  rfl

/-- Lines are looked up without a change. -/
theorem resolve_looks (r : Command.LineRange) (b : Bridge) :
    (∃ lines, resolve r b = .ok lines b) ∨ ∃ e, resolve r b = .error (.error e) b := by
  by_cases hloan : b.loan = .exclusive
  · refine .inr ⟨busy, ?_⟩
    unfold resolve
    rw [bind_apply, get_apply]
    dsimp only
    rw [if_pos hloan]
    rfl
  · rw [resolve_apply hloan]
    cases r.resolve b.editor with
    | ok lines => exact .inl ⟨_, rfl⟩
    | error e => exact .inr ⟨_, rfl⟩

theorem lines_look (range : Option Command.LineRange) (b : Bridge) :
    (∃ lines, (range.mapM resolve) b = .ok lines b) ∨
      ∃ e, (range.mapM resolve) b = .error (.error e) b := by
  cases range with
  | none => exact .inl ⟨none, rfl⟩
  | some r =>
    change (∃ lines, (some <$> resolve r) b = _) ∨ ∃ e, (some <$> resolve r) b = _
    rw [map_eq_pure_bind, bind_apply]
    obtain ⟨lines, h⟩ | ⟨e, h⟩ := resolve_looks r b
    · rw [h]
      exact .inl ⟨_, rfl⟩
    · rw [h]
      exact .inr ⟨e, rfl⟩

/-- A command for a script file whose path is refused fails, if not already because its lines are
not there, and it changes nothing. -/
theorem runInput_of_refused {input : Command.Input} (hkind : input.line.kind = .file)
    (h : Command.fileStatement input.line.arg = .error (.pathTooLong input.line.arg)) :
    ∃ e, runInput engine input b = .error (.error e) b ∧
      ((∃ lines, (input.line.range.mapM resolve) b = .ok lines b) →
        e = .pathTooLong input.line.arg) := by
  unfold runInput
  dsimp only
  rw [bind_apply]
  obtain ⟨lines, hlines⟩ | ⟨e, hlines⟩ := lines_look input.line.range b
  · rw [hlines, hkind]
    exact ⟨_, runFile_of_refused h lines, fun _ => rfl⟩
  · rw [hlines]
    exact ⟨e, rfl, nofun⟩

/-- What comes of a path that is refused: each way to run the script file fails, and changes
nothing. -/
structure RunsNothing (engine : Engine) (path : String) (b : Bridge) : Prop where
  file : ∀ range, runFile engine path range b = .error (.error (.pathTooLong path)) b
  /-- A command with a range fails earlier if the lines are not there. -/
  input : ∀ input : Command.Input, input.line.kind = .file → input.line.arg = path →
    ∃ e, runInput engine input b = .error (.error e) b ∧
      ((∃ lines, (input.line.range.mapM resolve) b = .ok lines b) → e = .pathTooLong path)
  command : ∀ text line, Command.Line.parse text = .ok line → line.kind = .file → line.arg = path →
    ∃ e, exCommand engine text b = .error (.error e) b

theorem runsNothing_of_refused (h : Command.fileStatement path = .error (.pathTooLong path)) :
    RunsNothing engine path b where
  file := runFile_of_refused h
  input := by
    rintro input hkind rfl
    exact runInput_of_refused hkind h
  command := by
    rintro text line hline hkind rfl
    rw [exCommand_of_line hline]
    obtain ⟨e, he, -⟩ := @runInput_of_refused engine b (.ofLine line) hkind h
    exact ⟨e, he⟩

/-- A path without line ends is refused if it is too long with the backslashes that a literal needs,
and then nothing runs. Otherwise it gives a statement in which it stands as two literals, and which
has no part but those that every such statement has. -/
theorem path_stays_quoted {path : String} (hfeed : '\n' ∉ path.toList)
    (hreturn : '\r' ∉ path.toList) :
    (Command.fileStatement path = .error (.pathTooLong path) ↔ 1024 ≤ Command.quotedSize path) ∧
      (Command.fileStatement path = .error (.pathTooLong path) →
        ∀ engine b, RunsNothing engine path b) ∧
      (Command.fileStatement path ≠ .error (.pathTooLong path) →
        ∃ code, Command.fileStatement path = .ok code ∧
          ∀ parts, Command.Source code.toList parts ↔
            parts = Command.statementParts path.toList) := by
  have hrefused := Command.fileStatement_eq_error_iff path
  refine ⟨hrefused, fun h engine b => runsNothing_of_refused h, fun h => ?_⟩
  have hstatement := Command.fileStatement_eq path
  rw [if_neg fun hsize => h (hrefused.mpr hsize)] at hstatement
  have hsource := Command.source_statement hfeed hreturn
  refine ⟨_, hstatement, fun parts => ⟨fun hparts => hparts.unique hsource, ?_⟩⟩
  rintro rfl
  exact hsource

/-- A path that ends with a backslash and a quote ends there. -/
theorem path_stays_quoted_backslash :
    '\n' ∉ "a'\\'".toList ∧ '\r' ∉ "a'\\'".toList ∧
      ∃ code, Command.fileStatement "a'\\'" = .ok code ∧
        ∀ parts, Command.Source code.toList parts ↔
          parts = Command.statementParts "a'\\'".toList :=
  ⟨by decide, by decide, (path_stays_quoted (by decide) (by decide)).2.2 (by decide)⟩

end Session

end ScriptBridge
