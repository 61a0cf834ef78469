import ScriptBridge.Config.Arguments

/-!
# Spelling command lines

What a command line asks for can be spelled in many ways: options, commands and files stand in any
order, and a value may look like a flag. Reading a command line gives back what it spells. One that
ends where a flag still waits for its value is refused.
-/

namespace ScriptBridge.Config

/-! ### Command lines -/

/-- A command line, and what it spells. The rc file, the library, the home directory and the
single-call mode are given once at most. -/
inductive Spells : List String → Arguments → Prop
  | done : Spells [] {}
  | files (files : List String) : Spells ("--" :: files) { files }
  | noRc {argv : List String} {a : Arguments} (hrc : a.rc = .search) (h : Spells argv a) :
      Spells ("-u" :: "NONE" :: argv) { a with rc := .skip }
  | rc {path : String} {argv : List String} {a : Arguments} (hpath : path ≠ "NONE")
      (hrc : a.rc = .search) (h : Spells argv a) :
      Spells ("-u" :: path :: argv) { a with rc := .file path }
  | library {name : String} {argv : List String} {a : Arguments} (hlibrary : a.library = none)
      (h : Spells argv a) : Spells ("--dll" :: name :: argv) { a with library := some name }
  | home {path : String} {argv : List String} {a : Arguments} (hhome : a.home = none)
      (h : Spells argv a) : Spells ("--home" :: path :: argv) { a with home := some path }
  | single {argv : List String} {a : Arguments} (hsingle : a.single = false) (h : Spells argv a) :
      Spells ("--single" :: argv) { a with single := true }
  | command {command : String} {argv : List String} {a : Arguments} (h : Spells argv a) :
      Spells ("-c" :: command :: argv) { a with commands := command :: a.commands }
  | glued {command : String} {argv : List String} {a : Arguments} (hcommand : command ≠ "")
      (h : Spells argv a) :
      Spells (("-c" ++ command) :: argv) { a with commands := command :: a.commands }
  | file {file : String} {argv : List String} {a : Arguments}
      (hfile : file = "-" ∨ file.toList.head? ≠ some '-') (h : Spells argv a) :
      Spells (file :: argv) { a with files := file :: a.files }

/-- A command line whose last argument is a flag that still waits for its value. -/
inductive Pending : List String → Prop
  | last {flag : String} (hflag : flag ∈ Arguments.valueFlags) : Pending [flag]
  | value {flag value : String} {argv : List String} (hflag : flag ∈ Arguments.valueFlags)
      (h : Pending argv) : Pending (flag :: value :: argv)
  | other {arg : String} {argv : List String} (harg : arg ∉ Arguments.valueFlags)
      (hend : arg ≠ "--") (h : Pending argv) : Pending (arg :: argv)

namespace Arguments

variable {a : Arguments} {flag arg command file : String} {argv : List String}

/-! ### One argument -/

theorem push_files (b : Arguments) (files : List String) :
    b.push ("--" :: files) = .ok { b with files := b.files ++ files } := by
  rw [push.eq_def b]
  dsimp only
  rw [if_pos rfl]

theorem push_file (hfile : file = "-" ∨ file.toList.head? ≠ some '-') (b : Arguments)
    (argv : List String) :
    b.push (file :: argv) = push { b with files := b.files ++ [file] } argv := by
  have hend : file ≠ "--" := by
    rintro rfl
    exact absurd hfile (by decide)
  rw [push.eq_def b]
  dsimp only
  rw [if_neg hend, if_pos hfile]

/-- A flag is neither a file nor the end of the flags. -/
theorem of_mem_valueFlags (hflag : flag ∈ valueFlags) :
    flag ≠ "--" ∧ ¬(flag = "-" ∨ flag.toList.head? ≠ some '-') := by
  revert flag
  decide

theorem push_value (hflag : flag ∈ valueFlags) (value : String) (b : Arguments)
    (argv : List String) : b.push (flag :: value :: argv) = (b.withValue flag value).push argv := by
  obtain ⟨hend, hfile⟩ := of_mem_valueFlags hflag
  rw [push, if_neg hend, if_neg hfile, if_pos hflag]

theorem push_missing (hflag : flag ∈ valueFlags) (b : Arguments) :
    b.push [flag] = .error (.missingValue flag) := by
  obtain ⟨hend, hfile⟩ := of_mem_valueFlags hflag
  rw [push, if_neg hend, if_neg hfile, if_pos hflag]

theorem push_single (b : Arguments) (argv : List String) :
    b.push ("--single" :: argv) = push { b with single := true } argv := by
  rw [push.eq_def b]
  dsimp only
  rw [if_neg (by decide), if_neg (by decide), if_neg (by decide), if_pos rfl]

/-- A flag with a command glued to it is no other argument: its second character is enough, but for
the flag itself. -/
theorem glued_ne (hcommand : command ≠ "") :
    "-c" ++ command ∉ valueFlags ∧ "-c" ++ command ≠ "--" ∧ "-c" ++ command ≠ "-" ∧
      "-c" ++ command ≠ "--single" := by
  have htext : ("-c" ++ command).toList = '-' :: 'c' :: command.toList := by simp
  have hne {text : String} (h : text.toList[1]? ≠ some 'c') : "-c" ++ command ≠ text := by
    rintro rfl
    simp [htext] at h
  have hbare : "-c" ++ command ≠ "-c" := by simpa using hcommand
  refine ⟨?_, hne (by decide), hne (by decide), hne (by decide)⟩
  simp only [valueFlags, List.mem_cons, List.not_mem_nil, not_or, or_false]
  exact ⟨hne (by decide), hbare, hne (by decide), hne (by decide)⟩

theorem push_glued (hcommand : command ≠ "") (b : Arguments) (argv : List String) :
    b.push (("-c" ++ command) :: argv) = (b.withValue "-c" command).push argv := by
  obtain ⟨hflag, hend, hinput, hsingle⟩ := glued_ne hcommand
  have htext : ("-c" ++ command).toList = '-' :: 'c' :: command.toList := by simp
  have hfile : ¬("-c" ++ command = "-" ∨ ("-c" ++ command).toList.head? ≠ some '-') := by
    simp [htext, hinput]
  rw [push.eq_def b]
  dsimp only
  rw [if_neg hend, if_neg hfile, if_neg hflag, if_neg hsingle]
  simp only [htext, String.ofList_toList]

/-! ### What a whole command line adds -/

/-- What arguments read so far become when those that follow ask for `a`. -/
def followed (b a : Arguments) : Arguments where
  rc := if a.rc = .search then b.rc else a.rc
  library := a.library <|> b.library
  home := a.home <|> b.home
  single := b.single || a.single
  commands := b.commands ++ a.commands
  files := b.files ++ a.files

theorem empty_followed (a : Arguments) : ({} : Arguments).followed a = a := by
  obtain ⟨rc, library, home, single, commands, files⟩ := a
  cases rc <;> simp [followed]

/-- A command line that spells something adds it to what was read before. The value that the first
flag takes is not read again, so one that looks like a flag stays a value. -/
theorem push_of_spells (h : Spells argv a) : ∀ b : Arguments, b.push argv = .ok (b.followed a) := by
  induction h with
  | done => intro b; simp [push, followed]
  | files files => intro b; simp [push_files, followed]
  | noRc hrc h ih =>
    intro b
    rw [push_value (by decide), ih]
    simp [followed, withValue, rcOf, hrc]
  | rc hpath hrc h ih =>
    intro b
    rw [push_value (by decide), ih]
    simp [followed, withValue, rcOf, hrc, hpath]
  | library hlibrary h ih =>
    intro b
    rw [push_value (by decide), ih]
    simp [followed, withValue, hlibrary]
  | home hhome h ih =>
    intro b
    rw [push_value (by decide), ih]
    simp [followed, withValue, hhome]
  | single hsingle h ih =>
    intro b
    rw [push_single, ih]
    simp [followed, hsingle]
  | command h ih =>
    intro b
    rw [push_value (by decide), ih]
    simp [followed, withValue]
  | glued hcommand h ih =>
    intro b
    rw [push_glued hcommand, ih]
    simp [followed, withValue]
  | file hfile h ih =>
    intro b
    rw [push_file hfile, ih]
    simp [followed]

/-! ### Every choice is spelled -/

theorem exists_spells_commands (commands files : List String) :
    ∃ argv, Spells argv { commands, files } := by
  induction commands with
  | nil => exact ⟨_, .files files⟩
  | cons command commands ih =>
    obtain ⟨argv, h⟩ := ih
    exact ⟨_, h.command⟩

theorem exists_spells (hrc : a.rc ≠ .file "NONE") : ∃ argv, Spells argv a := by
  obtain ⟨rc, library, home, single, commands, files⟩ := a
  obtain ⟨argv, h⟩ := exists_spells_commands commands files
  obtain ⟨argv, h⟩ : ∃ argv, Spells argv { single, commands, files } := by
    cases single with
    | false => exact ⟨_, h⟩
    | true => exact ⟨_, h.single rfl⟩
  obtain ⟨argv, h⟩ : ∃ argv, Spells argv { home, single, commands, files } := by
    cases home with
    | none => exact ⟨_, h⟩
    | some path => exact ⟨_, h.home rfl⟩
  obtain ⟨argv, h⟩ : ∃ argv, Spells argv { library, home, single, commands, files } := by
    cases library with
    | none => exact ⟨_, h⟩
    | some name => exact ⟨_, h.library rfl⟩
  cases rc with
  | search => exact ⟨_, h⟩
  | skip => exact ⟨_, h.noRc rfl⟩
  | file path => exact ⟨_, h.rc (fun hpath => hrc (by rw [hpath])) rfl⟩

/-! ### Flags without a value -/

/-- Reading an argument that takes no value goes on with the rest, or refuses it. -/
theorem push_other (harg : arg ∉ valueFlags) (hend : arg ≠ "--") (b : Arguments)
    (argv : List String) :
    (∃ b' : Arguments, b.push (arg :: argv) = b'.push argv) ∨
      b.push (arg :: argv) = .error (.unknownOption arg) := by
  rw [push.eq_def b]
  dsimp only
  rw [if_neg hend]
  split
  · exact .inl ⟨_, rfl⟩
  split
  · exact .inl ⟨_, rfl⟩
  split
  · exact .inl ⟨_, rfl⟩
  · exact .inr rfl

/-- A command line that ends where a flag waits for its value is refused, for that flag or for an
argument before it that is no option. -/
theorem push_of_pending (h : Pending argv) : ∀ b : Arguments,
    (∃ flag, argv.getLast? = some flag ∧ b.push argv = .error (.missingValue flag)) ∨
      ∃ arg ∈ argv, b.push argv = .error (.unknownOption arg) := by
  induction h with
  | @last flag hflag => exact fun b => .inl ⟨flag, rfl, push_missing hflag b⟩
  | @value flag value argv hflag h ih =>
    intro b
    rw [push_value hflag]
    obtain ⟨last, hlast, hpush⟩ | ⟨arg, harg, hpush⟩ := ih (b.withValue flag value)
    · exact .inl ⟨last, by simp [List.getLast?_cons, hlast], hpush⟩
    · exact .inr ⟨arg, by simp [harg], hpush⟩
  | @other arg argv harg hend h ih =>
    intro b
    obtain ⟨b', hb'⟩ | hunknown := push_other harg hend b argv
    · rw [hb']
      obtain ⟨last, hlast, hpush⟩ | ⟨arg', harg', hpush⟩ := ih b'
      · exact .inl ⟨last, by simp [List.getLast?_cons, hlast], hpush⟩
      · exact .inr ⟨arg', by simp [harg'], hpush⟩
    · exact .inr ⟨arg, by simp, hunknown⟩

/-! ### Reading a command line -/

/-- A command line is read as what it spells, whatever the order of its options, commands and files,
and whatever their values look like. Every choice is spelled by some command line, but for an rc
file of the name that asks for none. A command line that ends where a flag waits for its value is
refused, for that flag or for an argument before it that is no option. -/
theorem parse_spelled :
    (∀ argv a, Spells argv a → parse argv = .ok a) ∧
    (∀ a, a.rc ≠ .file "NONE" → ∃ argv, Spells argv a) ∧
    ∀ argv, Pending argv →
      (∃ flag, argv.getLast? = some flag ∧ parse argv = .error (.missingValue flag)) ∨
        ∃ arg ∈ argv, parse argv = .error (.unknownOption arg) := by
  refine ⟨fun argv a h => ?_, fun a => exists_spells, fun argv h => push_of_pending h {}⟩
  rw [parse, push_of_spells h, empty_followed]

/-- Values and commands that look like flags stay what they are, and a flag at the end that was not
taken as a value is refused. -/
theorem parse_spelled_flags :
    parse ["-u", "--", "a.txt", "-c", "-c", "--dll", "--single", "-c--", "-", "--single", "--",
        "-x", "--"] =
      .ok { rc := .file "--", library := some "--single", single := true,
            commands := ["-c", "--"], files := ["a.txt", "-", "-x", "--"] } ∧
    (∃ argv, Spells argv { rc := .skip, home := some "-c" }) ∧
    ∃ error, parse ["--home", "-u", "a.txt", "-u"] = .error error := by
  obtain ⟨hspells, hexists, hpending⟩ := parse_spelled
  refine ⟨hspells _ _ ?_, hexists _ (by decide), ?_⟩
  · have hglued : "-c--" = "-c" ++ "--" := by decide
    rw [hglued]
    exact .rc (by decide) rfl <| .file (by decide) <| .command <| .library rfl <|
      .glued (by decide) <| .file (by decide) <| .single rfl <| .files ["-x", "--"]
  · have h : Pending ["--home", "-u", "a.txt", "-u"] :=
      .value (by decide) <| .other (by decide) (by decide) <| .last (by decide)
    obtain ⟨flag, -, hpush⟩ | ⟨arg, -, hpush⟩ := hpending _ h
    · exact ⟨_, hpush⟩
    · exact ⟨_, hpush⟩

end Arguments

end ScriptBridge.Config
