import ScriptBridge.Config.Options
import ScriptBridge.Proofs.Text.Front

/-!
# What an rc line says

An rc line says nothing if it is blank or a comment. Otherwise it asks for a setting, or is refused.
What it says does not depend on the options that it meets: applying it is applying the setting for
which it asks, and a refused line leaves the options alone.
-/

namespace ScriptBridge.Config

open Text (Front isBlank trimBlanks)

/-! ### Settings -/

/-- An option with the value to which it is set. -/
inductive Setting where
  | library (name : String)
  | home (path : Option String)
  | handoff (mode : HandoffMode)
  | siblings (names : List String)

/-- The options with one of them set. -/
def Options.assign (o : Options) : Setting → Options
  | .library name => { o with library := name }
  | .home path => { o with home := path }
  | .handoff mode => { o with handoff := mode }
  | .siblings names => { o with siblings := names }

/-- The names under which options are set. -/
def optionNames : List String := ["library", "pythondll", "pythonhome", "handoff", "siblings"]

/-- What a name and a value ask for: a setting, or something that is refused. -/
inductive Setting.Asked : String → String → Except Refusal Setting → Prop
  | library {name value : String} (hname : name ∈ ["library", "pythondll"]) (hvalue : value ≠ "") :
      Asked name value (.ok (.library value))
  | noLibrary {name : String} (hname : name ∈ ["library", "pythondll"]) :
      Asked name "" (.error .emptyLibrary)
  | home {value : String} (hvalue : value ≠ "") :
      Asked "pythonhome" value (.ok (.home (some value)))
  | noHome : Asked "pythonhome" "" (.ok (.home none))
  | handoff {value : String} {mode : HandoffMode} (hmode : HandoffMode.ofName? value = some mode) :
      Asked "handoff" value (.ok (.handoff mode))
  | noMode {value : String} (hmode : HandoffMode.ofName? value = none) :
      Asked "handoff" value (.error (.unknownMode value))
  | siblings (value : String) : Asked "siblings" value (.ok (.siblings (splitNames value)))
  | unknown {name : String} (hname : name ∉ optionNames) (value : String) :
      Asked name value (.error (.unknownOption name))

/-- Every name and value ask for something. -/
theorem Setting.exists_asked (name value : String) : ∃ r, Setting.Asked name value r := by
  by_cases hname : name ∈ optionNames
  · simp only [optionNames, List.mem_cons, List.not_mem_nil, or_false] at hname
    by_cases hvalue : value = ""
    · subst hvalue
      obtain rfl | rfl | rfl | rfl | rfl := hname
      · exact ⟨_, .noLibrary (by simp)⟩
      · exact ⟨_, .noLibrary (by simp)⟩
      · exact ⟨_, .noHome⟩
      · exact ⟨_, .noMode rfl⟩
      · exact ⟨_, .siblings ""⟩
    · obtain rfl | rfl | rfl | rfl | rfl := hname
      · exact ⟨_, .library (by simp) hvalue⟩
      · exact ⟨_, .library (by simp) hvalue⟩
      · exact ⟨_, .home hvalue⟩
      · cases hmode : HandoffMode.ofName? value with
        | some mode => exact ⟨_, .handoff hmode⟩
        | none => exact ⟨_, .noMode hmode⟩
      · exact ⟨_, .siblings value⟩
  · exact ⟨_, .unknown hname value⟩

/-- Setting an option by its name does what the name and the value ask for. -/
theorem Setting.Asked.set_eq {name value : String} {r : Except Refusal Setting}
    (h : Setting.Asked name value r) (o : Options) : o.set name value = r.map o.assign := by
  cases h with
  | library hname hvalue =>
    simp only [List.mem_cons, List.not_mem_nil, or_false] at hname
    obtain rfl | rfl := hname <;> simp [Options.set, hvalue] <;> rfl
  | noLibrary hname =>
    simp only [List.mem_cons, List.not_mem_nil, or_false] at hname
    obtain rfl | rfl := hname <;> rfl
  | home hvalue => simp [Options.set, hvalue]; rfl
  | noHome => rfl
  | handoff hmode => simp [Options.set, hmode]; rfl
  | noMode hmode => simp [Options.set, hmode]; rfl
  | siblings => rfl
  | unknown hname =>
    simp only [optionNames, List.mem_cons, List.not_mem_nil, or_false, not_or] at hname
    obtain ⟨hlibrary, hdll, hhome, hhandoff, hsiblings⟩ := hname
    unfold Options.set
    split
    · exact absurd rfl hlibrary
    · exact absurd rfl hdll
    · exact absurd rfl hhome
    · exact absurd rfl hhandoff
    · exact absurd rfl hsiblings
    · rfl

/-! ### Assignments -/

/-- A text is divided at the first character of a kind, which belongs to neither part; a text
without such a character is all front. -/
inductive Divided (p : Char → Bool) : List Char → List Char → List Char → Prop
  | whole {s : List Char} (hs : ∀ c ∈ s, p c = false) : Divided p s s []
  | parts {front rest : List Char} {c : Char} (hfront : ∀ c ∈ front, p c = false)
      (hc : p c = true) : Divided p (front ++ c :: rest) front rest

/-- The name and the value of an assignment, without blanks around them. If there is an equals sign
in the text, the first one stands between them, whatever else there is; else it is the first
separator. -/
inductive Assigns : List Char → List Char → List Char → Prop
  | equals {before after : List Char} (hbefore : '=' ∉ before) :
      Assigns (before ++ '=' :: after) (trimBlanks before) (trimBlanks after)
  | spaced {arg name after : List Char} (harg : '=' ∉ arg)
      (hname : Divided isSeparator arg name after) : Assigns arg name (trimBlanks after)

variable {p : Char → Bool} {s front rest arg name value line : List Char}

theorem Divided.exists (p : Char → Bool) (s : List Char) :
    ∃ front rest, Divided p s front rest := by
  have h := Front.split (fun c => !p c) s
  cases hrest : s.dropWhile fun c => !p c with
  | nil =>
    rw [hrest] at h
    have hs := h.text_eq
    rw [List.append_nil] at hs
    refine ⟨s, [], .whole fun c hc => ?_⟩
    simpa using h.all_front c (hs ▸ hc)
  | cons c rest =>
    rw [hrest] at h
    rw [h.text_eq]
    refine ⟨_, rest, .parts (fun c hc => ?_) ?_⟩
    · simpa using h.all_front c hc
    · simpa using h.rest_stops c rfl

theorem splitFirst_whole (hs : ∀ c ∈ s, p c = false) : splitFirst p s = (s, none) := by
  have h : s.dropWhile (fun c => !p c) = [] :=
    List.dropWhile_eq_nil_iff.mpr fun c hc => by simp [hs c hc]
  unfold splitFirst
  rw [h]

theorem splitFirst_parts {c : Char} (hfront : ∀ c ∈ front, p c = false) (hc : p c = true) :
    splitFirst p (front ++ c :: rest) = (front, some rest) := by
  have h : Front (fun c => !p c) (front ++ c :: rest) front (c :: rest) :=
    ⟨rfl, fun c hc => by simp [hfront c hc], by simp [hc]⟩
  unfold splitFirst
  rw [h.dropWhile_eq, h.takeWhile_eq]

/-- A text is split where it is divided. -/
theorem Divided.splitFirst_eq (h : Divided p s front rest) :
    (splitFirst p s).1 = front ∧ (splitFirst p s).2.getD [] = rest := by
  cases h with
  | whole hs => rw [splitFirst_whole hs]; exact ⟨rfl, rfl⟩
  | parts hfront hc => rw [splitFirst_parts hfront hc]; exact ⟨rfl, rfl⟩

theorem Assigns.exists (arg : List Char) : ∃ name value, Assigns arg name value := by
  by_cases harg : '=' ∈ arg
  · obtain ⟨before, after, rfl, hbefore⟩ := List.eq_append_cons_of_mem harg
    exact ⟨_, _, .equals hbefore⟩
  · obtain ⟨name, after, hname⟩ := Divided.exists isSeparator arg
    exact ⟨_, _, .spaced harg hname⟩

/-- An assignment is split into its name and its value. It must have a name. -/
theorem Assigns.splitAssignment_eq (h : Assigns arg name value) :
    splitAssignment arg = if name.isEmpty then .error .missingName
      else .ok (String.ofList name, String.ofList value) := by
  have hunequal {s : List Char} (hs : '=' ∉ s) : ∀ c ∈ s, decide (c = '=') = false :=
    fun c hc => decide_eq_false fun heq => hs (heq ▸ hc)
  unfold splitAssignment
  cases h with
  | equals hbefore => rw [splitFirst_parts (hunequal hbefore) (by simp)]
  | spaced harg hname =>
    rw [splitFirst_whole (hunequal harg)]
    dsimp only
    rw [hname.splitFirst_eq.1, hname.splitFirst_eq.2]

/-! ### Lines -/

/-- A line that says nothing: it is blank, or a comment. -/
def Idle (line : List Char) : Prop :=
  trimBlanks line = [] ∨ ∃ c ∈ (trimBlanks line).head?, c = '"' ∨ c = '#'

instance (line : List Char) : Decidable (Idle line) :=
  @instDecidableOr _ _ inferInstance (Option.decidableExistsMem _)

/-- What a line says, if it says something: a setting, or something that is refused. -/
abbrev Said := Option (Except Refusal Setting)

/-- What an rc line says. Its first word, up to a separator, is a directive, and what follows it is
the assignment. -/
inductive Says : List Char → Said → Prop
  | idle {line : List Char} (h : Idle line) : Says line none
  | unknown {line word rest : List Char} (hbusy : ¬Idle line)
      (hword : Divided isSeparator (trimBlanks line) word rest)
      (hset : String.ofList word ∉ ["set", "se"]) :
      Says line (some (.error (.unknownDirective (String.ofList word))))
  | unnamed {line word rest value : List Char} (hbusy : ¬Idle line)
      (hword : Divided isSeparator (trimBlanks line) word rest)
      (hset : String.ofList word ∈ ["set", "se"]) (hrest : Assigns (trimBlanks rest) [] value) :
      Says line (some (.error .missingName))
  | set {line word rest name value : List Char} {r : Except Refusal Setting} (hbusy : ¬Idle line)
      (hword : Divided isSeparator (trimBlanks line) word rest)
      (hset : String.ofList word ∈ ["set", "se"]) (hrest : Assigns (trimBlanks rest) name value)
      (hname : name ≠ []) (hasked : Setting.Asked (String.ofList name) (String.ofList value) r) :
      Says line (some r)

/-- Every line says something or nothing. -/
theorem Says.exists (line : List Char) : ∃ m, Says line m := by
  by_cases hidle : Idle line
  · exact ⟨none, .idle hidle⟩
  obtain ⟨word, rest, hword⟩ := Divided.exists isSeparator (trimBlanks line)
  by_cases hset : String.ofList word ∈ ["set", "se"]
  · obtain ⟨name, value, hrest⟩ := Assigns.exists (trimBlanks rest)
    by_cases hname : name = []
    · subst hname
      exact ⟨_, .unnamed hidle hword hset hrest⟩
    · obtain ⟨r, hasked⟩ := Setting.exists_asked (String.ofList name) (String.ofList value)
      exact ⟨_, .set hidle hword hset hrest hname hasked⟩
  · exact ⟨_, .unknown hidle hword hset⟩

theorem applyLine_of_idle (h : Idle line) (o : Options) : o.applyLine line = .ok o := by
  unfold Options.applyLine
  obtain h | ⟨c, hhead, hc⟩ := h
  · rw [h]
  · obtain ⟨rest, htext⟩ : ∃ rest, trimBlanks line = c :: rest := by
      cases htext : trimBlanks line with
      | nil => simp [htext] at hhead
      | cons d rest =>
        rw [htext] at hhead
        cases hhead
        exact ⟨rest, rfl⟩
    rw [htext]
    obtain rfl | rfl := hc <;> rfl

theorem applyLine_of_busy (h : ¬Idle line) (o : Options) : o.applyLine line =
    if String.ofList (splitFirst isSeparator (trimBlanks line)).1 ∈ ["set", "se"] then
      splitAssignment (trimBlanks ((splitFirst isSeparator (trimBlanks line)).2.getD [])) >>=
        fun p => o.set p.1 p.2
    else
      .error (.unknownDirective (String.ofList (splitFirst isSeparator (trimBlanks line)).1)) := by
  unfold Options.applyLine
  unfold Idle at h
  split
  · rename_i htext
    exact absurd (.inl htext) h
  · rename_i htext
    exact absurd (.inr ⟨'"', by simp [htext], .inl rfl⟩) h
  · rename_i htext
    exact absurd (.inr ⟨'#', by simp [htext], .inr rfl⟩) h
  · simp only [List.mem_cons, List.not_mem_nil, or_false]

/-- The options after something was said. -/
def Options.heed (o : Options) : Said → Except Refusal Options
  | none => .ok o
  | some r => r.map o.assign

/-- A line does what it says. -/
theorem Says.applyLine_eq {m : Said} (h : Says line m) (o : Options) :
    o.applyLine line = o.heed m := by
  cases h with
  | idle h => exact applyLine_of_idle h o
  | unknown hbusy hword hset =>
    rw [applyLine_of_busy hbusy, hword.splitFirst_eq.1, if_neg hset]
    rfl
  | unnamed hbusy hword hset hrest =>
    rw [applyLine_of_busy hbusy, hword.splitFirst_eq.1, hword.splitFirst_eq.2, if_pos hset,
      hrest.splitAssignment_eq]
    rfl
  | set hbusy hword hset hrest hname hasked =>
    rw [applyLine_of_busy hbusy, hword.splitFirst_eq.1, hword.splitFirst_eq.2, if_pos hset,
      hrest.splitAssignment_eq, if_neg (by simpa using hname)]
    exact hasked.set_eq o

end ScriptBridge.Config
