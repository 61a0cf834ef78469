import Mathlib.Data.List.Forall2
import Mathlib.Data.List.Infix
import ScriptBridge.Config.Arguments
import ScriptBridge.Proofs.Config.Lines
import ScriptBridge.Proofs.Text.Lines

/-!
# Where the options come from

Options are set by the lines of an rc text, by environment variables and by command-line flags, in
this order. An option ends up with the value to which it was last set, or with its default value.
What is refused sets nothing and is reported once, so the options are the same without it.
-/

namespace ScriptBridge.Config

open Text (isBlank trimBlanks)

/-! ### What is said -/

/-- The setting for which something asks. -/
def Said.setting? : Said → Option Setting
  | some (.ok s) => some s
  | _ => none

/-- Why something is refused. -/
def Said.refusal? : Said → Option Refusal
  | some (.error reason) => some reason
  | _ => none

/-- The settings for which a sequence asks, from first to last. -/
def settings (said : List Said) : List Setting := said.filterMap Said.setting?

/-- What a variable of the environment says about the option that it sets. -/
inductive VariableSays (value? : String → Option String) : String × String → Said → Prop
  | unset {key name : String} (h : value? key = none) : VariableSays value? (key, name) none
  | set {key name value : String} {r : Except Refusal Setting} (h : value? key = some value)
      (hasked : Setting.Asked name value r) : VariableSays value? (key, name) (some r)

/-- The settings for which the flags of a command line ask. -/
def Arguments.settings (a : Arguments) : List Setting :=
  a.library.toList.map .library ++ a.home.toList.map (fun path => .home (some path)) ++
    if a.single then [.handoff .singleCall] else []

/-- The reports of what is refused in a sequence, each with its place. -/
def reports (places : List Place) (said : List Said) : List Report :=
  (places.zip said).filterMap fun p => p.2.refusal?.map (⟨p.1, ·⟩)

/-- The places of `count` lines, of which `n` is the number of the first one. -/
def linePlaces (n count : Nat) : List Place := (List.range' n count).map .line

variable {o : Options} {n : Nat} {line : List Char} {lines : List (List Char)} {said : List Said}
  {value? : String → Option String} {keys : List (String × String)}

/-! ### What is done -/

/-- Rc lines set what they ask for in their order, and each refused line is reported with its
number. -/
theorem applyLines_eq (h : List.Forall₂ Says lines said) (o : Options) (n : Nat) :
    o.applyLines n lines =
      ((settings said).foldl Options.assign o, reports (linePlaces n lines.length) said) := by
  induction h generalizing o n with
  | nil => rfl
  | @cons line m lines said hline _ ih =>
    unfold Options.applyLines
    rw [hline.applyLine_eq]
    obtain _ | reason | s := m
    · exact ih o (n + 1)
    · dsimp only [Options.heed, Except.map]
      rw [ih o (n + 1)]
      rfl
    · exact ih (o.assign s) (n + 1)

/-- Environment variables set what they ask for in their order, and each refused one is reported
with its name. -/
theorem applyVariables_eq (h : List.Forall₂ (VariableSays value?) keys said) (o : Options) :
    o.applyVariables value? keys =
      ((settings said).foldl Options.assign o,
        reports (keys.map fun v => .environment v.1) said) := by
  induction h generalizing o with
  | nil => rfl
  | @cons v m keys said hsays _ ih =>
    unfold Options.applyVariables
    cases hsays with
    | unset h =>
      rw [h]
      exact ih o
    | @set key name value r h hasked =>
      rw [h]
      dsimp only
      rw [hasked.set_eq]
      cases r with
      | ok s => exact ih (o.assign s)
      | error reason =>
        dsimp only [Except.map]
        rw [ih o]
        rfl

/-- Flags are settings that come last. -/
theorem apply_eq (a : Arguments) (o : Options) :
    a.apply o = a.settings.foldl Options.assign o := by
  obtain ⟨rc, library, home, single, commands, files⟩ := a
  cases library <;> cases home <;> cases single <;> rfl

/-! ### The last setting -/

/-- The value that the last of some settings gives to an option, or else another value. -/
def lastValue {α : Type} (value? : Setting → Option α) (other : α) (l : List Setting) : α :=
  (l.filterMap value?).getLast?.getD other

/-- The library to which a setting sets the option for it; likewise for the other options. -/
def Setting.library? : Setting → Option String
  | .library name => some name
  | _ => none

def Setting.home? : Setting → Option (Option String)
  | .home path => some path
  | _ => none

def Setting.handoff? : Setting → Option HandoffMode
  | .handoff mode => some mode
  | _ => none

def Setting.siblings? : Setting → Option (List String)
  | .siblings names => some names
  | _ => none

/-- A part of the options that settings of one sort replace, and the others leave, has the value of
the last setting of this sort. -/
theorem foldl_assign_eq {α : Type} {part : Options → α} {value? : Setting → Option α}
    (h : ∀ o s, part (o.assign s) = (value? s).getD (part o)) (o : Options) (l : List Setting) :
    part (l.foldl Options.assign o) = lastValue value? (part o) l := by
  induction l generalizing o with
  | nil => rfl
  | cons s l ih =>
    rw [List.foldl_cons, ih, h, lastValue, lastValue]
    cases hs : value? s with
    | none => rw [List.filterMap_cons_none hs]; rfl
    | some x => rw [List.filterMap_cons_some hs, List.getLast?_cons]; rfl

/-- Each option has the value to which it was last set, or else its default value. -/
structure LastSet (l : List Setting) (o : Options) : Prop where
  library : o.library = lastValue Setting.library? ({} : Options).library l
  home : o.home = lastValue Setting.home? ({} : Options).home l
  handoff : o.handoff = lastValue Setting.handoff? ({} : Options).handoff l
  siblings : o.siblings = lastValue Setting.siblings? ({} : Options).siblings l

theorem lastSet_foldl (l : List Setting) : LastSet l (l.foldl Options.assign {}) where
  library := foldl_assign_eq (fun _ s => by cases s <;> rfl) {} l
  home := foldl_assign_eq (fun _ s => by cases s <;> rfl) {} l
  handoff := foldl_assign_eq (fun _ s => by cases s <;> rfl) {} l
  siblings := foldl_assign_eq (fun _ s => by cases s <;> rfl) {} l

/-! ### Reports -/

/-- The reports of what is refused in a sequence whose members have places: one for each, in their
order. -/
structure Reported (places : List Place) (said : List Said) (l : List Report) : Prop where
  mem_iff : ∀ place reason, ⟨place, reason⟩ ∈ l ↔
    ∃ i : Nat, places[i]? = some place ∧ said[i]? = some (some (.error reason))
  once : (l.map Report.place).Nodup
  in_order : (l.map Report.place).Sublist places

theorem map_place_reports (places : List Place) (said : List Said) :
    ((reports places said).map Report.place).Sublist places := by
  induction places generalizing said with
  | nil => exact List.Sublist.refl []
  | cons place places ih =>
    cases said with
    | nil => exact List.nil_sublist _
    | cons m said =>
      obtain _ | reason | s := m
      · exact (ih said).cons place
      · exact (ih said).cons_cons place
      · exact (ih said).cons place

theorem Said.refusal?_eq_some_iff {m : Said} {reason : Refusal} :
    m.refusal? = some reason ↔ m = some (.error reason) := by
  obtain _ | reason' | s := m
  · exact ⟨nofun, nofun⟩
  · exact ⟨fun h => by cases h; rfl, fun h => by cases h; rfl⟩
  · exact ⟨nofun, nofun⟩

theorem reported_reports {places : List Place} (hplaces : places.Nodup) (said : List Said) :
    Reported places said (reports places said) where
  mem_iff place reason := by
    unfold reports
    rw [List.mem_filterMap]
    constructor
    · rintro ⟨⟨place', m⟩, hmem, hreport⟩
      obtain ⟨i, hi⟩ := List.mem_iff_getElem?.mp hmem
      obtain ⟨reason', hreason, heq⟩ := Option.map_eq_some_iff.mp hreport
      cases heq
      rw [List.getElem?_zip_eq_some, Said.refusal?_eq_some_iff.mp hreason] at hi
      exact ⟨i, hi⟩
    · rintro ⟨i, hi⟩
      have hmem : (place, some (.error reason)) ∈ places.zip said :=
        List.mem_iff_getElem?.mpr ⟨i, List.getElem?_zip_eq_some.mpr hi⟩
      exact ⟨_, hmem, rfl⟩
  once := (map_place_reports places said).nodup hplaces
  in_order := map_place_reports places said

/-- The numbers of the lines that are reported increase. -/
theorem line_reports_increasing (n count : Nat) (said : List Said) :
    ((reports (linePlaces n count) said).map Report.line).Pairwise (· < ·) := by
  have hplaces : (linePlaces n count).Pairwise fun p q =>
      ∀ r r' : Report, r.place = p → r'.place = q → r.line < r'.line := by
    have hnumbers : (List.range' n count).Pairwise (· < ·) := List.pairwise_lt_range'
    refine List.pairwise_map.mpr (hnumbers.imp fun hlt r r' hr hr' => ?_)
    rw [Report.line, Report.line, hr, hr']
    exact hlt
  have hreports := hplaces.sublist (map_place_reports (linePlaces n count) said)
  exact List.pairwise_map.mpr ((List.pairwise_map.mp hreports).imp fun h => h _ _ rfl rfl)

theorem nodup_linePlaces (n count : Nat) : (linePlaces n count).Nodup :=
  have hnumbers : (List.range' n count).Nodup := List.nodup_range'
  List.pairwise_map.mpr (hnumbers.imp fun hne h => hne (Place.line.inj h))

/-! ### Refused lines -/

/-- The text with `blank` in place of each line whose number is chosen; `n` is the number of its
first line. -/
def replaceLines (chosen : Nat → Bool) (blank : List Char) (n : Nat) (s : List Char) : List Char :=
  match h : Text.cutLine s with
  | (line, some rest) =>
    have := Text.cutLine_length h
    (if chosen n then blank else line) ++ '\n' :: replaceLines chosen blank (n + 1) rest
  | (line, none) => if chosen n then blank else line
termination_by s.length

variable {chosen : Nat → Bool} {blank s : List Char}

theorem replaceLines_line (h : '\n' ∉ line) (s : List Char) :
    replaceLines chosen blank n (line ++ '\n' :: s) =
      (if chosen n then blank else line) ++ '\n' :: replaceLines chosen blank (n + 1) s := by
  have hcut := Text.cutLine_line h s
  rw [replaceLines]
  split
  · rename_i heq
    rw [hcut] at heq
    cases heq
    rfl
  · rename_i heq
    rw [hcut] at heq
    cases heq

theorem replaceLines_rest (h : '\n' ∉ s) :
    replaceLines chosen blank n s = if chosen n then blank else s := by
  have hcut := Text.cutLine_rest h
  rw [replaceLines]
  split
  · rename_i heq
    rw [hcut] at heq
    cases heq
  · rename_i heq
    rw [hcut] at heq
    cases heq
    rfl

/-- A line of blanks says nothing. -/
theorem idle_of_blank (h : ∀ c ∈ line, isBlank c = true) : Idle line := by
  refine .inl ?_
  rw [trimBlanks, Text.dropBlanks_eq_nil_iff.mpr h]
  rfl

theorem applyLines_ok {o' : Options} (h : o.applyLine line = .ok o') (n : Nat) :
    o.applyLines n (line :: lines) = o'.applyLines (n + 1) lines := by
  rw [Options.applyLines, h]

theorem applyLines_error {reason : Refusal} (h : o.applyLine line = .error reason) (n : Nat) :
    o.applyLines n (line :: lines) = ((o.applyLines (n + 1) lines).1,
      ⟨.line n, reason⟩ :: (o.applyLines (n + 1) lines).2) := by
  rw [Options.applyLines, h]

/-- The numbers of the lines that are reported. -/
def reportedLines (o : Options) (n : Nat) (lines : List (List Char)) : List Nat :=
  (o.applyLines n lines).2.map Report.line

theorem reportedLines_ok {o' : Options} (h : o.applyLine line = .ok o') (n : Nat) :
    reportedLines o n (line :: lines) = reportedLines o' (n + 1) lines := by
  rw [reportedLines, applyLines_ok h, reportedLines]

theorem reportedLines_error {reason : Refusal} (h : o.applyLine line = .error reason) (n : Nat) :
    reportedLines o n (line :: lines) = n :: reportedLines o (n + 1) lines := by
  rw [reportedLines, applyLines_error h, List.map_cons, reportedLines]
  rfl

/-- Lines are reported with their own numbers. -/
theorem le_of_mem_reportedLines {k : Nat} (h : k ∈ reportedLines o n lines) : n ≤ k := by
  induction lines generalizing o n with
  | nil => simp [reportedLines, Options.applyLines] at h
  | cons line lines ih =>
    cases hline : o.applyLine line with
    | ok o' =>
      rw [reportedLines_ok hline] at h
      exact Nat.le_of_succ_le (ih h)
    | error reason =>
      rw [reportedLines_error hline, List.mem_cons] at h
      obtain rfl | h := h
      · exact Nat.le_refl _
      · exact Nat.le_of_succ_le (ih h)

theorem idle_dropReturn (h : ∀ c ∈ blank, isBlank c = true) : Idle (Text.dropReturn blank) := by
  refine idle_of_blank fun c hc => h c ?_
  unfold Text.dropReturn at hc
  split at hc
  · exact List.mem_of_mem_dropLast hc
  · exact hc

/-- A line of blanks changes nothing. -/
theorem applyLines_blank (h : ∀ c ∈ blank, isBlank c = true) (hfeed : '\n' ∉ blank) (o : Options)
    (n : Nat) : o.applyLines n (Text.lines blank) = (o, []) := by
  rw [Text.lines_rest hfeed]
  split
  · rfl
  · rw [applyLines_ok (applyLine_of_idle (idle_of_blank h) o), Options.applyLines]

/-- A text with blank lines in place of those that are refused gives the same options, and none of
its lines is refused. -/
theorem applyLines_replaceLines (hblank : ∀ c ∈ blank, isBlank c = true) (hfeed : '\n' ∉ blank)
    (o : Options) (n : Nat) (s : List Char)
    (hchosen : ∀ k, n ≤ k → (chosen k = true ↔ k ∈ reportedLines o n (Text.lines s))) :
    o.applyLines n (Text.lines (replaceLines chosen blank n s)) =
      ((o.applyLines n (Text.lines s)).1, []) := by
  -- The condition is on the numbers from `n` on, so it goes on holding for the lines that follow.
  induction s using Text.linewise generalizing o n with
  | rest s hs =>
    rw [replaceLines_rest hs]
    have hn := hchosen n (Nat.le_refl n)
    have hlines : Text.lines s = [] ∨ Text.lines s = [s] := by
      rw [Text.lines_rest hs]
      split
      · exact .inl rfl
      · exact .inr rfl
    obtain hlines | hlines := hlines
    · rw [hlines] at hn ⊢
      have hkept : ¬chosen n = true := fun h => absurd (hn.mp h) List.not_mem_nil
      rw [if_neg hkept, hlines]
      rfl
    · rw [hlines] at hn ⊢
      cases hline : o.applyLine s with
      | ok o' =>
        rw [reportedLines_ok hline] at hn
        have hkept : ¬chosen n = true := fun h => absurd (hn.mp h) List.not_mem_nil
        rw [if_neg hkept, hlines, applyLines_ok hline]
        rfl
      | error reason =>
        rw [reportedLines_error hline] at hn
        rw [if_pos (hn.mpr List.mem_cons_self), applyLines_blank hblank hfeed,
          applyLines_error hline]
        rfl
  | line first s hfirst ih =>
    rw [Text.lines_line hfirst, replaceLines_line hfirst]
    rw [Text.lines_line hfirst] at hchosen
    have hn := hchosen n (Nat.le_refl n)
    cases hline : o.applyLine (Text.dropReturn first) with
    | ok o' =>
      rw [reportedLines_ok hline] at hchosen hn
      have hkept : ¬chosen n = true := fun h => by
        have := le_of_mem_reportedLines (hn.mp h)
        omega
      rw [if_neg hkept, Text.lines_line hfirst, applyLines_ok hline, applyLines_ok hline]
      exact ih o' (n + 1) fun k hk => hchosen k (Nat.le_of_succ_le hk)
    | error reason =>
      rw [reportedLines_error hline] at hchosen hn
      rw [if_pos (hn.mpr List.mem_cons_self), Text.lines_line hfeed, applyLines_error hline,
        applyLines_ok (applyLine_of_idle (idle_dropReturn hblank) o)]
      refine ih o (n + 1) fun k hk => ?_
      rw [hchosen k (Nat.le_of_succ_le hk), List.mem_cons, or_iff_right (by omega)]

/-! ### All sources -/

/-- What the options are, and what is reported, when the lines of an rc text, the environment and a
command line say what they say. -/
structure Configured (text : String) (value? : String → Option String) (a : Arguments)
    (said asked : List Said) : Prop where
  value : LastSet (settings said ++ settings asked ++ a.settings)
    (a.apply ((Options.ofText text).1.applyEnvironment value?).1)
  lines : Reported (linePlaces 1 said.length) said (Options.ofText text).2
  increasing : ((Options.ofText text).2.map Report.line).Pairwise (· < ·)
  environment : Reported (environmentOptions.map fun v => .environment v.1) asked
    ((Options.ofText text).1.applyEnvironment value?).2
  /-- The text is as good with a blank line in place of each line that is reported. -/
  without : ∀ blank, (∀ c ∈ blank, isBlank c = true) → '\n' ∉ blank →
    Options.ofText (String.ofList (replaceLines
      (fun k => k ∈ (Options.ofText text).2.map Report.line) blank 1 text.toList)) =
        ((Options.ofText text).1, [])

theorem exists_forall₂ {α β : Type} {R : α → β → Prop} (h : ∀ x, ∃ y, R x y) (l : List α) :
    ∃ l', List.Forall₂ R l l' := by
  choose f hf using h
  exact ⟨l.map f, List.forall₂_map_right_iff.mpr (List.forall₂_same.mpr fun x _ => hf x)⟩

theorem VariableSays.exists (value? : String → Option String) (v : String × String) :
    ∃ m, VariableSays value? v m := by
  obtain ⟨key, name⟩ := v
  cases h : value? key with
  | none => exact ⟨none, .unset h⟩
  | some value =>
    obtain ⟨r, hasked⟩ := Setting.exists_asked name value
    exact ⟨some r, .set h hasked⟩

/-- Every option has the value of the last setting for it that was accepted, in the order of the
lines of the rc text, the environment and the flags, or else its default value. What is refused is
reported once and in this order, and changes nothing: the rc text without the lines that are refused
gives the same options, and no reports. -/
theorem last_accepted_wins (text : String) (value? : String → Option String) (a : Arguments) :
    (∃ said, List.Forall₂ Says (Text.lines text.toList) said) ∧
      (∃ asked, List.Forall₂ (VariableSays value?) environmentOptions asked) ∧
      ∀ said asked, List.Forall₂ Says (Text.lines text.toList) said →
        List.Forall₂ (VariableSays value?) environmentOptions asked →
        Configured text value? a said asked := by
  refine ⟨exists_forall₂ Says.exists _, exists_forall₂ (VariableSays.exists value?) _,
    fun said asked hsaid hasked => ?_⟩
  have hlines := applyLines_eq hsaid {} 1
  have hvariables := applyVariables_eq hasked (Options.ofText text).1
  rw [← Options.ofText, hsaid.length_eq] at hlines
  rw [← Options.applyEnvironment] at hvariables
  refine ⟨?_, ?_, ?_, ?_, fun blank hblank hfeed => ?_⟩
  · rw [apply_eq, hvariables, hlines, ← List.foldl_append, ← List.foldl_append, ← List.append_assoc]
    exact lastSet_foldl _
  · rw [hlines]
    exact reported_reports (nodup_linePlaces 1 _) said
  · rw [hlines]
    exact line_reports_increasing 1 _ said
  · rw [hvariables]
    exact reported_reports (by decide) asked
  · have hchosen (k : Nat) (_ : 1 ≤ k) :
        decide (k ∈ (Options.ofText text).2.map Report.line) = true ↔
          k ∈ reportedLines {} 1 (Text.lines text.toList) := decide_eq_true_iff
    rw [Options.ofText, String.toList_ofList]
    exact applyLines_replaceLines hblank hfeed {} 1 text.toList hchosen

/-- A mode that is refused leaves the mode to the environment. -/
theorem last_accepted_wins_refused :
    let text := "set library a\n se handoff=both"
    let value? := fun key => if key = "VIMPY_HANDOFF" then some "single" else none
    let said := [some (.ok (.library "a")), some (.error (.unknownMode "both"))]
    let asked := [none, none, some (.ok (.handoff .singleCall))]
    List.Forall₂ Says (Text.lines text.toList) said ∧
      List.Forall₂ (VariableSays value?) environmentOptions asked ∧
      (∀ c ∈ [' '], isBlank c = true) ∧ '\n' ∉ [' '] ∧
      Configured text value? { home := some "/h" } said asked := by
  intro text value? said asked
  have hlines : Text.lines text.toList = ["set library a".toList, " se handoff=both".toList] := by
    have htext : text.toList = "set library a".toList ++ '\n' :: " se handoff=both".toList := by
      decide
    rw [htext, Text.lines_line (by decide), Text.lines_rest (by decide)]
    decide
  have hlibrary : Says "set library a".toList (some (.ok (.library "a"))) := by
    have hword : Divided isSeparator (trimBlanks "set library a".toList) "set".toList
        "library a".toList := @Divided.parts _ "set".toList _ ' ' (by simp [isSeparator]) rfl
    have hrest : Assigns (trimBlanks "library a".toList) "library".toList "a".toList :=
      @Assigns.spaced _ _ "a".toList (by decide)
        (@Divided.parts _ "library".toList _ ' ' (by simp [isSeparator]) rfl)
    exact .set (by decide) hword (by decide) hrest (by decide) (.library (by decide) (by decide))
  have hmode : Says " se handoff=both".toList (some (.error (.unknownMode "both"))) := by
    have hword : Divided isSeparator (trimBlanks " se handoff=both".toList) "se".toList
        "handoff=both".toList := @Divided.parts _ "se".toList _ ' ' (by simp [isSeparator]) rfl
    have hrest : Assigns (trimBlanks "handoff=both".toList) "handoff".toList "both".toList :=
      @Assigns.equals "handoff".toList "both".toList (by decide)
    exact .set (by decide) hword (by decide) hrest (by decide) (.noMode (by decide))
  have hsaid : List.Forall₂ Says (Text.lines text.toList) said :=
    hlines ▸ .cons hlibrary (.cons hmode .nil)
  have hasked : List.Forall₂ (VariableSays value?) environmentOptions asked :=
    .cons (.unset rfl) (.cons (.unset rfl) (.cons (.set rfl (.handoff rfl)) .nil))
  exact ⟨hsaid, hasked, by simp [isBlank], by decide,
    (last_accepted_wins text value? _).2.2 said asked hsaid hasked⟩

end ScriptBridge.Config
