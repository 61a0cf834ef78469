import Mathlib.Data.List.Basic
import ScriptBridge.Proofs.Config.Lines

/-!
# The two syntaxes of an assignment

An rc line sets an option with an equals sign between name and value, or with a separator. The first
equals sign of a line always counts as the one between name and value. So the two syntaxes say the
same for each value without an equals sign, and never the same for a value that has one.
-/

namespace ScriptBridge.Config

open Text (Trimmed isBlank trimBlanks)

/-- The line that sets an option with an equals sign. -/
def equalsLine (name : String) (value : List Char) : List Char :=
  "set ".toList ++ (name.toList ++ '=' :: value)

/-- The line that sets an option with a separator. -/
def spacedLine (name : String) (value : List Char) : List Char :=
  "set ".toList ++ (name.toList ++ ' ' :: value)

variable {name : String} {s v w front value before after trail : List Char}
  {r : Except Refusal Setting}

/-! ### Texts between blanks -/

theorem trimBlanks_trail (hs : Trimmed s) (htrail : ∀ c ∈ trail, isBlank c = true) :
    trimBlanks (s ++ trail) = s :=
  Text.trimBlanks_eq (List.forall_mem_nil _) hs htrail

theorem trimBlanks_trimmed (hs : Trimmed s) : trimBlanks s = s := by
  have h := trimBlanks_trail hs (List.forall_mem_nil _)
  rwa [List.append_nil] at h

theorem trimmed_of_blankless (hs : ∀ c ∈ s, isBlank c = false) : Trimmed s :=
  ⟨fun c hc => hs c (List.mem_of_mem_head? hc), fun c hc => hs c (List.mem_of_mem_getLast? hc)⟩

/-- A text has no blanks at its ends if it starts with something else, and ends with something
else. -/
theorem trimmed_append_cons {c : Char} (hne : s ≠ []) (hs : ∀ d ∈ s.head?, isBlank d = false)
    (hc : w = [] → isBlank c = false) (hw : ∀ d ∈ w.getLast?, isBlank d = false) :
    Trimmed (s ++ c :: w) where
  head_eq d hd := by
    rw [List.head?_append_of_ne_nil _ hne] at hd
    exact hs d hd
  last_eq d hd := by
    rw [List.getLast?_append, List.getLast?_cons, Option.some_or, Option.mem_def,
      Option.some.injEq] at hd
    subst hd
    cases hlast : w.getLast? with
    | none => exact hc (List.getLast?_eq_none_iff.mp hlast)
    | some d => exact hw d (hlast ▸ rfl)

/-- Blanks at the end of a text do not matter for what trimming leaves. -/
theorem exists_before_blanks (v : List Char) : ∃ w trail, v = w ++ trail ∧
    (∀ d ∈ w.getLast?, isBlank d = false) ∧ (∀ c ∈ trail, isBlank c = true) ∧
    trimBlanks v = trimBlanks w := by
  obtain ⟨trail, hv, hlast, htrail⟩ := Text.exists_blanksRight v
  refine ⟨_, trail, hv, hlast, htrail, ?_⟩
  generalize Text.dropBlanksRight v = w at hv
  rw [hv]
  exact Text.trimBlanks_between (List.forall_mem_nil _) htrail w

/-! ### Names -/

/-- The name of an option has neither blanks nor an equals sign. -/
theorem of_mem_optionNames (h : name ∈ optionNames) : name.toList ≠ [] ∧
    (∀ c ∈ name.toList, isBlank c = false) ∧ (∀ c ∈ name.toList, isSeparator c = false) ∧
    '=' ∉ name.toList ∧ ' ' ∉ name.toList := by
  simp only [optionNames, List.mem_cons, List.not_mem_nil, or_false] at h
  obtain rfl | rfl | rfl | rfl | rfl := h <;> simp [isBlank, isSeparator]

/-- The name of an option in front of a text that ends with something other than a blank. -/
theorem trimmed_named {c : Char} (hname : name ∈ optionNames) (hc : w = [] → isBlank c = false)
    (hw : ∀ d ∈ w.getLast?, isBlank d = false) : Trimmed (name.toList ++ c :: w) := by
  obtain ⟨hne, hblank, -⟩ := of_mem_optionNames hname
  exact trimmed_append_cons hne (fun d hd => hblank d (List.mem_of_mem_head? hd)) hc hw

/-- A name with a separator and a text behind it is the name alone if the text is blank, and else no
name of an option. -/
theorem trimBlanks_spaced (hname : name ∈ optionNames) (v : List Char) :
    trimBlanks (name.toList ++ ' ' :: v) = name.toList ∨
      trimBlanks (name.toList ++ ' ' :: v) ≠ [] ∧
        String.ofList (trimBlanks (name.toList ++ ' ' :: v)) ∉ optionNames := by
  obtain ⟨-, hblank, -⟩ := of_mem_optionNames hname
  obtain ⟨w, trail, rfl, hlast, htrail, -⟩ := exists_before_blanks v
  by_cases hw : w = []
  · subst hw
    have hblanks : ∀ c ∈ ' ' :: trail, isBlank c = true :=
      List.forall_mem_cons.mpr ⟨by decide, htrail⟩
    exact .inl (trimBlanks_trail (trimmed_of_blankless hblank) hblanks)
  · have hs : Trimmed (name.toList ++ ' ' :: w) := trimmed_named hname (fun h => absurd h hw) hlast
    have htext : trimBlanks (name.toList ++ ' ' :: (w ++ trail)) = name.toList ++ ' ' :: w := by
      rw [← List.cons_append, ← List.append_assoc, trimBlanks_trail hs htrail]
    rw [htext]
    refine .inr ⟨by simp, fun hmem => ?_⟩
    obtain ⟨-, -, -, -, hspace⟩ := of_mem_optionNames hmem
    exact hspace (by simp)

/-! ### What the lines say -/

/-- A line that starts with the directive says what its assignment asks for. -/
theorem says_set (hne : s ≠ []) (hs : Trimmed s) (htrail : ∀ c ∈ trail, isBlank c = true)
    (hassigns : Assigns s front value) (hname : front ≠ [])
    (hasked : Setting.Asked (String.ofList front) (String.ofList value) r) :
    Says ("set ".toList ++ (s ++ trail)) (some r) := by
  have hset : Trimmed ("set ".toList ++ s) := by
    obtain ⟨c, s', rfl⟩ := List.exists_cons_of_ne_nil hne
    refine trimmed_append_cons (by simp) (by simp [isBlank]) (fun _ => hs.head_eq c rfl)
      fun d hd => hs.last_eq d ?_
    rw [List.getLast?_cons, Option.mem_def.mp hd]
    rfl
  have htext : trimBlanks ("set ".toList ++ (s ++ trail)) = "set".toList ++ ' ' :: s := by
    rw [← List.append_assoc, trimBlanks_trail hset htrail]
    rfl
  have hbusy : ¬Idle ("set ".toList ++ (s ++ trail)) := by
    unfold Idle
    rw [htext]
    simp
  have hword : Divided isSeparator (trimBlanks ("set ".toList ++ (s ++ trail))) "set".toList s :=
    htext ▸ .parts (by simp [isSeparator]) rfl
  exact .set hbusy hword (by decide) ((trimBlanks_trimmed hs).symm ▸ hassigns) hname hasked

/-- With an equals sign a line sets the option to the value, whatever is in the value. -/
theorem says_equals (hname : name ∈ optionNames)
    (hasked : Setting.Asked name (String.ofList (trimBlanks v)) r) :
    Says (equalsLine name v) (some r) := by
  obtain ⟨hne, hblank, -, hequals, -⟩ := of_mem_optionNames hname
  obtain ⟨w, trail, rfl, hlast, htrail, hvalue⟩ := exists_before_blanks v
  have hline : equalsLine name (w ++ trail) =
      "set ".toList ++ ((name.toList ++ '=' :: w) ++ trail) := by simp [equalsLine]
  have hs : Trimmed (name.toList ++ '=' :: w) := trimmed_named hname (fun _ => by decide) hlast
  have hassigns : Assigns (name.toList ++ '=' :: w) (trimBlanks name.toList) (trimBlanks w) :=
    .equals hequals
  rw [trimBlanks_trimmed (trimmed_of_blankless hblank), ← hvalue] at hassigns
  rw [hline]
  exact says_set (by simp) hs htrail hassigns hne (by rwa [String.ofList_toList])

/-- With a separator a line sets the option to the value if the value has no equals sign. -/
theorem says_spaced (hname : name ∈ optionNames) (hv : '=' ∉ v)
    (hasked : Setting.Asked name (String.ofList (trimBlanks v)) r) :
    Says (spacedLine name v) (some r) := by
  obtain ⟨hne, hblank, hseparator, hequals, -⟩ := of_mem_optionNames hname
  obtain ⟨w, trail, rfl, hlast, htrail, hvalue⟩ := exists_before_blanks v
  rw [List.mem_append, not_or] at hv
  rw [← String.ofList_toList (s := name), hvalue] at hasked
  -- Without a value the separator is one of the blanks at the end of the line.
  by_cases hw : w = []
  · subst hw
    have hblanks : ∀ c ∈ ' ' :: trail, isBlank c = true :=
      List.forall_mem_cons.mpr ⟨by decide, htrail⟩
    exact says_set hne (trimmed_of_blankless hblank) hblanks (.spaced hequals (.whole hseparator))
      hne hasked
  · have hline : spacedLine name (w ++ trail) =
        "set ".toList ++ ((name.toList ++ ' ' :: w) ++ trail) := by simp [spacedLine]
    have hs : Trimmed (name.toList ++ ' ' :: w) := trimmed_named hname (fun h => absurd h hw) hlast
    have hassigns : Assigns (name.toList ++ ' ' :: w) name.toList (trimBlanks w) :=
      .spaced (by simp [hequals, hv.1]) (.parts hseparator (by decide))
    rw [hline]
    exact says_set (by simp) hs htrail hassigns hne hasked

/-- The first equals sign of a value ends the name if a separator stands in front of the value. -/
theorem says_misread (hname : name ∈ optionNames) (hbefore : '=' ∉ before)
    (hasked : Setting.Asked (String.ofList (trimBlanks (name.toList ++ ' ' :: before)))
      (String.ofList (trimBlanks after)) r) :
    Says (spacedLine name (before ++ '=' :: after)) (some r) := by
  obtain ⟨hne, hblank, -, hequals, -⟩ := of_mem_optionNames hname
  obtain ⟨w, trail, rfl, hlast, htrail, hvalue⟩ := exists_before_blanks after
  have hline : spacedLine name (before ++ '=' :: (w ++ trail)) =
      "set ".toList ++ ((name.toList ++ ' ' :: before ++ '=' :: w) ++ trail) := by
    simp [spacedLine]
  have hs : Trimmed (name.toList ++ ' ' :: before ++ '=' :: w) := by
    refine trimmed_append_cons (by simp) (fun d hd => ?_) (fun _ => by decide) hlast
    rw [List.head?_append_of_ne_nil _ hne] at hd
    exact hblank d (List.mem_of_mem_head? hd)
  have hassigns : Assigns (name.toList ++ ' ' :: before ++ '=' :: w)
      (trimBlanks (name.toList ++ ' ' :: before)) (trimBlanks w) :=
    .equals (by simp [hequals, hbefore])
  have hfront : trimBlanks (name.toList ++ ' ' :: before) ≠ [] := by
    obtain h | h := trimBlanks_spaced hname before
    · rwa [h]
    · exact h.1
  rw [hline]
  exact says_set (by simp) hs htrail hassigns hfront (hvalue ▸ hasked)

/-! ### What the lines do -/

theorem applyLine_equalsLine (hname : name ∈ optionNames) (v : List Char) (o : Options) :
    o.applyLine (equalsLine name v) = o.set name (String.ofList (trimBlanks v)) := by
  obtain ⟨r, hasked⟩ := Setting.exists_asked name (String.ofList (trimBlanks v))
  rw [(says_equals hname hasked).applyLine_eq, hasked.set_eq, Options.heed]

theorem applyLine_spacedLine (hname : name ∈ optionNames) (hv : '=' ∉ v) (o : Options) :
    o.applyLine (spacedLine name v) = o.set name (String.ofList (trimBlanks v)) := by
  obtain ⟨r, hasked⟩ := Setting.exists_asked name (String.ofList (trimBlanks v))
  rw [(says_spaced hname hv hasked).applyLine_eq, hasked.set_eq, Options.heed]

theorem applyLine_misread (hname : name ∈ optionNames) (hbefore : '=' ∉ before)
    (after : List Char) (o : Options) : o.applyLine (spacedLine name (before ++ '=' :: after)) =
      o.set (String.ofList (trimBlanks (name.toList ++ ' ' :: before)))
        (String.ofList (trimBlanks after)) := by
  obtain ⟨r, hasked⟩ := Setting.exists_asked
    (String.ofList (trimBlanks (name.toList ++ ' ' :: before))) (String.ofList (trimBlanks after))
  rw [(says_misread hname hbefore hasked).applyLine_eq, hasked.set_eq, Options.heed]

/-! ### Values with equals signs -/

theorem count_trimBlanks (s : List Char) : (trimBlanks s).count '=' = s.count '=' := by
  obtain ⟨lead, trail, hs, hlead, -, htrail⟩ := Text.exists_trimmed s
  have hnone {t : List Char} (ht : ∀ c ∈ t, isBlank c = true) : t.count '=' = 0 :=
    List.count_eq_zero.mpr fun hmem => absurd (ht _ hmem) (by decide)
  generalize trimBlanks s = t at hs
  rw [hs, List.count_append, List.count_append, hnone hlead, hnone htrail]
  omega

theorem splitCommas_cons (c : Char) (s : List Char) : splitCommas (c :: s) =
    match splitCommas s with
    | part :: rest => if c = ',' then [] :: part :: rest else (c :: part) :: rest
    | [] => [[c]] := rfl

theorem count_splitCommas (s : List Char) : (splitCommas s).flatten.count '=' = s.count '=' := by
  induction s with
  | nil => rfl
  | cons c s ih =>
    rw [splitCommas_cons, List.count_cons, ← ih]
    cases splitCommas s with
    | nil => rw [List.flatten_nil, List.flatten_singleton, List.count_cons]
    | cons part rest =>
      dsimp only
      split
      · rename_i hc
        subst hc
        rfl
      · rw [List.flatten_cons, List.cons_append, List.count_cons, List.flatten_cons]

/-- The equals signs of a list of names are those of the text. -/
theorem count_splitNames (value : String) :
    ((splitNames value).flatMap String.toList).count '=' = value.toList.count '=' := by
  rw [← count_splitCommas value.toList, splitNames]
  generalize splitCommas value.toList = parts
  induction parts with
  | nil => rfl
  | cons part parts ih =>
    have hpart := count_trimBlanks part
    rw [List.map_cons, List.flatten_cons, List.count_append, ← ih, ← hpart, List.filter_cons]
    split
    · rw [List.map_cons, List.flatMap_cons, List.count_append, String.toList_ofList]
    · rename_i hempty
      have hnil : trimBlanks part = [] := by simpa using hempty
      rw [hnil, List.count_nil, Nat.zero_add]

theorem ofName?_eq_none {x : String} (hx : '=' ∈ x.toList) : HandoffMode.ofName? x = none := by
  unfold HandoffMode.ofName?
  split
  · exact absurd hx (by decide)
  · exact absurd hx (by decide)
  · exact absurd hx (by decide)
  · rfl

/-- A library is never set in the same way to different names. -/
theorem library_ne {x y : String} (hne : x ≠ y) (o : Options) :
    (Except.ok { o with library := x } : Except Refusal Options) ≠
      if y.isEmpty then .error .emptyLibrary else .ok { o with library := y } := by
  split
  · nofun
  · exact fun h => hne (congrArg Options.library (Except.ok.inj h))

/-- An option is never set in the same way to values with different numbers of equals signs. -/
theorem set_ne {x y : String} (hname : name ∈ optionNames) (hx : '=' ∈ x.toList)
    (hcount : x.toList.count '=' ≠ y.toList.count '=') (o : Options) :
    o.set name x ≠ o.set name y := by
  have hne : x ≠ y := fun h => hcount (h ▸ rfl)
  have hfull : x.isEmpty = false := by
    rw [String.isEmpty_eq_false_iff]
    rintro rfl
    exact absurd hx (by decide)
  simp only [optionNames, List.mem_cons, List.not_mem_nil, or_false] at hname
  obtain rfl | rfl | rfl | rfl | rfl := hname
  · simpa only [Options.set, hfull, Bool.false_eq_true, if_false] using library_ne hne o
  · simpa only [Options.set, hfull, Bool.false_eq_true, if_false] using library_ne hne o
  · intro h
    have hhome := congrArg Options.home (Except.ok.inj h)
    simp only [hfull, Bool.false_eq_true, if_false] at hhome
    split at hhome
    · cases hhome
    · exact hne (Option.some.inj hhome)
  · intro h
    simp only [Options.set, ofName?_eq_none hx] at h
    split at h
    · cases h
    · exact hne (Refusal.unknownMode.inj (Except.error.inj h))
  · intro h
    have hnames := congrArg Options.siblings (Except.ok.inj h)
    refine hcount ?_
    rw [← count_splitNames, ← count_splitNames]
    exact congrArg (fun names => (names.flatMap String.toList).count '=') hnames

/-- The name of an option is not refused as unknown, whatever the value is. -/
theorem set_ne_unknown (hname : name ∈ optionNames) (value : String) (o : Options)
    (unknown : String) : o.set name value ≠ .error (.unknownOption unknown) := by
  obtain ⟨r, hasked⟩ := Setting.exists_asked name value
  rw [hasked.set_eq]
  cases hasked with
  | unknown hunknown => exact absurd hname hunknown
  | _ => nofun

theorem applyLine_ne (hname : name ∈ optionNames) (hv : '=' ∈ v) (o : Options) :
    o.applyLine (equalsLine name v) ≠ o.applyLine (spacedLine name v) := by
  obtain ⟨before, after, rfl, hbefore⟩ := List.eq_append_cons_of_mem hv
  rw [applyLine_equalsLine hname, applyLine_misread hname hbefore]
  have hcount := count_trimBlanks (before ++ '=' :: after)
  rw [List.count_append, List.count_cons_self, List.count_eq_zero.mpr hbefore] at hcount
  obtain hfront | ⟨-, hfront⟩ := trimBlanks_spaced hname before
  · rw [hfront, String.ofList_toList]
    refine set_ne hname ?_ ?_ o
    · rw [String.toList_ofList, ← List.count_pos_iff]
      omega
    · rw [String.toList_ofList, String.toList_ofList, hcount, count_trimBlanks]
      omega
  · rw [(Setting.Asked.unknown hfront _).set_eq]
    exact set_ne_unknown hname _ o _

/-- The ninth character of the wording of a refusal, another one for each sort of refusal. -/
def Refusal.mark : Refusal → Char
  | .unknownDirective _ => 'd'
  | .missingName => 'i'
  | .emptyLibrary => 'n'
  | .unknownMode _ => 'h'
  | .unknownOption _ => 'o'

theorem Refusal.message_mark (r : Refusal) : r.message.toList[8]? = some r.mark := by
  cases r with
  | unknownDirective | unknownOption =>
    unfold Refusal.message
    rw [String.toList_append, List.getElem?_append_left (by simp)]
    simp [Refusal.mark]
  | unknownMode text =>
    unfold Refusal.message HandoffMode.unknown
    dsimp only
    rw [String.append_assoc, String.toList_append, List.getElem?_append_left (by simp)]
    simp [Refusal.mark]
  | missingName | emptyLibrary =>
    unfold Refusal.message
    simp [Refusal.mark]

/-- The wording of a refusal tells which one it is. -/
theorem Refusal.message_injective {a b : Refusal} (h : a.message = b.message) : a = b := by
  have hmark : a.mark = b.mark := by
    rw [← Option.some_inj, ← a.message_mark, h, b.message_mark]
  unfold Refusal.message HandoffMode.unknown at h
  cases a <;> cases b <;> simp [Refusal.mark] at hmark h ⊢ <;> exact h

theorem mapError_injective {ε δ α : Type} {f : ε → δ} (hf : ∀ a b, f a = f b → a = b)
    {x y : Except ε α} (h : x.mapError f = y.mapError f) : x = y := by
  cases x <;> cases y
  · exact congrArg Except.error (hf _ _ (Except.error.inj h))
  · cases h
  · cases h
  · exact congrArg Except.ok (Except.ok.inj h)

/-- Two lines that do the same everywhere can stand for each other in an rc text. -/
theorem applyLines_congr {line line' : List Char}
    (h : ∀ o : Options, o.applyLine line = o.applyLine line') (o : Options) (n : Nat)
    (before after : List (List Char)) :
    o.applyLines n (before ++ line :: after) = o.applyLines n (before ++ line' :: after) := by
  induction before generalizing o n with
  | nil =>
    rw [List.nil_append, List.nil_append, Options.applyLines, Options.applyLines, h o]
  | cons first before ih =>
    rw [List.cons_append, List.cons_append, Options.applyLines, Options.applyLines]
    cases o.applyLine first with
    | ok o' => exact ih o' (n + 1)
    | error reason =>
      dsimp only
      rw [ih o (n + 1)]

/-- With an equals sign an option is set to the value, whatever characters the value has. With a
separator the line does the same, at each place of an rc text, if the value has no equals sign. If
it has one, the options or the wording of the refusal are never the same. -/
theorem syntaxes_agree_iff (hname : name ∈ optionNames) (v : List Char) :
    (∀ o : Options, o.applyLine (equalsLine name v) = o.set name (String.ofList (trimBlanks v))) ∧
      ('=' ∉ v → ∀ (o : Options) n before after,
        o.applyLines n (before ++ equalsLine name v :: after) =
          o.applyLines n (before ++ spacedLine name v :: after)) ∧
      ('=' ∈ v → ∀ o : Options,
        (o.applyLine (equalsLine name v)).mapError Refusal.message ≠
          (o.applyLine (spacedLine name v)).mapError Refusal.message) := by
  refine ⟨applyLine_equalsLine hname v, fun hv => ?_, fun hv o h => applyLine_ne hname hv o ?_⟩
  · refine applyLines_congr fun o => ?_
    rw [applyLine_equalsLine hname, applyLine_spacedLine hname hv]
  · exact mapError_injective (fun _ _ => Refusal.message_injective) h

/-- Blanks in a value are no matter, and an equals sign is. -/
theorem syntaxes_agree_iff_library :
    "library" ∈ optionNames ∧ '=' ∉ "a b.so".toList ∧ '=' ∈ "a=b.so".toList ∧
      (∀ (o : Options) n before after,
        o.applyLines n (before ++ equalsLine "library" "a b.so".toList :: after) =
          o.applyLines n (before ++ spacedLine "library" "a b.so".toList :: after)) ∧
      (({} : Options).applyLine (equalsLine "library" "a=b.so".toList)).mapError Refusal.message ≠
        (({} : Options).applyLine (spacedLine "library" "a=b.so".toList)).mapError
          Refusal.message := by
  have hname : "library" ∈ optionNames := by decide
  have hplain : '=' ∉ "a b.so".toList := by decide
  have hequals : '=' ∈ "a=b.so".toList := by decide
  exact ⟨hname, hplain, hequals, (syntaxes_agree_iff hname _).2.1 hplain,
    (syntaxes_agree_iff hname _).2.2 hequals {}⟩

/-- What stands in front of the equals sign is taken for a name. -/
example : ({} : Options).applyLine (spacedLine "library" "a=b.so".toList) =
    .error (.unknownOption "library a") := by rfl

end ScriptBridge.Config
