import ScriptBridge.Proofs.Host.Appending
import ScriptBridge.Proofs.Host.Attempts
import ScriptBridge.Proofs.Host.Blanks
import ScriptBridge.Proofs.Host.Writing

/-!
# Names that are assigned and names that are read

`:let` and `:unlet` find the place of a variable from the text in front of the sign or behind the
word; an expression finds it from the name that it starts with. Both go by the same scopes. They do
not go by the same names: `:let` takes a name that starts with a digit, where an expression has a
number.
-/

namespace ScriptBridge.Host

open ScriptBridge.Computation
open Text (isBlank dropBlanks Front)

/-! ### One variable of a scope -/

namespace Store

variable {s s' : Store} {d d' : DictRef} {key key' : String} {v : Value}

theorem get?_of_insert (hd : d.id < s.dicts.size) (h : s.insert d key v = .ok s') :
    s'.get? d key = some v := by
  obtain ⟨-, rfl⟩ := writeDict_eq_ok.mp h
  rw [get?, dict_setDict_self hd]
  exact Entries.get?_insert_self ..

/-- A change of what is under one key of one dictionary. -/
theorem get?_of_write {change : List (String × Value) → List (String × Value)}
    (hd : d.id < s.dicts.size) (hplace : (d', key') ≠ (d, key))
    (hchange : ∀ other, other ≠ key → ∀ es, Entries.get? other (change es) = Entries.get? other es)
    (h : s.writeDict d change = .ok s') : s'.get? d' key' = s.get? d' key' := by
  obtain ⟨-, rfl⟩ := writeDict_eq_ok.mp h
  rw [get?, get?]
  by_cases hdict : d' = d
  · subst hdict
    rw [dict_setDict_self hd]
    exact hchange key' (fun hkey => hplace (hkey ▸ rfl)) _
  · rw [dict_setDict_of_ne hdict]

/-- What has been put into a dictionary can be taken out of it. -/
theorem exists_erase (hd : d.id < s.dicts.size) (hordered : Entries.Ordered (s.dict d).entries)
    (h : s.insert d key v = .ok s') :
    ∃ s'', s'.erase d key = .ok s'' ∧ s''.get? d key = none := by
  obtain ⟨hlock, rfl⟩ := writeDict_eq_ok.mp h
  set cell : DictCell := { s.dict d with entries := Entries.insert key v (s.dict d).entries }
  have hcell : (s.setDict d cell).dict d = cell := dict_setDict_self hd cell
  refine ⟨_, writeDict_eq_ok.mpr ⟨?_, rfl⟩, ?_⟩
  · rw [hcell]
    exact hlock
  · rw [get?, dict_setDict_self (by rwa [dicts_size_setDict]), hcell]
    exact Entries.get?_erase_self (hordered.insert key v) key

end Store

/-! ### Names -/

/-- A character of a name without its scope. -/
def isKeyChar (c : Char) : Bool := c.isAlphanum || c = '_'

/-- A name without a scope that an expression has a number in place of. -/
def NumberLike (name : String) : Prop :=
  ∃ c r, name.toList = c :: r ∧ c.isDigit = true ∧ ∀ x ∈ c :: r, isKeyChar x = true

/-- The parts of a variable name. -/
theorem of_splitVariable? {name key : String} {scope : Char}
    (h : splitVariable? name = some (scope, key)) :
    key.toList ≠ [] ∧ (∀ x ∈ key.toList, isKeyChar x = true) ∧
      (name = key ∨ name.toList = scope :: ':' :: key.toList) := by
  have hparts (p : Char × List Char)
      (hp : (if p.2.isEmpty || !p.2.all fun c => c.isAlphanum || c = '_' then none
        else some (p.1, String.ofList p.2)) = some (scope, key)) :
      p = (scope, key.toList) ∧ key.toList ≠ [] ∧ ∀ x ∈ key.toList, isKeyChar x = true := by
    split at hp
    · cases hp
    · rename_i hkey
      simp only [Bool.or_eq_true, not_or, Bool.not_eq_true, Bool.not_eq_false',
        List.isEmpty_eq_false_iff, List.all_eq_true] at hkey
      cases hp
      rw [String.toList_ofList]
      exact ⟨rfl, hkey.1, fun x hx => Bool.or_eq_true_iff.mpr (hkey.2 x hx)⟩
  unfold splitVariable? at h
  dsimp only at h
  split at h
  · rename_i c text htext
    obtain ⟨hsplit, hkey⟩ := hparts _ h
    split at hsplit
    · cases hsplit
      exact ⟨hkey.1, hkey.2, .inr htext⟩
    · exact ⟨hkey.1, hkey.2, .inl (String.toList_inj.mp (congrArg Prod.snd hsplit))⟩
  · obtain ⟨hsplit, hkey⟩ := hparts _ h
    exact ⟨hkey.1, hkey.2, .inl (String.toList_inj.mp (congrArg Prod.snd hsplit))⟩

/-! ### Scopes -/

namespace Editor

variable {e e' e'' : Editor} {name key : String} {d : DictRef} {v : Value}

/-- Of all variables, only the one in a certain place may have changed, and nothing else in the
editor has but its containers. -/
structure Keeps (place : DictRef × String) (e e' : Editor) : Prop where
  eq : e' = { e with store := e'.store }
  get?_eq : ∀ d ∈ e.scopes, ∀ key, (d, key) ≠ place → e'.store.get? d key = e.store.get? d key

/-- What an expression has done keeps all variables. -/
theorem Appends.get?_eq (h : e.Appends e') (hscoped : e.Scoped) (hd : d ∈ e.scopes) (key : String) :
    e'.store.get? d key = e.store.get? d key := by
  rw [Store.get?, h.store.dict d (hscoped.exist d hd), Store.get?]

/-- A change of what is under one key of one scope. -/
theorem Keeps.of_write {s : Store} {change : List (String × Value) → List (String × Value)}
    (happends : e.Appends e') (hscoped : e.Scoped) (hd : d ∈ e.scopes)
    (hchange : ∀ other, other ≠ key → ∀ es, Entries.get? other (change es) = Entries.get? other es)
    (h : e'.store.writeDict d change = .ok s) : e.Keeps (d, key) { e' with store := s } where
  eq := by rw [happends.eq]
  get?_eq d' hd' key' hplace := by
    have hsize := Nat.lt_of_lt_of_le (hscoped.exist d hd) happends.store.dicts_le
    exact (Store.get?_of_write hsize hplace hchange h).trans (happends.get?_eq hscoped hd' key')

/-- A variable is in one of the scopes. -/
theorem of_scopeOf (h : e.scopeOf name = .ok (d, key)) :
    d ∈ e.scopes ∧
      ∃ scope ∈ ['g', 'v', 'b', 'w', 't'], splitVariable? name = some (scope, key) := by
  have hfound {α : Type} {vars : α → DictRef} {p : α → Bool} {xs : List α}
      {x : α} (hx : xs.find? p = some x) : vars x ∈ xs.map vars :=
    List.mem_map_of_mem (List.mem_of_find?_eq_some hx)
  unfold scopeOf at h
  split at h
  · cases h
  rename_i scope key' hsplit
  dsimp only at h
  split at h
  · cases h
    exact ⟨List.mem_cons_self, _, by decide, hsplit⟩
  · cases h
    exact ⟨List.mem_cons_of_mem _ List.mem_cons_self, _, by decide, hsplit⟩
  iterate 3
    split at h
    · rename_i hvars
      obtain ⟨x, hx, hvars⟩ := Option.map_eq_some_iff.mp hvars
      cases h
      refine ⟨?_, _, by decide, hsplit⟩
      simp only [scopes, List.mem_cons, List.mem_append]
      first
      | exact .inr (.inr (.inl (.inl (hvars ▸ hfound hx))))
      | exact .inr (.inr (.inl (.inr (hvars ▸ hfound hx))))
      | exact .inr (.inr (.inr (hvars ▸ hfound hx)))
    · cases h
  · cases h

/-- Where a variable is does not depend on what the containers hold. -/
theorem scopeOf_withStore (e : Editor) (store : Store) (name : String) :
    { e with store }.scopeOf name = e.scopeOf name := rfl

/-- The name of a variable is one that an expression reads, or else it starts with a digit. -/
theorem isName_of_scopeOf (h : e.scopeOf name = .ok (d, key)) :
    Expr.IsName name ∨ NumberLike name := by
  obtain ⟨-, scope, hscope, hsplit⟩ := of_scopeOf h
  obtain ⟨hne, hkey, hname⟩ := of_splitVariable? hsplit
  have hchar (x : Char) (hx : isKeyChar x = true) : isNameChar x = true := by
    simp only [isKeyChar, Bool.or_eq_true, decide_eq_true_eq] at hx
    simp [isNameChar, hx]
  obtain ⟨c, r, hfirst⟩ := List.exists_cons_of_ne_nil hne
  rcases hname with rfl | hname
  · rw [hfirst] at hkey
    by_cases hdigit : c.isDigit = true
    · exact .inr ⟨c, r, hfirst, hdigit, hkey⟩
    · refine .inl ⟨c, r, hfirst, ?_, List.all_eq_true.mpr fun x hx => hchar x (hkey x (.tail _ hx))⟩
      simpa [startsName, isKeyChar, Char.isAlphanum, hdigit] using hkey c List.mem_cons_self
  · refine .inl ⟨scope, ':' :: key.toList, hname, ?_, ?_⟩
    · have hletters : ∀ c ∈ ['g', 'v', 'b', 'w', 't'], startsName c = true :=
        List.all_eq_true.mp rfl
      exact hletters scope hscope
    · rw [List.all_cons, Bool.and_eq_true]
      exact ⟨by decide, List.all_eq_true.mpr fun x hx => hchar x (hkey x hx)⟩

end Editor

/-! ### Reading a name -/

/-- Blanks around an expression are blanks that trimming takes off. -/
theorem follows_trim (src : String) : ∃ trail : List Char, (∀ c ∈ trail, isBlank c = true) ∧
    dropBlanks src.toList = dropBlanks ((Text.trim src).toList ++ trail) := by
  obtain ⟨lead, trail, htext, hlead, -, htrail⟩ := Text.exists_trimmed src.toList
  refine ⟨trail, htrail, ?_⟩
  rw [Text.trim, String.toList_ofList]
  conv => lhs; rw [htext, List.append_assoc]
  exact List.dropWhile_append_of_pos hlead

/-- A name between blanks is a variable. -/
theorem ofText_name {src : String} (h : Expr.IsName (Text.trim src)) :
    Expr.ofText src = .variable (Text.trim src) := by
  have hname : Expr.ofText (Text.trim src) = .variable (Text.trim src) := by
    have htext := Expr.ofText_text (.variable h)
    rwa [Expr.text, Expr.tokens, List.intercalate_singleton, String.ofList_toList] at htext
  obtain ⟨trail, htrail, hsrc⟩ := follows_trim src
  rw [Expr.ofText_blanks htrail hsrc (hname ▸ .variable _), hname]

/-- What starts with a digit and has no point in it reads as a number, or is malformed. -/
theorem readNumber_integer {s : List Char} (h : '.' ∉ s) :
    (∃ n, readNumber s = .complete (.number n) (s.drop (numberText s).length)) ∨
      ∃ error, readNumber s = .stuck (.malformed error) := by
  have hpoint : (numberText s).contains '.' = false := by
    rw [List.contains_eq_mem, decide_eq_false_iff_not]
    exact fun hmem => h ((Expr.numberText_isPrefix s).subset hmem)
  unfold readNumber
  dsimp only
  rw [hpoint]
  cases Text.readInt64? (numberText s) with
  | none => exact .inr ⟨_, rfl⟩
  | some n => exact .inl ⟨n, rfl⟩

/-- To evaluate a name that starts with a digit is to come to a number or a failure that do not
depend on the editor. -/
theorem evalText_numberLike {src : String} (h : NumberLike (Text.trim src))
    (functions : UserFunctions) :
    (∃ n, evalText functions src = pure (.number n)) ∨
      ∃ reason, evalText functions src = Eval.fail reason := by
  obtain ⟨c, r, htrim, hdigit, hkey⟩ := h
  obtain ⟨trail, htrail, hsrc⟩ := follows_trim src
  rw [htrim, List.cons_append] at hsrc
  have hchar (x : Char) (hx : x ∈ c :: (r ++ trail)) : isKeyChar x = true ∨ isBlank x = true :=
    (List.mem_append.mp hx).imp (hkey x) (htrail x)
  have hpoint : '.' ∉ c :: (r ++ trail) := fun hmem => absurd (hchar '.' hmem) (by decide)
  have hdrop : dropBlanks src.toList = c :: (r ++ trail) :=
    hsrc.trans (Expr.dropBlanks_token (Expr.not_isBlank_of_isDigit hdigit))
  rw [evalText, Expr.ofText, Expr.read_eq, Expr.readSum_eq, Expr.readProduct_eq,
    Expr.readFactor_number hdrop hdigit]
  rcases readNumber_integer hpoint with ⟨n, hread⟩ | ⟨error, hread⟩
  · rw [hread]
    set rest := (c :: (r ++ trail)).drop (numberText (c :: (r ++ trail))).length
    -- What follows the number is a character of the name or nothing, and so no operator.
    have hrest (x : Char) (hx : x ∈ (dropBlanks rest).head?) :
        x ∉ ['*', '/', '%'] ∧ x ∉ ['+', '-', '.'] := by
      have hmem := (List.dropWhile_suffix isBlank).subset (List.mem_of_mem_head? hx)
      have hblank := (Front.split isBlank rest).rest_stops x hx
      have hkeychar :=
        (hchar x ((List.drop_suffix _ _).subset hmem)).resolve_right (by simp [hblank])
      constructor
      all_goals
        intro hsign
        simp only [List.mem_cons, List.not_mem_nil, or_false] at hsign
        rcases hsign with rfl | rfl | rfl
        all_goals cases hkeychar
    have hterms : Expr.readTerms src (.number n) (dropBlanks rest) =
        .complete (.number n) (dropBlanks rest) := by
      rw [Expr.readTerms_dropBlanks]
      exact Expr.readTerms_end fun x hx => (hrest x hx).2
    have hsum : ((Parsed.complete (.number n) rest).into id (Expr.readFactors src)).into id
        (Expr.readTerms src) = .complete (.number n) (dropBlanks rest) := by
      rw [← hterms]
      change (Expr.readFactors src (.number n) rest).into id (Expr.readTerms src) = _
      rw [Expr.readFactors_end fun x hx => (hrest x hx).1]
      rfl
    rw [hsum]
    dsimp only
    split
    · exact .inl ⟨n, rfl⟩
    · exact .inr ⟨_, rfl⟩
  · rw [hread]
    exact .inr ⟨error, rfl⟩

/-! ### Command lines -/

/-- The word and the argument of a line are those that it is made of. -/
theorem splitCommand_line (word : String) (hword : ∀ c ∈ word.toList, c.isAlpha = true)
    (hne : word.toList ≠ []) (arg : String) :
    splitCommand (commandText (word ++ " " ++ arg)) = (word, Text.trim arg) := by
  have hline : (word ++ " " ++ arg).toList = word.toList ++ ' ' :: arg.toList := by simp
  have hcommand : commandText (word ++ " " ++ arg) =
      Text.dropBlanksRight (word.toList ++ ' ' :: arg.toList) := by
    obtain ⟨c, w, htext⟩ := List.exists_cons_of_ne_nil hne
    have hc := hword c (htext ▸ List.mem_cons_self)
    rw [commandText, hline, htext, List.cons_append, List.dropWhile_cons_of_neg]
    intro hfront
    simp only [Bool.or_eq_true, decide_eq_true_eq] at hfront
    rcases hfront with (rfl | rfl) | rfl
    all_goals cases hc
  obtain ⟨trail, htext, -, htrail⟩ :=
    Text.exists_blanksRight (word.toList ++ ' ' :: arg.toList)
  have hfront : Front Char.isAlpha (word.toList ++ ' ' :: arg.toList) word.toList
      (' ' :: arg.toList) := ⟨rfl, hword, fun c hc => by cases hc; decide⟩
  obtain ⟨htake, hdrop⟩ := Text.takeWhile_trail (p := Char.isAlpha)
    (fun c hc => Text.of_isBlank (by decide) (htrail c hc))
    (Text.dropBlanksRight (word.toList ++ ' ' :: arg.toList))
  rw [← htext, hfront.takeWhile_eq] at htake
  rw [← htext, hfront.dropWhile_eq] at hdrop
  have harg : Text.trimBlanks ((Text.dropBlanksRight (word.toList ++ ' ' :: arg.toList)).dropWhile
      Char.isAlpha) = Text.trimBlanks arg.toList :=
    calc
      _ = Text.trimBlanks ([] ++ _ ++ trail) := (Text.trimBlanks_between (by simp) htrail _).symm
      _ = Text.trimBlanks ([' '] ++ arg.toList ++ []) := by rw [List.nil_append, ← hdrop]; simp
      _ = Text.trimBlanks arg.toList :=
        Text.trimBlanks_between (List.all_eq_true.mp rfl) (by simp) _
  rw [hcommand, splitCommand, ← htake, harg, String.ofList_toList, Text.trim]

/-- A text with a sign in it goes on with the sign where what is in front of it ends. -/
theorem exists_sign {s : List Char} (h : '=' ∈ s) :
    ∃ r, Front (fun c => decide (c ≠ '=')) s (s.takeWhile (· ≠ '=')) ('=' :: r) := by
  have hsplit := Front.split (fun c => decide (c ≠ '=')) s
  cases hrest : s.dropWhile (· ≠ '=') with
  | nil => exact absurd (List.dropWhile_eq_nil_iff.mp hrest _ h) (by decide)
  | cons c r =>
    have hc := hsplit.rest_stops c (by rw [hrest]; rfl)
    obtain rfl : c = '=' := by simpa using hc
    exact ⟨r, hrest ▸ hsplit⟩

/-- The variable and the expression of an assignment are those that it is made of, up to blanks. -/
theorem assignment_parts {name : String} (hname : '=' ∉ name.toList) (src : String) :
    assigned (Text.trim (name ++ " = " ++ src)) = Text.trim name ∧
      ∃ trail : List Char, (∀ c ∈ trail, isBlank c = true) ∧
        Expr.Follows trail (operand (Text.trim (name ++ " = " ++ src))).toList src.toList := by
  have hline : (name ++ " = " ++ src).toList =
      (name.toList ++ [' ']) ++ '=' :: ' ' :: src.toList := by simp
  obtain ⟨lead, trail, htext, hlead, -, htrail⟩ := Text.exists_trimmed (name ++ " = " ++ src).toList
  have htrim : (Text.trim (name ++ " = " ++ src)).toList =
      Text.trimBlanks (name ++ " = " ++ src).toList := String.toList_ofList
  set s := Text.trimBlanks (name ++ " = " ++ src).toList
  rw [assigned, operand, htrim]
  have hunsigned {t : List Char} (ht : ∀ c ∈ t, isBlank c = true) : '=' ∉ t := fun hmem =>
    absurd (ht _ hmem) (by decide)
  have hmem : '=' ∈ lead ++ s ++ trail := by rw [← htext, hline]; simp
  simp only [List.mem_append, hunsigned hlead, hunsigned htrail, false_or, or_false] at hmem
  obtain ⟨r, hparts⟩ := exists_sign hmem
  -- The sign that ends the variable is the first one of the trimmed text and of the whole one.
  have hwhole : Front (fun c => decide (c ≠ '=')) (name ++ " = " ++ src).toList
      (name.toList ++ [' ']) ('=' :: ' ' :: src.toList) := by
    refine ⟨hline, fun c hc => decide_eq_true ?_, fun c hc => by cases hc; rfl⟩
    rintro rfl
    simp [hname] at hc
  have htrimmed : Front (fun c => decide (c ≠ '=')) (name ++ " = " ++ src).toList
      (lead ++ s.takeWhile (· ≠ '=')) ('=' :: (r ++ trail)) := by
    refine ⟨?_, fun c hc => decide_eq_true ?_, fun c hc => by cases hc; rfl⟩
    · rw [htext]
      conv => lhs; rw [hparts.text_eq]
      simp
    · rintro rfl
      rcases List.mem_append.mp hc with hc | hc
      · exact hunsigned hlead hc
      · exact absurd (hparts.all_front _ hc) (by decide)
  have hfront := htrimmed.takeWhile_eq.symm.trans hwhole.takeWhile_eq
  have hrest := List.tail_eq_of_cons_eq (htrimmed.dropWhile_eq.symm.trans hwhole.dropWhile_eq)
  refine ⟨?_, trail, htrail, ?_⟩
  · rw [Text.trim, Text.trim, String.toList_ofList]
    refine congrArg String.ofList ?_
    calc
      _ = Text.trimBlanks (lead ++ s.takeWhile (· ≠ '=') ++ []) :=
        (Text.trimBlanks_between hlead (by simp) _).symm
      _ = Text.trimBlanks ([] ++ name.toList ++ [' ']) := by rw [hfront]; simp
      _ = Text.trimBlanks name.toList :=
        Text.trimBlanks_between (by simp) (List.all_eq_true.mp rfl) _
  · rw [String.toList_ofList, hparts.dropWhile_eq, Expr.Follows, List.drop_one, List.tail_cons,
      hrest]
    rfl

section Runs

variable {functions : UserFunctions} {arg line name key : String} {e e' : Editor} {d : DictRef}
  {v : Value} {s : Store}

theorem of_scopeOf_ok {place : DictRef × String} (h : Eval.scopeOf name e = .ok place e') :
    e.scopeOf name = .ok place ∧ e' = e := by
  rw [Eval.scopeOf, bind_apply, get_apply] at h
  dsimp only at h
  cases hscope : e.scopeOf name with
  | ok found =>
    rw [hscope] at h
    cases h
    exact ⟨rfl, rfl⟩
  | error reason =>
    rw [hscope] at h
    cases h

theorem of_store_ok {f : Store → Except LockError Store} (h : Eval.store f e = .ok () e') :
    ∃ s, f e.store = .ok s ∧ e' = { e with store := s } := by
  rw [Eval.store, bind_apply, get_apply] at h
  dsimp only at h
  cases hf : f e.store with
  | ok s =>
    rw [hf] at h
    cases h
    exact ⟨s, rfl, rfl⟩
  | error reason =>
    rw [hf] at h
    cases h

/-- What an assignment that succeeds has done. -/
theorem of_assign_ok (h : assign functions arg e = .ok () e') :
    ∃ v e₁ d key s, evalText functions (operand arg) e = .ok v e₁ ∧
      e₁.scopeOf (assigned arg) = .ok (d, key) ∧ e₁.store.insert d key v = .ok s ∧
      e' = { e₁ with store := s } := by
  unfold assign at h
  dsimp only at h
  split at h
  · obtain ⟨_, _, hfail, -⟩ := bind_ok h
    cases hfail
  · obtain ⟨v, e₁, hvalue, hrest⟩ := bind_ok h
    obtain ⟨⟨d, key⟩, e₂, hplace, hstore⟩ := bind_ok hrest
    obtain ⟨hscope, rfl⟩ := of_scopeOf_ok hplace
    obtain ⟨s, hinsert, rfl⟩ := of_store_ok hstore
    exact ⟨v, e₂, d, key, s, hvalue, hscope, hinsert, rfl⟩

/-- A variable that is there is removed when its scope can be written. -/
theorem unassign_eq_ok (hscope : e.scopeOf name = .ok (d, key))
    (hget : e.store.get? d key = some v) (herase : e.store.erase d key = .ok s) :
    unassign name e = .ok () { e with store := s } := by
  have hstore : Eval.store (fun s => s.erase d key) e = .ok () { e with store := s } := by
    rw [Eval.store, bind_apply, get_apply]
    dsimp only
    rw [herase]
    rfl
  rw [unassign, bind_apply, scopeOf_eq hscope]
  dsimp only
  rw [bind_apply, get_apply]
  dsimp only
  rw [bind_apply, hstore, hget]
  rfl

theorem readVariable_eq (hscope : e.scopeOf name = .ok (d, key)) :
    readVariable name e = match e.store.get? d key with
      | some v => .ok v e
      | none => .error (.error (.undefinedVariable name)) e := by
  rw [readVariable, bind_apply, scopeOf_eq hscope]
  dsimp only
  rw [bind_apply, get_apply]
  dsimp only
  cases e.store.get? d key with
  | some v => rfl
  | none => rfl

theorem runCommand_let (hline : splitCommand (commandText line) = ("let", arg)) :
    runCommand functions line = assign functions arg := by
  unfold runCommand
  dsimp only
  rw [if_neg (not_blank hline (by decide)), hline]
  rfl

theorem runCommand_unlet (hline : splitCommand (commandText line) = ("unlet", name)) :
    runCommand functions line = unassign name := by
  unfold runCommand
  dsimp only
  rw [if_neg (not_blank hline (by decide)), hline]
  rfl

end Runs

/-! ### Assigning, reading and removing -/

section Variables

variable {functions : UserFunctions} {e e' : Editor} {name src key : String} {d : DictRef}
  {v : Value} {s : Store}

/-- A name that an expression reads is the variable in its place. -/
theorem evalText_name (hname : Expr.IsName (Text.trim name))
    (hscope : e.scopeOf (Text.trim name) = .ok (d, key)) :
    evalText functions name e = match e.store.get? d key with
      | some v => .ok v e
      | none => .error (.error (.undefinedVariable (Text.trim name))) e := by
  rw [evalText, ofText_name hname, Expr.eval]
  exact readVariable_eq hscope

/-- What a line that assigns the value of an expression to a variable has done. -/
theorem of_let_ok (hname : '=' ∉ name.toList)
    (h : runCommand functions ("let " ++ name ++ " = " ++ src) e = .ok () e') :
    ∃ v e₁ d key s, evalText functions src e = .ok v e₁ ∧
      e₁.scopeOf (Text.trim name) = .ok (d, key) ∧ e₁.store.insert d key v = .ok s ∧
      e' = { e₁ with store := s } := by
  have hline : splitCommand (commandText ("let " ++ name ++ " = " ++ src)) =
      ("let", Text.trim (name ++ " = " ++ src)) := by
    have hsplit :=
      splitCommand_line "let" (List.all_eq_true.mp rfl) (by decide) (name ++ " = " ++ src)
    rwa [← String.append_assoc, ← String.append_assoc] at hsplit
  obtain ⟨hassigned, trail, htrail, hfollows⟩ := assignment_parts hname src
  rw [runCommand_let hline] at h
  obtain ⟨v, e₁, d, key, s, hvalue, hscope, hinsert, he'⟩ := of_assign_ok h
  exact ⟨v, e₁, d, key, s, evalText_blanks htrail hfollows hvalue, hassigned ▸ hscope, hinsert, he'⟩

/-- A line that removes a variable. -/
theorem runCommand_unlet_eq_ok (hscope : e.scopeOf (Text.trim name) = .ok (d, key))
    (hget : e.store.get? d key = some v) (herase : e.store.erase d key = .ok s) :
    runCommand functions ("unlet " ++ name) e = .ok () { e with store := s } := by
  have hline : splitCommand (commandText ("unlet " ++ name)) = ("unlet", Text.trim name) :=
    splitCommand_line "unlet" (List.all_eq_true.mp rfl) (by decide) name
  rw [runCommand_unlet hline]
  exact unassign_eq_ok hscope hget herase

end Variables

/-- Let no functions be defined by the user, and let an editor be reached from the first one. When
`:let` has succeeded for a name without a sign in it, the expression behind the sign has a value,
which is in the place of the name. All other variables of all scopes, no two of which are the same
dictionary, are as they were, and so is everything else but for what the expression has made or
appended. `:unlet` then removes the variable, and only that.

In between the name reads as the value, and after that as an undefined variable, unless the name
starts with a digit. Such a name reads as a number or fails, whatever has been assigned. -/
theorem Editor.let_reads_back {e e' : Editor} {name src : String} (hreached : Editor.new.Moves e)
    (hordered : e.store.Ordered) (hname : '=' ∉ name.toList)
    (hrun : runCommand Functions.empty ("let " ++ name ++ " = " ++ src) e = .ok () e') :
    ∃ v e₁ d key, evalText Functions.empty src e = .ok v e₁ ∧
      e'.scopeOf (Text.trim name) = .ok (d, key) ∧ e'.store.get? d key = some v ∧
      e.Keeps (d, key) e' ∧ e.scopes.Nodup ∧
      ∃ e'', runCommand Functions.empty ("unlet " ++ name) e' = .ok () e'' ∧
        e''.store.get? d key = none ∧ e'.Keeps (d, key) e'' ∧
        (¬NumberLike (Text.trim name) → evalText Functions.empty name e' = .ok v e' ∧
          evalText Functions.empty name e'' =
            .error (.error (.undefinedVariable (Text.trim name))) e'') ∧
        (NumberLike (Text.trim name) → (∃ n, evalText Functions.empty name = pure (.number n)) ∨
          ∃ reason, evalText Functions.empty name = Eval.fail reason) := by
  have hwell := hreached.wellFormed wellFormed_new
  have hscoped := hreached.scoped scoped_new
  have hmoves : e.Moves e' := by
    have hproceeds := proceeds_runCommand (Functions.proceed_empty Moves)
      ("let " ++ name ++ " = " ++ src) e hwell
    rw [hrun] at hproceeds
    exact hproceeds.2
  have hscoped' := hmoves.scoped hscoped
  obtain ⟨v, e₁, d, key, s, hvalue, hscope, hinsert, he'⟩ := of_let_ok hname hrun
  have happends : e.Appends e₁ := by
    have hproceeds := proceeds_evalText (Functions.proceed_empty Appends) src e hwell
    rw [hvalue] at hproceeds
    exact hproceeds.2
  have hd : d ∈ e.scopes := by
    have hmem := (of_scopeOf hscope).1
    rwa [happends.eq] at hmem
  have hsize := Nat.lt_of_lt_of_le (hscoped.exist d hd) happends.store.dicts_le
  have hdict : Entries.Ordered (e₁.store.dict d).entries := by
    rw [happends.store.dict d (hscoped.exist d hd)]
    exact hordered d
  have hkeeps : e.Keeps (d, key) e' :=
    he' ▸ .of_write happends hscoped hd (fun _ hne => Entries.get?_insert_of_ne hne v) hinsert
  obtain ⟨s', herase, hgone⟩ := Store.exists_erase hsize hdict hinsert
  have hstored := Store.get?_of_insert hsize hinsert
  obtain rfl : s = e'.store := by rw [he']
  have hscope : e'.scopeOf (Text.trim name) = .ok (d, key) := by
    rw [he', scopeOf_withStore, hscope]
  refine ⟨v, e₁, d, key, hvalue, hscope, hstored, hkeeps, hscoped.nodup,
    { e' with store := s' }, runCommand_unlet_eq_ok hscope hstored herase, hgone, ?_,
    fun hnumber => ?_, fun hnumber => evalText_numberLike hnumber _⟩
  · exact .of_write (Growth.refl e') hscoped' (of_scopeOf hscope).1
      (fun _ hne => Entries.get?_erase_of_ne hne) herase
  · have hname := (isName_of_scopeOf hscope).resolve_right hnumber
    have hscope' := (scopeOf_withStore e' s' (Text.trim name)).trans hscope
    rw [evalText_name hname hscope, hstored, evalText_name hname hscope', hgone]
    exact ⟨rfl, rfl⟩

/-- The dictionaries of the first editor are in order. -/
theorem Editor.ordered_new : Editor.new.store.Ordered := by
  have hvars : Entries.Ordered [("progname", .str "vimpy"), ("version", .number 900)] := by
    simp only [Entries.Ordered, List.map_cons, List.map_nil]
    decide
  have hnone : Entries.Ordered [] := List.Pairwise.nil
  exact ((((Store.ordered_empty.newDict hvars .default).newDict hnone .default).newDict hnone
    .default).newDict hnone .default).newDict hnone .default

/-- A list is read back and removed; a number under a number is not. -/
theorem Editor.let_reads_back_listed :
    Editor.new.Moves .new ∧ Editor.new.store.Ordered ∧ '=' ∉ "l".toList ∧
    runCommand Functions.empty ("let " ++ "l" ++ " = " ++ "[1]") .new = .ok () listed ∧
    ¬NumberLike (Text.trim "l") ∧
    (∃ v e', evalText Functions.empty "l" listed = .ok v listed ∧
      runCommand Functions.empty ("unlet " ++ "l") listed = .ok () e' ∧
      evalText Functions.empty "l" e' = .error (.error (.undefinedVariable "l")) e') ∧
    ∃ e', runCommand Functions.empty "let 9 = 5" .new = .ok () e' ∧
      evalText Functions.empty "9" e' = .ok (.number 9) e' := by
  have hrun : runCommand Functions.empty ("let " ++ "l" ++ " = " ++ "[1]") .new =
    .ok () listed := rfl
  have hletter : ¬NumberLike (Text.trim "l") := by
    rintro ⟨c, r, htext, hdigit, -⟩
    cases htext
    cases hdigit
  obtain ⟨v, -, -, -, -, -, -, -, -, e', hremoved, -, -, hname, -⟩ :=
    let_reads_back .refl ordered_new (by decide) hrun
  obtain ⟨hread, hundefined⟩ := hname hletter
  exact ⟨.refl, ordered_new, by decide, hrun, hletter, ⟨v, e', hread, hremoved, hundefined⟩,
    _, rfl, rfl⟩

end ScriptBridge.Host
