import ScriptBridge.Proofs.Host.Entries
import ScriptBridge.Proofs.Host.Locks
import ScriptBridge.Proofs.Host.Refusal

/-!
# What evaluation leaves alone

An expression can only make containers and append to lists, whatever it reads before it fails. A
command that fails has done no more than that: what else it does to the editor comes last, and is
refused as a whole.

The globals, the variables of the editor, and those of each buffer, window and tab page are
dictionaries of the store, and no two of them are the same one: what is made comes with a new
dictionary, and a dictionary that is there is never made a scope.
-/

namespace ScriptBridge.Host

/-! ### Variable scopes -/

/-- No step of the store takes a dictionary away. -/
theorem Store.Step.dicts_le {s s' : Store} (h : s.Step s') : s.dicts.size ≤ s'.dicts.size := by
  cases h with
  | newList items => exact Nat.le_refl _
  | newDict entries scope => simp [Store.newDict]
  | writeList l change h =>
    obtain ⟨-, items, -, rfl⟩ := writeList_eq_ok.mp h
    exact Nat.le_refl _
  | writeDict d change h =>
    obtain ⟨-, rfl⟩ := writeDict_eq_ok.mp h
    exact Nat.le_of_eq (dicts_size_setDict s d _).symm
  | lockList l lock h =>
    obtain ⟨-, rfl⟩ := lockList_eq_ok.mp h
    exact Nat.le_refl _
  | lockDict d lock h =>
    obtain ⟨-, rfl⟩ := lockDict_eq_ok.mp h
    exact Nat.le_of_eq (dicts_size_setDict s d _).symm

namespace Editor

/-- The dictionaries that hold variables. -/
def scopes (e : Editor) : List DictRef :=
  e.globals :: e.editorVars ::
    (e.buffers.map (·.vars) ++ e.windows.map (·.vars) ++ e.tabs.map (·.vars))

/-- The scopes are dictionaries of the store, each with an owner of its own. -/
structure Scoped (e : Editor) : Prop where
  exist : ∀ d ∈ e.scopes, d.id < e.store.dicts.size
  nodup : e.scopes.Nodup

variable {e e' : Editor}

/-- The first editor has a dictionary for each of its five scopes. -/
theorem scoped_new : Editor.new.Scoped := ⟨by decide, by decide⟩

/-- No scope is new, and no dictionary goes. -/
theorem Scoped.of_sublist (h : e.Scoped) (hscopes : e'.scopes.Sublist e.scopes)
    (hsize : e.store.dicts.size ≤ e'.store.dicts.size) : e'.Scoped :=
  ⟨fun d hd => Nat.lt_of_lt_of_le (h.exist d (hscopes.subset hd)) hsize, h.nodup.sublist hscopes⟩

/-- One scope is new, and it is the dictionary that the store makes next. -/
theorem Scoped.of_new (h : e.Scoped)
    (hscopes : e'.scopes.Perm (⟨e.store.dicts.size⟩ :: e.scopes))
    (hsize : e'.store.dicts.size = e.store.dicts.size + 1) : e'.Scoped := by
  have hfresh : (⟨e.store.dicts.size⟩ : DictRef) ∉ e.scopes := fun hmem =>
    Nat.lt_irrefl _ (h.exist _ hmem)
  refine ⟨fun d hd => ?_, hscopes.nodup_iff.mpr (List.nodup_cons.mpr ⟨hfresh, h.nodup⟩)⟩
  rw [hsize]
  rcases List.mem_cons.mp (hscopes.subset hd) with rfl | hd
  · exact Nat.lt_succ_self _
  · exact Nat.lt_succ_of_lt (h.exist d hd)

/-! ### What an edit does to the scopes -/

theorem addBuffer_scopes (e : Editor) (name : String) (lines : List String) :
    (e.addBuffer name lines).2.scopes.Perm (⟨e.store.dicts.size⟩ :: e.scopes) := by
  have hscopes : (e.addBuffer name lines).2.scopes =
      (e.globals :: e.editorVars :: e.buffers.map (·.vars)) ++ ⟨e.store.dicts.size⟩ ::
        (e.windows.map (·.vars) ++ e.tabs.map (·.vars)) := by
    simp [scopes, addBuffer, newScope, Store.newDict]
  rw [hscopes]
  refine List.perm_middle.trans (.of_eq ?_)
  simp [scopes]

theorem addWindow_scopes (e : Editor) (buffer : Nat) :
    (e.addWindow buffer).2.scopes.Perm (⟨e.store.dicts.size⟩ :: e.scopes) := by
  have hscopes : (e.addWindow buffer).2.scopes =
      (e.globals :: e.editorVars :: (e.buffers.map (·.vars) ++ e.windows.map (·.vars))) ++
        ⟨e.store.dicts.size⟩ :: e.tabs.map (·.vars) := by
    simp [scopes, addWindow, newScope, Store.newDict]
  rw [hscopes]
  refine List.perm_middle.trans (.of_eq ?_)
  simp [scopes]

theorem addTab_scopes (e : Editor) (window : Nat) :
    (e.addTab window).2.scopes.Perm (⟨e.store.dicts.size⟩ :: e.scopes) := by
  have hscopes : (e.addTab window).2.scopes = e.scopes ++ [⟨e.store.dicts.size⟩] := by
    simp [scopes, addTab, newScope, Store.newDict]
  rw [hscopes]
  exact List.perm_append_singleton _ _

theorem mapBuffer_scopes (e : Editor) (id : Nat) {f : Buffer → Buffer}
    (hf : ∀ b, (f b).vars = b.vars) : (e.mapBuffer id f).scopes = e.scopes := by
  simp only [scopes, mapBuffer]
  rw [Lookup.map_key_map _ fun b => by split <;> simp [hf]]

theorem mapWindow_scopes (e : Editor) (id : Nat) {f : Window → Window}
    (hf : ∀ w, (f w).vars = w.vars) : (e.mapWindow id f).scopes = e.scopes := by
  simp only [scopes, mapWindow]
  rw [Lookup.map_key_map _ fun w => by split <;> simp [hf]]

theorem mapTab_scopes (e : Editor) (id : Nat) {f : TabPage → TabPage}
    (hf : ∀ t, (f t).vars = t.vars) : (e.mapTab id f).scopes = e.scopes := by
  simp only [scopes, mapTab]
  rw [Lookup.map_key_map _ fun t => by split <;> simp [hf]]

/-- Whatever is left of buffers, windows and tab pages, in the order in which they were. -/
theorem scopes_sublist (hglobals : e'.globals = e.globals) (heditor : e'.editorVars = e.editorVars)
    (hbuffers : (e'.buffers.map (·.vars)).Sublist (e.buffers.map (·.vars)))
    (hwindows : (e'.windows.map (·.vars)).Sublist (e.windows.map (·.vars)))
    (htabs : (e'.tabs.map (·.vars)).Sublist (e.tabs.map (·.vars))) :
    e'.scopes.Sublist e.scopes := by
  rw [scopes, scopes, hglobals, heditor]
  exact (((hbuffers.append hwindows).append htabs).cons_cons _).cons_cons _

theorem withLines_scopes (e : Editor) (id : Nat) (lines : List String) :
    (e.withLines id lines).scopes = e.scopes := by
  have hwindows : (e.windows.map (Change.clampCursor id lines.length)).map (·.vars) =
      e.windows.map (·.vars) :=
    Lookup.map_key_map _ fun w => by unfold Change.clampCursor; split <;> rfl
  have hlines := e.mapBuffer_scopes id (f := fun b => { b with lines, changed := true }) fun _ => rfl
  rw [← hlines]
  simp only [scopes, withLines]
  exact congrArg (fun ds => _ :: _ :: (_ ++ ds ++ _)) hwindows

/-- An edit makes scopes only out of new dictionaries. -/
theorem Edit.scoped (h : e.Edit e') (hscoped : e.Scoped) : e'.Scoped := by
  have hsame (hscopes : e'.scopes = e.scopes) (hstore : e'.store = e.store) : e'.Scoped :=
    hscoped.of_sublist (hscopes ▸ .refl _) (hstore ▸ Nat.le_refl _)
  cases h with
  | addBuffer name lines =>
    exact hscoped.of_new (addBuffer_scopes e name lines) (Array.size_push _)
  | @split page pos buffer =>
    have hwindow := hscoped.of_new (addWindow_scopes e buffer) (Array.size_push _)
    have hscopes : (e.withSplit page.id pos buffer).scopes = (e.addWindow buffer).2.scopes :=
      mapTab_scopes _ _ fun _ => rfl
    exact hwindow.of_sublist (hscopes ▸ .refl _) (Nat.le_refl _)
  | @tab buffer =>
    have hwindow := hscoped.of_new (addWindow_scopes e buffer) (Array.size_push _)
    exact hwindow.of_new (addTab_scopes (e.addWindow buffer).2 e.nextWindow) (Array.size_push _)
  | renameBuffer id name => exact hsame (mapBuffer_scopes e id fun _ => rfl) rfl
  | @lines id lines => exact hsame (withLines_scopes e id lines) rfl
  | @wipe id other =>
    have hwindows : (e.withoutBuffer id other.number).windows.map (·.vars) =
        e.windows.map (·.vars) := Lookup.map_key_map _ fun w => by split <;> rfl
    exact hscoped.of_sublist (scopes_sublist rfl rfl (List.filter_sublist.map _)
      (hwindows ▸ .refl _) (.refl _)) (Nat.le_refl _)
  | @closeTab before after page next htabs =>
    refine hscoped.of_sublist (scopes_sublist rfl rfl (.refl _) (List.filter_sublist.map _) ?_)
      (Nat.le_refl _)
    rw [htabs]
    exact ((List.sublist_cons_self page after).append_left before).map _
  | @closeWindow page id current =>
    have htabs : (e.withoutWindow page.id id (page.windows.erase id) current).tabs.map (·.vars) =
        e.tabs.map (·.vars) := Lookup.map_key_map _ fun t => by split <;> rfl
    exact hscoped.of_sublist (scopes_sublist rfl rfl (.refl _) (List.filter_sublist.map _)
      (htabs ▸ .refl _)) (Nat.le_refl _)
  | cursor => exact hsame (mapWindow_scopes e _ fun _ => rfl) rfl
  | currentWindow => exact hsame (mapTab_scopes e _ fun _ => rfl) rfl
  | currentTab => exact hsame rfl rfl
  | showBuffer => exact hsame (mapWindow_scopes e _ fun _ => rfl) rfl
  | height id height => exact hsame (mapWindow_scopes e id fun _ => rfl) rfl
  | width id width => exact hsame (mapWindow_scopes e id fun _ => rfl) rfl

/-! ### Every run -/

/-- Every move keeps the scopes apart. -/
theorem Move.scoped (h : e.Move e') (hscoped : e.Scoped) : e'.Scoped := by
  cases h with
  | edit h => exact h.scoped hscoped
  | store h => exact hscoped.of_sublist (.refl _) h.dicts_le
  | say m => exact hscoped.of_sublist (.refl _) (Nat.le_refl _)
  | taken => exact hscoped.of_sublist (.refl _) (Nat.le_refl _)

theorem Moves.scoped (h : e.Moves e') (hscoped : e.Scoped) : e'.Scoped := by
  induction h with
  | refl => exact hscoped
  | tail _ hmove ih => exact hmove.scoped ih

end Editor

open ScriptBridge.Computation

/-! ### Additions to the store -/

/-- Dictionaries are as they were; lists have the items that they had, and perhaps more behind
them. -/
structure Store.Appended (s s' : Store) : Prop where
  lists_le : s.lists.size ≤ s'.lists.size
  dicts_le : s.dicts.size ≤ s'.dicts.size
  dict : ∀ d : DictRef, d.id < s.dicts.size → s'.dict d = s.dict d
  items : ∀ l : ListRef, l.id < s.lists.size → (s.list l).items <+: (s'.list l).items
  lock : ∀ l : ListRef, l.id < s.lists.size → (s'.list l).lock = (s.list l).lock
  /-- A list that is locked or fixed is as it was. -/
  shut : ∀ l : ListRef, l.id < s.lists.size → (s.list l).lock ≠ .unlocked → s'.list l = s.list l

namespace Store.Appended

variable {s s' s'' : Store}

/-- Containers that are the same are no shorter. -/
theorem of_grown (h : s.Grown s') : s.Appended s' where
  lists_le := h.lists_le
  dicts_le := h.dicts_le
  dict := h.dict
  items l hl := h.list l hl ▸ List.prefix_rfl
  lock l hl := h.list l hl ▸ rfl
  shut l hl _ := h.list l hl

theorem trans (h : s.Appended s') (h' : s'.Appended s'') : s.Appended s'' where
  lists_le := Nat.le_trans h.lists_le h'.lists_le
  dicts_le := Nat.le_trans h.dicts_le h'.dicts_le
  dict d hd := (h'.dict d (Nat.lt_of_lt_of_le hd h.dicts_le)).trans (h.dict d hd)
  items l hl := (h.items l hl).trans (h'.items l (Nat.lt_of_lt_of_le hl h.lists_le))
  lock l hl := (h'.lock l (Nat.lt_of_lt_of_le hl h.lists_le)).trans (h.lock l hl)
  shut l hl hshut := by
    have hsame := h.shut l hl hshut
    exact (h'.shut l (Nat.lt_of_lt_of_le hl h.lists_le) (hsame ▸ hshut)).trans hsame

/-- Only an unlocked list gets one more item. -/
theorem push {l : ListRef} {v : Value} (h : s.push l v = .ok s') : s.Appended s' := by
  obtain ⟨hlock, items, hitems, rfl⟩ := writeList_eq_ok.mp h
  cases hitems
  set cell : ListCell := { s.list l with items := (s.list l).items ++ [v] } with hcell
  have hlist (l' : ListRef) (hl : l'.id < s.lists.size) :
      (s.setList l cell).list l' = if l' = l then cell else s.list l' := by
    split
    · rename_i hsame
      subst hsame
      exact list_setList_self hl cell
    · rename_i hother
      exact list_setList_of_ne hother cell
  refine ⟨Nat.le_of_eq (lists_size_setList ..).symm, Nat.le_refl _, fun _ _ => rfl, fun l' hl => ?_,
    fun l' hl => ?_, fun l' hl hshut => ?_⟩
  all_goals
    rw [hlist l' hl]
    split
  · rename_i hsame
    exact hsame ▸ List.prefix_append _ _
  · exact List.prefix_rfl
  · rename_i hsame
    exact hsame ▸ rfl
  · rfl
  · rename_i hsame
    exact absurd hlock (hsame ▸ hshut)
  · rfl

theorem of_addition (h : s.Addition s') : s.Appended s' := by
  cases h with
  | newList items => exact .of_grown (.newList items)
  | newDict entries scope => exact .of_grown (.newDict entries scope)
  | push l v h => exact .push h

end Store.Appended

/-- Only the containers of the editor have changed, and only by additions. -/
structure Editor.Appends (e e' : Editor) : Prop where
  /-- Buffers, windows, tab pages, what is current, messages and all else are as they were. -/
  eq : e' = { e with store := e'.store }
  store : e.store.Appended e'.store

instance : Editor.Growth Editor.Appends where
  refl _ := ⟨rfl, .of_grown .refl⟩
  trans h h' := ⟨by rw [h'.eq, h.eq], h.store.trans h'.store⟩
  add h := ⟨rfl, .of_addition h⟩

/-! ### Computations that fail -/

/-- A computation that keeps to a relation if it fails. -/
def FailsWithin {ε α : Type} (R : Editor → Editor → Prop) (a : EStateM ε Editor α) : Prop :=
  ∀ e : Editor, e.WellFormed → ∀ err e', a e = .error err e' → R e e'

section Growth

variable {ε α β : Type} {R : Editor → Editor → Prop} [Editor.Growth R]

namespace FailsWithin

omit [Editor.Growth R] in
theorem of_proceeds {a : EStateM ε Editor α} (ha : Proceeds R a) : FailsWithin R a := by
  intro e he err e' h
  have hrest := (ha e he).2
  rwa [h] at hrest

omit [Editor.Growth R] in
/-- A computation that always succeeds. -/
theorem of_ok {a : EStateM ε Editor α} (h : ∀ e, ∃ x e', a e = .ok x e') : FailsWithin R a := by
  intro e he err e' herr
  obtain ⟨x, e'', hok⟩ := h e
  rw [hok] at herr
  cases herr

/-- What comes first keeps to the relation anyway. -/
theorem bind {a : EStateM ε Editor α} {f : α → EStateM ε Editor β} (ha : Proceeds R a)
    (hf : ∀ x, FailsWithin R (f x)) : FailsWithin R (a >>= f) := by
  intro e he err e' h
  obtain ⟨hwell, hfirst⟩ := ha e he
  rw [bind_apply] at h
  cases hrun : a e with
  | ok x e₁ =>
    rw [hrun] at h hwell hfirst
    exact Editor.Growth.trans hfirst (hf x e₁ hwell err e' h)
  | error err' e₁ =>
    rw [hrun] at h hfirst
    cases h
    exact hfirst

omit [Editor.Growth R] in
/-- What comes next always succeeds. -/
theorem bind_pure {a : EStateM ε Editor α} (ha : FailsWithin R a) (y : β) :
    FailsWithin R (a >>= fun _ => pure y) := by
  intro e he err e' h
  rw [bind_apply] at h
  cases hrun : a e with
  | ok x e₁ =>
    rw [hrun] at h
    cases h
  | error err' e₁ =>
    rw [hrun] at h
    cases h
    exact ha e he _ _ hrun

/-- An operation that is refused changes nothing. -/
theorem of_edits {c : Change α} (h : ∀ e : Editor, e.WellFormed → Change.Edits e (c e)) :
    FailsWithin R c := by
  intro e he err e' hc
  have hedits := h e he
  rw [hc] at hedits
  cases (hedits : e' = e)
  exact Editor.Growth.refl e

omit [Editor.Growth R] in
/-- An operation that needs only a buffer is not refused one that was just added. -/
theorem addBuffer {name : String} {lines : List String} {f : Nat → Change α}
    (hf : ∀ id e, Editor.WellFormed e → Change.refused? (f id e) = e.missing? (.buffer id)) :
    FailsWithin R (Change.addBuffer name lines >>= f) := by
  intro e he err e' h
  have hadded : (e.addBuffer name lines).2.WellFormed :=
    Editor.Edit.wellFormed (.addBuffer name lines) he
  have hhas : (e.addBuffer name lines).2.has (.buffer e.nextBuffer) = true :=
    Editor.has_buffer.mpr (by simp [Editor.addBuffer, Editor.newScope])
  have hrefused := hf e.nextBuffer _ hadded
  rw [Editor.missing?, EditorError.unless, if_pos hhas] at hrefused
  have hrun : f e.nextBuffer (e.addBuffer name lines).2 = .error err e' := h
  rw [hrun] at hrefused
  cases hrefused

omit [Editor.Growth R] in
theorem change {c : Change α} (hc : FailsWithin R c) : FailsWithin R (Eval.change c) := by
  intro e he err e' h
  unfold Eval.change at h
  cases hrun : c e with
  | ok x e₁ =>
    rw [hrun] at h
    cases h
  | error err' e₁ =>
    rw [hrun] at h
    cases h
    exact hc e he _ _ hrun

/-- A change of the containers that is refused changes nothing. -/
theorem store (f : Store → Except LockError Store) : FailsWithin R (Eval.store f) := by
  intro e he err e' h
  simp only [Eval.store, bind_apply, get_apply] at h
  cases hf : f e.store with
  | ok s =>
    rw [hf] at h
    cases h
  | error reason =>
    rw [hf] at h
    cases h
    exact Editor.Growth.refl e

omit [Editor.Growth R] in
theorem say (m : Message) : FailsWithin R (Eval.say m) := of_ok fun _ => ⟨_, _, rfl⟩

/-- A check in front of a computation. -/
theorem guard {c : Prop} [Decidable c] {reason : HostError} {f : Unit → Eval α}
    (hf : FailsWithin R (f ())) :
    FailsWithin R (if c then Eval.fail reason >>= f else f ()) := by
  split
  · intro e he err e' h
    cases h
    exact Editor.Growth.refl e
  · exact hf

end FailsWithin

/-! ### Commands that fail -/

variable {functions : UserFunctions}

theorem failsWithin_assign (hf : functions.Proceed R) (arg : String) :
    FailsWithin R (assign functions arg) := by
  unfold assign
  refine .guard ?_
  exact .bind (proceeds_evalText hf _) fun _ => .bind (Eval.proceeds_scopeOf _) fun _ => .store _

/-- Removing a variable that is not there changes nothing. -/
theorem failsWithin_unassign (name : String) : FailsWithin R (unassign name) := by
  refine .bind (Eval.proceeds_scopeOf name) fun place e he err e' h => ?_
  obtain ⟨d, key⟩ := place
  dsimp only at h
  rw [bind_apply, get_apply] at h
  dsimp only at h
  rw [Eval.store, bind_apply, bind_apply, get_apply] at h
  dsimp only at h
  cases herase : e.store.erase d key with
  | error reason =>
    rw [herase] at h
    cases h
    exact Editor.Growth.refl e
  | ok s =>
    rw [herase] at h
    simp only [modify_apply] at h
    cases hold : e.store.get? d key with
    | none =>
      rw [hold] at h
      cases h
      rw [Store.eq_of_erase hold herase]
      exact Editor.Growth.refl e
    | some v =>
      rw [hold] at h
      cases h

/-- A command that fails keeps to the relation, as expressions do. -/
theorem failsWithin_runCommand (hf : functions.Proceed R) (line : String) :
    FailsWithin R (runCommand functions line) := by
  unfold runCommand
  dsimp only
  split
  · exact .of_proceeds (.pure _)
  generalize splitCommand (commandText line) = parts
  obtain ⟨word, arg⟩ := parts
  dsimp only
  split
  iterate 3 exact .bind (proceeds_echoAll hf _) fun _ => .say _
  iterate 2 exact .bind (proceeds_evalText hf _) fun _ => .bind .get fun _ => .say _
  · exact failsWithin_assign hf _
  iterate 2 exact failsWithin_unassign _
  iterate 2 exact .of_proceeds (.bind (proceeds_evalText hf _) fun _ => .pure _)
  · refine .change (.addBuffer fun id e he => ?_)
    exact (Change.refused?_discard _ e).trans (Change.refused?_splitWindow he id)
  iterate 2
    exact .change (.bind .get fun _ =>
      .bind_pure (.of_edits fun _ he => Change.splitWindow_edits he _) _)
  iterate 2
    exact .change (.bind .get fun _ => .of_edits fun _ he => Change.closeWindow_edits he _)
  · refine .change (.addBuffer fun id e he => (Change.refused?_discard _ e).trans ?_)
    exact (Change.buffer_looksUp id).refused?_eq fun _ _ => rfl
  iterate 2 exact .change (.bind .get fun _ => .of_edits fun _ he => Change.closeTab_edits he _)
  iterate 2
    exact .bind (proceeds_bufferNumber _) fun _ =>
      .change (.of_edits fun _ _ => Change.setCurrentBuffer_edits _)
  iterate 3
    have hwipe (n : Nat) : FailsWithin R (Eval.change (Change.wipeBuffer n)) :=
      .change (.of_edits fun _ _ => Change.wipeBuffer_edits n)
    split
    · exact .bind .get fun _ => hwipe _
    · exact .bind (proceeds_bufferNumber _) fun _ => hwipe _
  · exact .of_proceeds (Eval.proceeds_fail _)

end Growth

/-- No function that is defined by the user needs to be considered. -/
theorem Functions.proceed_empty (R : Editor → Editor → Prop) : Functions.empty.Proceed R := by
  intro name f h
  cases h

/-- Let no functions be defined by the user, and let an editor be reached from the first one. Its
variable scopes are dictionaries of the store. Evaluating any text, whether that succeeds or fails,
and any command that fails, leave everything in the editor as it was but for its containers; of
these, dictionaries are as they were, and lists at most have more items behind those that they
had. -/
theorem Editor.evaluation_appends {e : Editor} (h : Editor.new.Moves e) :
    (∀ d ∈ e.scopes, d.id < e.store.dicts.size) ∧
    (∀ src : String, e.Appends (final (evalText Functions.empty src e))) ∧
    ∀ (line : String) (reason : Stop HostError) (e' : Editor),
      runCommand Functions.empty line e = .error reason e' → e.Appends e' := by
  have he := h.wellFormed wellFormed_new
  have hnone := Functions.proceed_empty Appends
  exact ⟨(h.scoped scoped_new).exist, fun src => (proceeds_evalText hnone src e he).2,
    fun line => failsWithin_runCommand hnone line e he⟩

/-- The first editor after a list has been put into a variable. -/
def Editor.listed : Editor := final (runCommand Functions.empty "let l = [1]" .new)

/-- What was appended before a failure stays. -/
theorem Editor.evaluation_appends_listed :
    Editor.new.Moves listed ∧
    (listed.store.list ⟨0⟩).items.map Value.asNumber? = [some 1] ∧
    ((final (evalText Functions.empty "[add(l, 2), nope]" listed)).store.list ⟨0⟩).items.map
      Value.asNumber? = [some 1, some 2] ∧
    listed.Appends (final (evalText Functions.empty "[add(l, 2), nope]" listed)) := by
  have hreached : Editor.new.Moves listed :=
    (proceeds_runCommand (Functions.proceed_empty _) _ .new wellFormed_new).2
  exact ⟨hreached, by decide +kernel, by decide +kernel, (evaluation_appends hreached).2.1 _⟩

end ScriptBridge.Host
