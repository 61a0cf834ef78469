import Mathlib.Data.List.Pairwise
import ScriptBridge.Proofs.Host.WellFormed

/-!
# Operations and runs of them

Every operation on a well-formed editor makes one edit or is refused without a change. A run of
operations from the first editor therefore only reaches well-formed editors.
-/

namespace ScriptBridge.Host

open ScriptBridge.Computation Editor

namespace Change

/-- An outcome that is one edit, or a refusal that changed nothing. -/
def Edits {α : Type} (e : Editor) : EStateM.Result EditorError Editor α → Prop
  | .ok _ e' => Edit e e'
  | .error _ e' => e' = e

variable {e : Editor}

theorem buffer_eq (id : Nat) (e : Editor) : Change.buffer id e =
    match e.buffer? id with | some b => .ok b e | none => .error (.noSuchBuffer id) e := by
  simp only [Change.buffer, bind_apply, get_apply]
  cases e.buffer? id <;> rfl

theorem window_eq (id : Nat) (e : Editor) : Change.window id e =
    match e.window? id with | some w => .ok w e | none => .error (.noSuchWindow id) e := by
  simp only [Change.window, bind_apply, get_apply]
  cases e.window? id <;> rfl

theorem tab_eq (id : Nat) (e : Editor) : Change.tab id e =
    match e.tab? id with | some t => .ok t e | none => .error (.noSuchTab id) e := by
  simp only [Change.tab, bind_apply, get_apply]
  cases e.tab? id <;> rfl

theorem addBuffer_edits (name : String) (lines : List String) :
    Edits e (addBuffer name lines e) :=
  .addBuffer name lines

theorem renameBuffer_edits (id : Nat) (name : String) : Edits e (renameBuffer id name e) := by
  simp only [renameBuffer, bind_apply, buffer_eq]
  cases e.buffer? id with
  | none => rfl
  | some b => exact .renameBuffer id name

/-- The lines of a buffer after some of them were replaced: at least one. -/
def spliced (lines : List String) (lo hi : Nat) (new : List String) : List String :=
  let lines := lines.take lo ++ new ++ lines.drop hi
  if lines.isEmpty then [""] else lines

theorem spliced_ne_nil (lines : List String) (lo hi : Nat) (new : List String) :
    spliced lines lo hi new ≠ [] := by
  unfold spliced
  dsimp only
  split
  · exact List.cons_ne_nil _ _
  · rename_i hne
    simpa using hne

/-- Replacing lines succeeds exactly when the bounds are in order and in the buffer. -/
theorem replaceLines_eq (id lo hi : Nat) (new : List String) (e : Editor) :
    replaceLines id lo hi new e =
      match e.buffer? id with
      | none => .error (.noSuchBuffer id) e
      | some b =>
        if b.lines.length < lo || b.lines.length < hi || hi < lo then
          .error (.invalidLine (max hi lo)) e
        else .ok () (e.withLines id (spliced b.lines lo hi new)) := by
  simp only [replaceLines, bind_apply, buffer_eq]
  cases e.buffer? id with
  | none => rfl
  | some b =>
    dsimp only
    split <;> rfl

theorem replaceLines_edits (id lo hi : Nat) (new : List String) :
    Edits e (replaceLines id lo hi new e) := by
  rw [replaceLines_eq]
  cases hb : e.buffer? id with
  | none => rfl
  | some b =>
    dsimp only
    split
    · rfl
    · exact .lines (Option.isSome_of_eq_some hb) (spliced_ne_nil _ _ _ _)

theorem wipeBuffer_edits (id : Nat) : Edits e (wipeBuffer id e) := by
  simp only [wipeBuffer, bind_apply, buffer_eq]
  cases hb : e.buffer? id with
  | none => rfl
  | some b =>
    simp only [get_apply]
    cases hother : e.buffers.find? (·.number != id) with
    | none => rfl
    | some other =>
      have hne : other.number ≠ id := by simpa using List.find?_some hother
      exact .wipe (Option.isSome_of_eq_some hb) (List.mem_of_find?_eq_some hother) hne

theorem splitWindow_edits (he : e.WellFormed) (buffer : Nat) :
    Edits e (splitWindow buffer e) := by
  obtain ⟨page, hpage⟩ := he.tab?_currentTab
  have hmem := he.tab?_eq_some.mp hpage
  have hnew : (e.addWindow buffer).2.tab? e.currentTab = some page := hpage
  simp only [splitWindow, bind_apply, buffer_eq]
  cases hb : e.buffer? buffer with
  | none => rfl
  | some b =>
    have hcurrent : (e.addWindow buffer).2.currentTab = e.currentTab := rfl
    simp only [modifyGet_apply, get_apply, tab_eq, hcurrent, hnew, modify_apply, pure_apply]
    have hpos : (page.windows.findIdx? (· == page.current)).getD 0 ≤ page.windows.length := by
      cases hfind : page.windows.findIdx? (· == page.current) with
      | none => exact Nat.zero_le _
      | some pos =>
        obtain ⟨hlt, -⟩ := List.findIdx?_eq_some_iff_getElem.mp hfind
        exact Nat.le_of_lt hlt
    exact .split (Option.isSome_of_eq_some hb) hmem.1 hpos

theorem dropWindows_eq (ids : List Nat) (e : Editor) :
    dropWindows ids e = .ok () (e.withoutWindows ids) := by
  induction ids generalizing e with
  | nil =>
    change EStateM.Result.ok () e = _
    simp [Editor.withoutWindows]
  | cons id ids ih =>
    change dropWindows ids _ = _
    rw [ih]
    simp [Editor.withoutWindows, Editor.announce, List.filter_filter, Bool.and_comm, bne,
      beq_eq_decide]

/-- The tab pages around the one at an index. -/
theorem tabs_around (he : e.WellFormed) {id index : Nat} {page : TabPage}
    (hindex : e.tabs.findIdx? (·.id == id) = some index) (hpage : e.tab? id = some page) :
    e.tabs = e.tabs.take index ++ page :: e.tabs.drop (index + 1) := by
  obtain ⟨hlt, hid, -⟩ := List.findIdx?_eq_some_iff_getElem.mp hindex
  have hmem := he.tab?_eq_some.mp hpage
  have heq : e.tabs[index] = page :=
    List.inj_on_of_nodup_map he.layout.nodup (List.getElem_mem hlt) hmem.1 (by
      rw [hmem.2]
      simpa using hid)
  rw [← heq, List.getElem_cons_drop, List.take_append_drop]

/-- The tab page that is current once the one at `index` is gone: the one in its place, or the
last one. -/
def successor (e : Editor) (id index : Nat) : Nat :=
  let tabs := e.tabs.eraseIdx index
  if e.currentTab = id then
    ((tabs[min index (tabs.length - 1)]?).map TabPage.id).getD e.currentTab
  else e.currentTab

/-- A tab page that is not the only one goes with its windows. -/
theorem closeTab_eq {id index : Nat} {page : TabPage}
    (hindex : e.tabs.findIdx? (·.id == id) = some index) (hpage : e.tab? id = some page)
    (hid : page.id = id) (hlast : e.tabs.length ≠ 1) :
    closeTab id e = .ok () (e.withoutTab page (e.tabs.eraseIdx index) (successor e id index)) := by
  subst hid
  simp only [closeTab, bind_apply, get_apply, hindex, hpage, hlast, if_false, modify_apply,
    dropWindows_eq, withoutTab, successor]
  split
  · rename_i hcurrent
    have hcurrent : e.currentTab = page.id := hcurrent
    rw [if_pos hcurrent]
    rfl
  · rename_i hcurrent
    have hcurrent : e.currentTab ≠ page.id := hcurrent
    rw [if_neg hcurrent]
    rfl

/-- The successor is one of the tab pages that stay. -/
theorem exists_successor (he : e.WellFormed) {id index : Nat} {page : TabPage}
    (hsplit : e.tabs = e.tabs.take index ++ page :: e.tabs.drop (index + 1)) (hid : page.id = id)
    (hlast : e.tabs.length ≠ 1) :
    ∃ next ∈ e.tabs.eraseIdx index, next.id = successor e id index := by
  have hrest : (e.tabs.eraseIdx index).length ≠ 0 := by
    have hlength := congrArg List.length hsplit
    rw [List.eraseIdx_eq_take_drop_succ]
    simp only [List.length_append, List.length_cons] at hlength ⊢
    omega
  by_cases hcurrent : e.currentTab = id
  · obtain ⟨next, hnext⟩ : ∃ next,
        (e.tabs.eraseIdx index)[min index ((e.tabs.eraseIdx index).length - 1)]? = some next :=
      ⟨_, List.getElem?_eq_getElem (by omega)⟩
    refine ⟨next, List.mem_of_getElem? hnext, ?_⟩
    simp [successor, hcurrent, hnext]
  · obtain ⟨next, hnext, hnextid⟩ := List.mem_map.mp he.layout.current_mem
    refine ⟨next, ?_, by simp [successor, hcurrent, hnextid]⟩
    rw [List.eraseIdx_eq_take_drop_succ]
    rw [hsplit] at hnext
    simp only [List.mem_append, List.mem_cons] at hnext ⊢
    rcases hnext with hnext | rfl | hnext
    · exact .inl hnext
    · exact absurd (hnextid.symm.trans hid) hcurrent
    · exact .inr hnext

theorem closeTab_edits (he : e.WellFormed) (id : Nat) : Edits e (closeTab id e) := by
  cases hindex : e.tabs.findIdx? (·.id == id) with
  | none =>
    simp only [closeTab, bind_apply, get_apply, hindex]
    rfl
  | some index =>
    cases hpage : e.tab? id with
    | none =>
      simp only [closeTab, bind_apply, get_apply, hindex, hpage]
      rfl
    | some page =>
      by_cases hlast : e.tabs.length = 1
      · simp only [closeTab, bind_apply, get_apply, hindex, hpage, hlast, if_true, throw_apply]
        rfl
      have hsplit := tabs_around he hindex hpage
      have hid : page.id = id := (he.tab?_eq_some.mp hpage).2
      obtain ⟨next, hnext, hnextid⟩ := exists_successor he hsplit hid hlast
      rw [closeTab_eq hindex hpage hid hlast, ← hnextid]
      rw [List.eraseIdx_eq_take_drop_succ] at hnext ⊢
      refine Edit.closeTab hsplit hnext fun hcurrent => ?_
      rw [hnextid, successor, if_neg (hid ▸ hcurrent)]

/-- The tab page of a window, found by searching the lists of all tab pages. -/
theorem exists_windowTab {id tab : Nat} (htab : e.windowTab? id = some tab) :
    ∃ page ∈ e.tabs, page.id = tab ∧ id ∈ page.windows := by
  obtain ⟨page, hpage, hid⟩ := Option.map_eq_some_iff.mp htab
  exact ⟨page, List.mem_of_find?_eq_some hpage, hid, by simpa using List.find?_some hpage⟩

theorem eraseIdx_findIdx? {ids : List Nat} {id : Nat} (hid : id ∈ ids) :
    ids.eraseIdx ((ids.findIdx? (· == id)).getD 0) = ids.erase id := by
  rw [List.erase_eq_eraseIdx]
  cases hpos : ids.idxOf? id with
  | none => exact absurd hid (List.idxOf?_eq_none_iff.mp hpos)
  | some pos =>
    have hfind : ids.findIdx? (· == id) = some pos := hpos
    rw [hfind]
    rfl

/-- The window that is current once another one of its tab page is gone is one that stays. -/
theorem next_mem_erase {ids : List Nat} {id current : Nat} (hcurrent : current ∈ ids)
    (hid : id ∈ ids) (hlength : ids.length ≠ 1) (pos : Nat) :
    (if current = id then ((ids.erase id)[min pos ((ids.erase id).length - 1)]?).getD id
      else current) ∈ ids.erase id := by
  split
  · have herase := List.length_erase_of_mem hid
    have hpos := List.length_pos_of_mem hid
    have hlt : min pos ((ids.erase id).length - 1) < (ids.erase id).length := by omega
    rw [List.getElem?_eq_getElem hlt]
    exact List.getElem_mem hlt
  · rename_i hne
    exact (List.mem_erase_of_ne hne).mpr hcurrent

theorem closeWindow_edits (he : e.WellFormed) (id : Nat) : Edits e (closeWindow id e) := by
  simp only [closeWindow, bind_apply, get_apply]
  cases htab : e.windowTab? id with
  | none => rfl
  | some tab =>
    obtain ⟨page, hpage, rfl, hid⟩ := exists_windowTab htab
    have hfound : e.tab? page.id = some page := he.tab?_eq_some.mpr ⟨hpage, rfl⟩
    simp only [bind_apply, tab_eq, hfound]
    by_cases hlength : page.windows.length = 1
    · simp only [hlength, if_true, bind_apply, get_apply]
      by_cases hlast : e.tabs.length = 1
      · simp only [hlast, if_true, bind_apply, throw_apply]
        rfl
      · simp only [hlast, if_false]
        exact closeTab_edits he page.id
    · have herase := eraseIdx_findIdx? hid
      have hcurrent := next_mem_erase (he.layout.current_listed page hpage) hid hlength
      simp only [hlength, if_false, bind_apply, modify_apply, herase]
      have hedit := Edit.closeWindow hpage hid
        (hcurrent ((page.windows.findIdx? (· == id)).getD 0))
      rwa [withoutWindow, withoutWindows_singleton] at hedit

theorem setCursor_edits (he : e.WellFormed) (id row col : Nat) :
    Edits e (setCursor id row col e) := by
  simp only [setCursor, bind_apply, window_eq]
  cases hw : e.window? id with
  | none => rfl
  | some w =>
    obtain ⟨hmem, hid⟩ := he.window?_eq_some.mp hw
    obtain ⟨b, hb, hnumber, -⟩ := he.shown w hmem
    have hbuffer : e.buffer? w.buffer = some b := he.buffer?_eq_some.mpr ⟨hb, hnumber⟩
    simp only [get_apply, hbuffer, Option.map_some, Option.getD_some]
    by_cases hrow : row = 0 ∨ b.lines.length < row
    · simp only [bind_apply, hrow, Bool.or_eq_true, decide_eq_true_eq, if_true, throw_apply]
      rfl
    · simp only [hrow, Bool.or_eq_true, decide_eq_true_eq, if_false, modify_apply]
      exact .cursor hmem hid hb hnumber (by omega) (by omega)

theorem newTab_edits (buffer : Nat) : Edits e (newTab buffer e) := by
  simp only [newTab, bind_apply, buffer_eq]
  cases hb : e.buffer? buffer with
  | none => rfl
  | some b =>
    simp only [modifyGet_apply, modify_apply, pure_apply]
    exact .tab (Option.isSome_of_eq_some hb)

theorem setCurrentWindow_edits (he : e.WellFormed) (id : Nat) :
    Edits e (setCurrentWindow id e) := by
  simp only [setCurrentWindow, bind_apply, get_apply]
  cases htab : e.windowTab? id with
  | none => rfl
  | some tab =>
    obtain ⟨page, hpage, rfl, hid⟩ := exists_windowTab htab
    have hfound : e.tab? page.id = some page := he.tab?_eq_some.mpr ⟨hpage, rfl⟩
    simp only [bind_apply, tab_eq, hfound, modify_apply]
    exact .currentWindow hpage hid

theorem setCurrentTab_edits (he : e.WellFormed) (id : Nat) : Edits e (setCurrentTab id e) := by
  simp only [setCurrentTab, bind_apply, tab_eq]
  cases htab : e.tab? id with
  | none => rfl
  | some page =>
    obtain ⟨hpage, rfl⟩ := he.tab?_eq_some.mp htab
    exact .currentTab hpage

theorem setCurrentBuffer_edits (id : Nat) : Edits e (setCurrentBuffer id e) := by
  simp only [setCurrentBuffer, bind_apply, buffer_eq]
  cases hb : e.buffer? id with
  | none => rfl
  | some b =>
    simp only [get_apply, window_eq]
    cases e.window? e.currentWindow with
    | none => rfl
    | some w => exact .showBuffer (Option.isSome_of_eq_some hb)

theorem setHeight_edits (id height : Nat) : Edits e (setHeight id height e) := by
  simp only [setHeight, bind_apply, window_eq]
  cases e.window? id with
  | none => rfl
  | some w => exact .height id height

theorem setWidth_edits (id width : Nat) : Edits e (setWidth id width e) := by
  simp only [setWidth, bind_apply, window_eq]
  cases e.window? id with
  | none => rfl
  | some w => exact .width id width

end Change

/-- An operation on the editor with its arguments. -/
inductive Operation where
  | addBuffer (name : String) (lines : List String)
  | renameBuffer (id : Nat) (name : String)
  | replaceLines (id lo hi : Nat) (new : List String)
  | insertLines (id after : Nat) (new : List String)
  | wipeBuffer (id : Nat)
  | splitWindow (buffer : Nat)
  | closeWindow (id : Nat)
  | setCursor (id row col : Nat)
  | newTab (buffer : Nat)
  | closeTab (id : Nat)
  | setCurrentWindow (id : Nat)
  | setCurrentTab (id : Nat)
  | setCurrentBuffer (id : Nat)
  | setHeight (id height : Nat)
  | setWidth (id width : Nat)

/-- The editor after an operation, whether it succeeds or is refused. -/
def Operation.apply (e : Editor) : Operation → Editor
  | .addBuffer name lines => final (Change.addBuffer name lines e)
  | .renameBuffer id name => final (Change.renameBuffer id name e)
  | .replaceLines id lo hi new => final (Change.replaceLines id lo hi new e)
  | .insertLines id after new => final (Change.insertLines id after new e)
  | .wipeBuffer id => final (Change.wipeBuffer id e)
  | .splitWindow buffer => final (Change.splitWindow buffer e)
  | .closeWindow id => final (Change.closeWindow id e)
  | .setCursor id row col => final (Change.setCursor id row col e)
  | .newTab buffer => final (Change.newTab buffer e)
  | .closeTab id => final (Change.closeTab id e)
  | .setCurrentWindow id => final (Change.setCurrentWindow id e)
  | .setCurrentTab id => final (Change.setCurrentTab id e)
  | .setCurrentBuffer id => final (Change.setCurrentBuffer id e)
  | .setHeight id height => final (Change.setHeight id height e)
  | .setWidth id width => final (Change.setWidth id width e)

/-- The editor after a run of operations from the first editor. -/
def Editor.run (ops : List Operation) : Editor := ops.foldl Operation.apply .new

/-- The end of an outcome that is at most one edit of a well-formed editor is well formed. -/
theorem Change.Edits.wellFormed {α : Type} {e : Editor}
    {outcome : EStateM.Result EditorError Editor α} (h : Change.Edits e outcome)
    (he : e.WellFormed) : (final outcome).WellFormed := by
  cases outcome with
  | ok x e' => exact Edit.wellFormed h he
  | error x e' => exact Eq.mp (congrArg WellFormed h.symm) he

/-- Every operation keeps an editor well formed, also one that is refused. -/
theorem Operation.apply_wellFormed {e : Editor} (he : e.WellFormed) (op : Operation) :
    (op.apply e).WellFormed := by
  cases op with
  | addBuffer name lines => exact (Change.addBuffer_edits name lines).wellFormed he
  | renameBuffer id name => exact (Change.renameBuffer_edits id name).wellFormed he
  | replaceLines id lo hi new => exact (Change.replaceLines_edits id lo hi new).wellFormed he
  | insertLines id after new => exact (Change.replaceLines_edits id after after new).wellFormed he
  | wipeBuffer id => exact (Change.wipeBuffer_edits id).wellFormed he
  | splitWindow buffer => exact (Change.splitWindow_edits he buffer).wellFormed he
  | closeWindow id => exact (Change.closeWindow_edits he id).wellFormed he
  | setCursor id row col => exact (Change.setCursor_edits he id row col).wellFormed he
  | newTab buffer => exact (Change.newTab_edits buffer).wellFormed he
  | closeTab id => exact (Change.closeTab_edits he id).wellFormed he
  | setCurrentWindow id => exact (Change.setCurrentWindow_edits he id).wellFormed he
  | setCurrentTab id => exact (Change.setCurrentTab_edits he id).wellFormed he
  | setCurrentBuffer id => exact (Change.setCurrentBuffer_edits id).wellFormed he
  | setHeight id height => exact (Change.setHeight_edits id height).wellFormed he
  | setWidth id width => exact (Change.setWidth_edits id width).wellFormed he

/-- Every run of operations reaches a well-formed editor. -/
theorem Editor.run_wellFormed (ops : List Operation) : (Editor.run ops).WellFormed := by
  have hfold : ∀ (ops : List Operation) (e : Editor), e.WellFormed →
      (ops.foldl Operation.apply e).WellFormed := by
    intro ops
    induction ops with
    | nil => exact fun e he => he
    | cons op ops ih => exact fun e he => ih _ (op.apply_wellFormed he)
  exact hfold ops .new Editor.wellFormed_new

/-- What a reader of an editor relies on. -/
structure Editor.Consistent (e : Editor) : Prop where
  buffers_nonempty : e.buffers ≠ []
  buffers_distinct : (e.buffers.map (·.number)).Nodup
  lines_nonempty : ∀ b ∈ e.buffers, b.lines ≠ []
  tabs_nonempty : e.tabs ≠ []
  tabs_distinct : (e.tabs.map (·.id)).Nodup
  currentTab_exists : ∃ t ∈ e.tabs, t.id = e.currentTab
  tab_windows : ∀ t ∈ e.tabs, t.windows ≠ [] ∧ t.current ∈ t.windows
  windows_distinct : (e.windows.map (·.id)).Nodup
  /-- Each window is listed once, and in one tab page only. -/
  listed_once : ∀ w ∈ e.windows,
    ∃ t ∈ e.tabs, t.windows.count w.id = 1 ∧ ∀ u ∈ e.tabs, w.id ∈ u.windows → u = t
  listed_exists : ∀ t ∈ e.tabs, ∀ id ∈ t.windows, (e.window? id).isSome
  /-- Each window shows a buffer, with its cursor on a line of it. -/
  shown : ∀ w ∈ e.windows,
    ∃ b, e.buffer? w.buffer = some b ∧ 1 ≤ w.row ∧ w.row ≤ b.lines.length

/-- A well-formed editor is consistent. -/
theorem Editor.WellFormed.consistent {e : Editor} (he : e.WellFormed) : e.Consistent where
  buffers_nonempty := he.texts.nonempty
  buffers_distinct := he.texts.nodup
  lines_nonempty := he.texts.lines_ne
  tabs_nonempty := by
    obtain ⟨t, ht, -⟩ := List.mem_map.mp he.layout.current_mem
    exact List.ne_nil_of_mem ht
  tabs_distinct := he.layout.nodup
  currentTab_exists := List.mem_map.mp he.layout.current_mem
  tab_windows t ht :=
    ⟨List.ne_nil_of_mem (he.layout.current_listed t ht), he.layout.current_listed t ht⟩
  windows_distinct := he.layout.ids_nodup
  listed_once w hw := by
    have hnodup := he.layout.listed.nodup_iff.mpr he.layout.ids_nodup
    obtain ⟨heach, hpairwise⟩ := List.nodup_flatMap.mp hnodup
    have : Std.Symm (Function.onFun List.Disjoint TabPage.windows) :=
      ⟨fun _ _ h _ hu hv => h hv hu⟩
    obtain ⟨t, ht, hid⟩ :=
      List.mem_flatMap.mp (he.layout.listed.symm.subset (List.mem_map_of_mem hw))
    refine ⟨t, ht, List.count_eq_one_of_mem (heach t ht) hid, fun u hu huid => ?_⟩
    by_contra hne
    exact hpairwise.forall hu ht hne huid hid
  listed_exists t ht id hid := Lookup.isSome_find?_iff.mpr (he.layout.mem_ids ht hid)
  shown w hw := by
    obtain ⟨b, hb, hnumber, hrow⟩ := he.shown w hw
    exact ⟨b, he.buffer?_eq_some.mpr ⟨hb, hnumber⟩, hrow⟩

/-- Every run of operations, with any arguments and whether or not they are refused, reaches a
consistent editor. -/
theorem Editor.run_consistent (ops : List Operation) : (Editor.run ops).Consistent :=
  (Editor.run_wellFormed ops).consistent

end ScriptBridge.Host
