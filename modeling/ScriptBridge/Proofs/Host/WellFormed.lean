import ScriptBridge.Host.Editor.Change
import ScriptBridge.Proofs.Computation
import ScriptBridge.Proofs.Lookup

/-!
# Edits of well-formed editors

Each operation on the editor either is refused, and then changes nothing, or makes one of the
edits listed here, which say everything an operation can do. Every edit keeps an editor well formed.
This invariant says more than what a reader of the editor relies on: identifiers are below the
counters they are drawn from, which is why a new one is never in use.
-/

namespace ScriptBridge.Host

open ScriptBridge.Computation

namespace Editor

/-- The editor with other lines in a buffer; a cursor that would be past the last line is on it. -/
def withLines (e : Editor) (id : Nat) (lines : List String) : Editor :=
  let e := e.mapBuffer id fun b => { b with lines, changed := true }
  { e with windows := e.windows.map (Change.clampCursor id lines.length) }

/-- The editor without a buffer, whose windows show another one. -/
def withoutBuffer (e : Editor) (id other : Nat) : Editor :=
  let windows := e.windows.map fun w =>
    if w.buffer = id then { w with buffer := other, row := 1, col := 0 } else w
  { e.announce (.buffer id) with windows, buffers := e.buffers.filter (·.number != id) }

/-- The editor without some windows, each of them announced. -/
def withoutWindows (e : Editor) (ids : List Nat) : Editor :=
  { e with
    windows := e.windows.filter fun w => !ids.contains w.id
    departed := e.departed ++ ids.map .window }

theorem withoutWindows_singleton (e : Editor) (id : Nat) :
    e.withoutWindows [id] =
      { e.announce (.window id) with windows := e.windows.filter (·.id != id) } := by
  have hkept : (fun w : Window => !List.contains [id] w.id) = fun w => w.id != id := by
    funext w
    rw [Bool.eq_iff_iff]
    simp
  rw [withoutWindows, hkept]
  rfl

/-- The editor with a new window on a buffer at a position of a tab page. -/
def withSplit (e : Editor) (tab pos buffer : Nat) : Editor :=
  let (window, e) := e.addWindow buffer
  e.mapTab tab fun t => { t with windows := t.windows.insertIdx pos window, current := window }

/-- The editor without the windows of a tab page, where `tabs` and `current` take over. -/
def withoutTab (e : Editor) (page : TabPage) (tabs : List TabPage) (current : Nat) : Editor :=
  let e := { e with tabs, currentTab := current }
  (e.withoutWindows page.windows).announce (.tabPage page.id)

/-- The editor without one window of a tab page, which keeps the others. -/
def withoutWindow (e : Editor) (tab id : Nat) (windows : List Nat) (current : Nat) : Editor :=
  (e.mapTab tab fun t => { t with windows, current }).withoutWindows [id]

/-- The editor with a new tab page on a buffer. -/
def withTab (e : Editor) (buffer : Nat) : Editor :=
  let (window, e) := e.addWindow buffer
  let (id, e) := e.addTab window
  { e with currentTab := id }

/-- The ways in which one operation changes the editor. -/
inductive Edit (e : Editor) : Editor → Prop where
  | addBuffer (name : String) (lines : List String) : Edit e (e.addBuffer name lines).2
  | renameBuffer (id : Nat) (name : String) : Edit e (e.mapBuffer id fun b => { b with name })
  | lines {id : Nat} {lines : List String} (hid : (e.buffer? id).isSome) (hlines : lines ≠ []) :
      Edit e (e.withLines id lines)
  | wipe {id : Nat} {other : Buffer} (hid : (e.buffer? id).isSome) (hother : other ∈ e.buffers)
      (hne : other.number ≠ id) : Edit e (e.withoutBuffer id other.number)
  | split {page : TabPage} {pos buffer : Nat} (hbuffer : (e.buffer? buffer).isSome)
      (hpage : page ∈ e.tabs) (hpos : pos ≤ page.windows.length) :
      Edit e (e.withSplit page.id pos buffer)
  | closeTab {before after : List TabPage} {page next : TabPage}
      (htabs : e.tabs = before ++ page :: after) (hnext : next ∈ before ++ after)
      (hcurrent : e.currentTab ≠ page.id → next.id = e.currentTab) :
      Edit e (e.withoutTab page (before ++ after) next.id)
  | closeWindow {page : TabPage} {id current : Nat} (hpage : page ∈ e.tabs)
      (hid : id ∈ page.windows) (hcurrent : current ∈ page.windows.erase id) :
      Edit e (e.withoutWindow page.id id (page.windows.erase id) current)
  | cursor {id row col : Nat} {w : Window} {b : Buffer} (hw : w ∈ e.windows) (hid : w.id = id)
      (hb : b ∈ e.buffers) (hshown : b.number = w.buffer) (hpos : 1 ≤ row)
      (hrow : row ≤ b.lines.length) : Edit e (e.mapWindow id fun w => { w with row, col })
  | tab {buffer : Nat} (hbuffer : (e.buffer? buffer).isSome) : Edit e (e.withTab buffer)
  | currentWindow {page : TabPage} {id : Nat} (hpage : page ∈ e.tabs) (hid : id ∈ page.windows) :
      Edit e { e.mapTab page.id (fun t => { t with current := id }) with currentTab := page.id }
  | currentTab {page : TabPage} (hpage : page ∈ e.tabs) : Edit e { e with currentTab := page.id }
  | showBuffer {id window : Nat} (hid : (e.buffer? id).isSome) :
      Edit e (e.mapWindow window fun w => { w with buffer := id, row := 1, col := 0 })
  | height (id height : Nat) : Edit e (e.mapWindow id fun w => { w with height })
  | width (id width : Nat) : Edit e (e.mapWindow id fun w => { w with width })

end Editor

/-! ### Well-formed editors -/

open scoped List

/-- The texts of an editor: their numbers are distinct and already given out, and none is empty. -/
structure Texts (buffers : List Buffer) (next : Nat) : Prop where
  nonempty : buffers ≠ []
  nodup : (buffers.map (·.number)).Nodup
  lt_next : ∀ n ∈ buffers.map (·.number), n < next
  lines_ne : ∀ b ∈ buffers, b.lines ≠ []

/-- The arrangement of the windows `ids` in tab pages: the lists of the tab pages together hold
each window once. -/
structure Layout (tabs : List TabPage) (ids : List Nat) (current nextWindow nextTab : Nat) :
    Prop where
  nodup : (tabs.map (·.id)).Nodup
  lt_next : ∀ id ∈ tabs.map (·.id), id < nextTab
  ids_nodup : ids.Nodup
  ids_lt_next : ∀ id ∈ ids, id < nextWindow
  listed : tabs.flatMap (·.windows) ~ ids
  current_mem : current ∈ tabs.map (·.id)
  current_listed : ∀ t ∈ tabs, t.current ∈ t.windows

/-- A window shows one of the buffers, with its cursor on a line of it. -/
def Window.InView (buffers : List Buffer) (w : Window) : Prop :=
  ∃ b ∈ buffers, b.number = w.buffer ∧ 1 ≤ w.row ∧ w.row ≤ b.lines.length

/-- An editor whose texts, windows and tab pages fit together. -/
structure Editor.WellFormed (e : Editor) : Prop where
  texts : Texts e.buffers e.nextBuffer
  layout : Layout e.tabs (e.windows.map (·.id)) e.currentTab e.nextWindow e.nextTab
  shown : ∀ w ∈ e.windows, w.InView e.buffers

/-- The first editor is well formed. -/
theorem Editor.wellFormed_new : Editor.new.WellFormed := by
  refine ⟨⟨?_, ?_, ?_, ?_⟩, ⟨?_, ?_, ?_, ?_, ?_, ?_, ?_⟩, ?_⟩ <;>
    simp [Editor.new, Editor.addBuffer, Editor.addWindow, Editor.addTab, Editor.newScope,
      Window.InView]

/-- A new key, at the bound of the others, joins them at the end. -/
private theorem keys_append {ids : List Nat} {next : Nat} (hnodup : ids.Nodup)
    (hlt : ∀ id ∈ ids, id < next) :
    (ids ++ [next]).Nodup ∧ ∀ id ∈ ids ++ [next], id < next + 1 := by
  constructor
  · refine hnodup.append (List.nodup_singleton _) ?_
    rw [List.disjoint_singleton]
    exact fun hmem => Nat.lt_irrefl _ (hlt _ hmem)
  · intro id hid
    rcases List.mem_append.mp hid with hid | hid
    · exact Nat.lt_succ_of_lt (hlt id hid)
    · exact List.mem_singleton.mp hid ▸ Nat.lt_succ_self _

namespace Texts

variable {buffers : List Buffer} {next : Nat}

/-- A buffer with the next number joins the others. -/
theorem append (h : Texts buffers next) {b : Buffer} (hb : b.number = next) (hlines : b.lines ≠ []) :
    Texts (buffers ++ [b]) (next + 1) := by
  have hkeys := keys_append h.nodup h.lt_next
  rw [← hb, ← List.map_singleton (f := Buffer.number), ← List.map_append, hb] at hkeys
  refine ⟨by simp, hkeys.1, hkeys.2, ?_⟩
  intro c hc
  rcases List.mem_append.mp hc with hc | hc
  · exact h.lines_ne c hc
  · rwa [List.mem_singleton.mp hc]

/-- Changing buffers under their numbers, without emptying any. -/
theorem map (h : Texts buffers next) (f : Buffer → Buffer) (hnumber : ∀ b, (f b).number = b.number)
    (hlines : ∀ b ∈ buffers, (f b).lines ≠ []) : Texts (buffers.map f) next := by
  have hkeys : (buffers.map f).map (·.number) = buffers.map (·.number) :=
    Lookup.map_key_map f hnumber
  exact ⟨by simpa using h.nonempty, hkeys ▸ h.nodup, hkeys ▸ h.lt_next, by simpa using hlines⟩

/-- A buffer goes while another one stays. -/
theorem filter (h : Texts buffers next) {id : Nat} {other : Buffer} (hother : other ∈ buffers)
    (hne : other.number ≠ id) : Texts (buffers.filter (·.number != id)) next := by
  have hsub := List.filter_sublist (p := (·.number != id)) (l := buffers)
  refine ⟨?_, h.nodup.sublist (hsub.map _), ?_, fun b hb => h.lines_ne b (hsub.subset hb)⟩
  · exact List.ne_nil_of_mem (List.mem_filter.mpr ⟨hother, by simpa using hne⟩)
  · exact fun n hn => h.lt_next n ((hsub.map _).subset hn)

end Texts

namespace Layout

variable {tabs : List TabPage} {ids : List Nat} {current nextWindow nextTab : Nat}

/-- The window identifiers of a tab page are among those of the editor. -/
theorem mem_ids (h : Layout tabs ids current nextWindow nextTab) {t : TabPage} (ht : t ∈ tabs)
    {id : Nat} (hid : id ∈ t.windows) : id ∈ ids :=
  h.listed.subset (List.mem_flatMap.mpr ⟨t, ht, hid⟩)

/-- Only which tab page is current, and which window in a tab page, changes. -/
theorem focus (h : Layout tabs ids current nextWindow nextTab) {page : TabPage} (hpage : page ∈ tabs)
    (f : TabPage → TabPage) (hid : ∀ t, (f t).id = t.id) (hwindows : ∀ t, (f t).windows = t.windows)
    (hcurrent : ∀ t ∈ tabs, (f t).current ∈ t.windows) :
    Layout (tabs.map f) ids page.id nextWindow nextTab := by
  have hkeys : (tabs.map f).map (·.id) = tabs.map (·.id) := Lookup.map_key_map f hid
  have hlists : (tabs.map f).flatMap (·.windows) = tabs.flatMap (·.windows) := by
    rw [List.flatMap_map]
    simp only [hwindows]
  refine ⟨hkeys ▸ h.nodup, hkeys ▸ h.lt_next, h.ids_nodup, h.ids_lt_next, hlists ▸ h.listed,
    hkeys ▸ List.mem_map_of_mem hpage, ?_⟩
  intro t ht
  obtain ⟨u, hu, rfl⟩ := List.mem_map.mp ht
  exact hwindows u ▸ hcurrent u hu

/-- A new window enters a tab page, of which it becomes the current one. -/
theorem split (h : Layout tabs ids current nextWindow nextTab) {page : TabPage}
    (hpage : page ∈ tabs) {pos : Nat} (hpos : pos ≤ page.windows.length) :
    Layout (tabs.map fun t => if t.id = page.id then
        { t with windows := t.windows.insertIdx pos nextWindow, current := nextWindow } else t)
      (ids ++ [nextWindow]) current (nextWindow + 1) nextTab := by
  have hnew := keys_append h.ids_nodup h.ids_lt_next
  obtain ⟨before, after, rfl, hmap⟩ := Lookup.exists_split h.nodup hpage
  rw [hmap fun t =>
    { t with windows := t.windows.insertIdx pos nextWindow, current := nextWindow }]
  refine ⟨by simpa using h.nodup, by simpa using h.lt_next, hnew.1, hnew.2, ?_,
    by simpa using h.current_mem, ?_⟩
  · have hlisted := h.listed
    rw [List.flatMap_append, List.flatMap_cons] at hlisted ⊢
    calc before.flatMap (·.windows) ++
          (page.windows.insertIdx pos nextWindow ++ after.flatMap (·.windows))
        ~ before.flatMap (·.windows) ++
          (nextWindow :: page.windows ++ after.flatMap (·.windows)) :=
          ((List.perm_insertIdx nextWindow page.windows hpos).append_right _).append_left _
      _ ~ nextWindow :: ids := List.perm_middle.trans (hlisted.cons _)
      _ ~ ids ++ [nextWindow] := (List.perm_append_singleton _ _).symm
  · intro t ht
    rcases List.mem_append.mp ht with ht | ht
    · exact h.current_listed t (List.mem_append_left _ ht)
    rcases List.mem_cons.mp ht with rfl | ht
    · exact (List.perm_insertIdx nextWindow page.windows hpos).mem_iff.mpr List.mem_cons_self
    · exact h.current_listed t (List.mem_append_right _ (List.mem_cons_of_mem _ ht))

/-- A new tab page with one new window joins the others and becomes current. -/
theorem tab (h : Layout tabs ids current nextWindow nextTab) {page : TabPage}
    (hid : page.id = nextTab) (hwindows : page.windows = [nextWindow])
    (hcurrent : page.current = nextWindow) :
    Layout (tabs ++ [page]) (ids ++ [nextWindow]) nextTab (nextWindow + 1) (nextTab + 1) := by
  have hnew := keys_append h.ids_nodup h.ids_lt_next
  have hkeys := keys_append h.nodup h.lt_next
  rw [← hid, ← List.map_singleton (f := TabPage.id), ← List.map_append, hid] at hkeys
  refine ⟨hkeys.1, hkeys.2, hnew.1, hnew.2, ?_, by simp [hid], ?_⟩
  · rw [List.flatMap_append, List.flatMap_singleton, hwindows]
    exact h.listed.append_right _
  · intro t ht
    rcases List.mem_append.mp ht with ht | ht
    · exact h.current_listed t ht
    · rw [List.mem_singleton.mp ht, hcurrent, hwindows]
      exact List.mem_singleton_self _

/-- A tab page goes with its windows; one of the others is current afterwards. -/
theorem closeTab {before after : List TabPage} {page next : TabPage}
    (h : Layout (before ++ page :: after) ids current nextWindow nextTab)
    (hnext : next ∈ before ++ after) :
    Layout (before ++ after) (ids.filter fun id => !page.windows.contains id) next.id nextWindow
      nextTab := by
  have hsub : (before ++ after).Sublist (before ++ page :: after) :=
    (List.sublist_cons_self page after).append_left before
  have hids := List.filter_sublist (p := fun id => !page.windows.contains id) (l := ids)
  refine ⟨h.nodup.sublist (hsub.map _), fun id hid => h.lt_next id ((hsub.map _).subset hid),
    h.ids_nodup.sublist hids, fun id hid => h.ids_lt_next id (hids.subset hid), ?_,
    List.mem_map_of_mem hnext, fun t ht => h.current_listed t (hsub.subset ht)⟩
  -- The lists are disjoint, so filtering one of them out of all leaves the others as they are.
  have hlisted := h.listed
  rw [List.flatMap_append, List.flatMap_cons] at hlisted
  have hperm : page.windows ++ (before ++ after).flatMap (·.windows) ~ ids := by
    rw [List.flatMap_append]
    have hcomm : page.windows ++ before.flatMap (·.windows) ~
        before.flatMap (·.windows) ++ page.windows := List.perm_append_comm
    refine List.Perm.trans ?_ hlisted
    simpa using hcomm.append_right (after.flatMap (·.windows))
  have hdisjoint := (List.nodup_append'.mp (hperm.nodup_iff.mpr h.ids_nodup)).2.2
  have hrest : ((before ++ after).flatMap (·.windows)).filter
      (fun id => !page.windows.contains id) = (before ++ after).flatMap (·.windows) :=
    List.filter_eq_self.mpr fun id hid => by simpa using fun hmem => hdisjoint hmem hid
  have hown : page.windows.filter (fun id => !page.windows.contains id) = [] :=
    List.filter_eq_nil_iff.mpr fun id hid => by simpa using hid
  have := hperm.filter fun id => !page.windows.contains id
  rwa [List.filter_append, hrest, hown, List.nil_append] at this

/-- A window leaves a tab page that keeps others, one of which is current afterwards. -/
theorem closeWindow (h : Layout tabs ids current nextWindow nextTab) {page : TabPage}
    (hpage : page ∈ tabs) {id next : Nat} (hid : id ∈ page.windows)
    (hnext : next ∈ page.windows.erase id) :
    Layout (tabs.map fun t => if t.id = page.id then
        { t with windows := page.windows.erase id, current := next } else t)
      (ids.filter (· != id)) current nextWindow nextTab := by
  have hids := List.filter_sublist (p := (· != id)) (l := ids)
  obtain ⟨before, after, rfl, hmap⟩ := Lookup.exists_split h.nodup hpage
  rw [hmap fun t => { t with windows := page.windows.erase id, current := next }]
  refine ⟨by simpa using h.nodup, by simpa using h.lt_next, h.ids_nodup.sublist hids,
    fun id hid => h.ids_lt_next id (hids.subset hid), ?_, by simpa using h.current_mem, ?_⟩
  · rw [← h.ids_nodup.erase_eq_filter]
    have hlisted := h.listed
    rw [List.flatMap_append, List.flatMap_cons] at hlisted ⊢
    refine List.Perm.cons_inv (a := id) ?_
    calc id :: (before.flatMap (·.windows) ++
          (page.windows.erase id ++ after.flatMap (·.windows)))
        ~ before.flatMap (·.windows) ++
          (id :: page.windows.erase id ++ after.flatMap (·.windows)) := List.perm_middle.symm
      _ ~ before.flatMap (·.windows) ++ (page.windows ++ after.flatMap (·.windows)) :=
          ((List.perm_cons_erase hid).symm.append_right _).append_left _
      _ ~ ids := hlisted
      _ ~ id :: ids.erase id := List.perm_cons_erase (h.mem_ids hpage hid)
  · intro t ht
    rcases List.mem_append.mp ht with ht | ht
    · exact h.current_listed t (List.mem_append_left _ ht)
    rcases List.mem_cons.mp ht with rfl | ht
    · exact hnext
    · exact h.current_listed t (List.mem_append_right _ (List.mem_cons_of_mem _ ht))

end Layout

namespace Window.InView

variable {buffers : List Buffer} {w : Window}

/-- The first line of a buffer that is not empty is in view. -/
theorem top {next : Nat} (h : Texts buffers next) {id : Nat} (hid : id ∈ buffers.map (·.number))
    (hbuffer : w.buffer = id) (hrow : w.row = 1) : w.InView buffers := by
  obtain ⟨b, hb, rfl⟩ := List.mem_map.mp hid
  refine ⟨b, hb, hbuffer.symm, Nat.le_of_eq hrow.symm, ?_⟩
  rw [hrow]
  exact List.length_pos_iff.mpr (h.lines_ne b hb)

/-- More buffers keep a window in view. -/
theorem mono {more : List Buffer} (h : w.InView buffers) (hmore : buffers ⊆ more) :
    w.InView more := by
  obtain ⟨b, hb, hrest⟩ := h
  exact ⟨b, hmore hb, hrest⟩

/-- Changing a buffer without changing its number and its lines keeps a window in view. -/
theorem map (h : w.InView buffers) (f : Buffer → Buffer) (hnumber : ∀ b, (f b).number = b.number)
    (hlines : ∀ b, (f b).lines = b.lines) : w.InView (buffers.map f) := by
  obtain ⟨b, hb, hrest⟩ := h
  exact ⟨f b, List.mem_map_of_mem hb, by rwa [hnumber, hlines]⟩

/-- Clamping the cursor keeps a window in view of a buffer whose lines are replaced. -/
theorem clamp (h : w.InView buffers) {id : Nat} {lines : List String} (hlines : lines ≠ []) :
    (Change.clampCursor id lines.length w).InView
      (buffers.map fun b => if b.number = id then { b with lines, changed := true } else b) := by
  obtain ⟨b, hb, hnumber, hpos, hrow⟩ := h
  have hlength : 1 ≤ lines.length := List.length_pos_iff.mpr hlines
  refine ⟨_, List.mem_map_of_mem hb, ?_⟩
  unfold Change.clampCursor
  by_cases hid : b.number = id
  · have hbuffer : w.buffer = id := hnumber.symm.trans hid
    rw [if_pos hid]
    by_cases hpast : lines.length < w.row
    · simp [hbuffer, hpast, hid, hlength]
    · simp only [hbuffer, hpast, hid, decide_true, decide_false, Bool.and_false, Bool.false_eq_true,
        if_false]
      exact ⟨trivial, hpos, by omega⟩
  · have hbuffer : ¬ w.buffer = id := fun heq => hid (hnumber.trans heq)
    simp [hbuffer, hnumber, hpos, hrow]

end Window.InView

namespace Editor

variable {e e' : Editor}

theorem buffer?_isSome {id : Nat} : (e.buffer? id).isSome ↔ id ∈ e.buffers.map (·.number) :=
  Lookup.isSome_find?_iff

theorem WellFormed.buffer?_eq_some (he : e.WellFormed) {id : Nat} {b : Buffer} :
    e.buffer? id = some b ↔ b ∈ e.buffers ∧ b.number = id :=
  Lookup.find?_eq_some_iff he.texts.nodup

theorem WellFormed.window?_eq_some (he : e.WellFormed) {id : Nat} {w : Window} :
    e.window? id = some w ↔ w ∈ e.windows ∧ w.id = id :=
  Lookup.find?_eq_some_iff he.layout.ids_nodup

theorem WellFormed.tab?_eq_some (he : e.WellFormed) {id : Nat} {t : TabPage} :
    e.tab? id = some t ↔ t ∈ e.tabs ∧ t.id = id :=
  Lookup.find?_eq_some_iff he.layout.nodup

/-- The current tab page exists. -/
theorem WellFormed.tab?_currentTab (he : e.WellFormed) :
    ∃ page, e.tab? e.currentTab = some page := by
  obtain ⟨page, hpage, hid⟩ := List.mem_map.mp he.layout.current_mem
  exact ⟨page, he.tab?_eq_some.mpr ⟨hpage, hid⟩⟩

/-! ### Identifiers after an edit -/

theorem mapBuffer_numbers (e : Editor) (id : Nat) {f : Buffer → Buffer}
    (hf : ∀ b, (f b).number = b.number) :
    (e.mapBuffer id f).buffers.map (·.number) = e.buffers.map (·.number) :=
  Lookup.map_key_map _ fun b => by split <;> simp [hf]

theorem mapWindow_ids (e : Editor) (id : Nat) {f : Window → Window} (hf : ∀ w, (f w).id = w.id) :
    (e.mapWindow id f).windows.map (·.id) = e.windows.map (·.id) :=
  Lookup.map_key_map _ fun w => by split <;> simp [hf]

theorem mapTab_ids (e : Editor) (id : Nat) {f : TabPage → TabPage} (hf : ∀ t, (f t).id = t.id) :
    (e.mapTab id f).tabs.map (·.id) = e.tabs.map (·.id) :=
  Lookup.map_key_map _ fun t => by split <;> simp [hf]

theorem withLines_windowIds (e : Editor) (id : Nat) (lines : List String) :
    (e.withLines id lines).windows.map (·.id) = e.windows.map (·.id) := by
  refine Lookup.map_key_map _ fun w => ?_
  unfold Change.clampCursor
  split <;> rfl

theorem withoutBuffer_windowIds (e : Editor) (id other : Nat) :
    (e.withoutBuffer id other).windows.map (·.id) = e.windows.map (·.id) := by
  refine Lookup.map_key_map _ fun w => ?_
  split <;> rfl

theorem withSplit_windowIds (e : Editor) (tab pos buffer : Nat) :
    (e.withSplit tab pos buffer).windows.map (·.id) = e.windows.map (·.id) ++ [e.nextWindow] := by
  simp [withSplit, addWindow, newScope, mapTab]

theorem withTab_windowIds (e : Editor) (buffer : Nat) :
    (e.withTab buffer).windows.map (·.id) = e.windows.map (·.id) ++ [e.nextWindow] := by
  simp [withTab, addWindow, addTab, newScope]

theorem withoutWindows_ids (e : Editor) (ids : List Nat) :
    (e.withoutWindows ids).windows.map (·.id) =
      (e.windows.map (·.id)).filter fun id => !ids.contains id := by
  simp [withoutWindows, List.filter_map, Function.comp_def]

theorem withoutWindow_windowIds (e : Editor) (tab id : Nat) (windows : List Nat) (current : Nat) :
    (e.withoutWindow tab id windows current).windows.map (·.id) =
      (e.windows.map (·.id)).filter (· != id) := by
  rw [withoutWindow, withoutWindows_singleton, List.filter_map]
  rfl

/-! ### Preservation -/

/-- Changing windows under their identifiers, each still in view. -/
theorem WellFormed.mapWindows (he : e.WellFormed) (f : Window → Window) (hid : ∀ w, (f w).id = w.id)
    (hshown : ∀ w ∈ e.windows, (f w).InView e.buffers) :
    { e with windows := e.windows.map f }.WellFormed := by
  have hkeys : (e.windows.map f).map (·.id) = e.windows.map (·.id) := Lookup.map_key_map f hid
  exact ⟨he.texts, hkeys.symm ▸ he.layout, by simpa using hshown⟩

/-- Changing one window under its identifier, still in view. -/
theorem WellFormed.mapWindow (he : e.WellFormed) (id : Nat) (f : Window → Window)
    (hid : ∀ w, (f w).id = w.id) (hshown : ∀ w ∈ e.windows, w.id = id → (f w).InView e.buffers) :
    (e.mapWindow id f).WellFormed := by
  refine he.mapWindows _ (fun w => ?_) fun w hw => ?_
  · split
    · exact hid w
    · rfl
  · split
    · exact hshown w hw ‹_›
    · exact he.shown w hw

/-- The windows that stay are in view as before. -/
theorem WellFormed.shown_withoutWindows (he : e.WellFormed) (ids : List Nat) :
    ∀ w ∈ (e.withoutWindows ids).windows, w.InView e.buffers :=
  fun w hw => he.shown w (List.mem_of_mem_filter hw)

/-- Every edit keeps an editor well formed. -/
theorem Edit.wellFormed (h : Edit e e') (he : e.WellFormed) : e'.WellFormed := by
  have ⟨texts, layout, shown⟩ := he
  cases h with
  | addBuffer name lines =>
    refine ⟨texts.append rfl ?_, layout, fun w hw => (shown w hw).mono (List.subset_append_left _ _)⟩
    dsimp only
    split
    · exact List.cons_ne_nil _ _
    · rename_i hne
      simpa using hne
  | renameBuffer id name =>
    refine ⟨texts.map _ (fun b => ?_) fun b hb => ?_, layout, fun w hw => (shown w hw).map _
      (fun b => ?_) fun b => ?_⟩
    · split <;> rfl
    · split <;> exact texts.lines_ne b hb
    · split <;> rfl
    · split <;> rfl
  | @lines id lines hid hlines =>
    have hkeys := e.withLines_windowIds id lines
    refine ⟨texts.map _ (fun b => ?_) fun b hb => ?_, hkeys.symm ▸ layout, ?_⟩
    · split <;> rfl
    · split
      · exact hlines
      · exact texts.lines_ne b hb
    · intro w hw
      obtain ⟨v, hv, rfl⟩ := List.mem_map.mp hw
      exact (shown v hv).clamp hlines
  | @wipe id other hid hother hne =>
    have hkept : other ∈ e.buffers.filter (·.number != id) :=
      List.mem_filter.mpr ⟨hother, by simpa using hne⟩
    have hkeys := e.withoutBuffer_windowIds id other.number
    refine ⟨texts.filter hother hne, hkeys.symm ▸ layout, fun w hw => ?_⟩
    obtain ⟨v, hv, rfl⟩ := List.mem_map.mp hw
    split
    · exact .top (texts.filter hother hne) (List.mem_map_of_mem hkept) rfl rfl
    · obtain ⟨b, hb, hnumber, hrest⟩ := shown v hv
      refine ⟨b, List.mem_filter.mpr ⟨hb, ?_⟩, hnumber, hrest⟩
      simpa [hnumber]
  | @split page pos buffer hbuffer hpage hpos =>
    have hkeys := e.withSplit_windowIds page.id pos buffer
    refine ⟨texts, hkeys ▸ layout.split hpage hpos, fun w hw => ?_⟩
    rcases List.mem_append.mp hw with hw | hw
    · exact shown w hw
    · rw [List.mem_singleton.mp hw]
      exact .top texts (buffer?_isSome.mp hbuffer) rfl rfl
  | @closeTab before after page next htabs hnext hcurrent =>
    rw [htabs] at layout
    refine ⟨texts, ?_, he.shown_withoutWindows page.windows⟩
    have hkeys := e.withoutWindows_ids page.windows
    exact hkeys ▸ layout.closeTab hnext
  | @closeWindow page id current hpage hid hcurrent =>
    refine ⟨texts, ?_, he.shown_withoutWindows [id]⟩
    have hkeys := e.withoutWindow_windowIds page.id id (page.windows.erase id) current
    exact hkeys ▸ layout.closeWindow hpage hid hcurrent
  | @cursor id row col w b hw hid hb hshown hpos hrow =>
    refine he.mapWindow id _ (fun w => rfl) fun v hv hvid => ?_
    have hvw : v = w := List.inj_on_of_nodup_map layout.ids_nodup hv hw (hvid.trans hid.symm)
    exact ⟨b, hb, hvw ▸ hshown, hpos, hrow⟩
  | @tab buffer hbuffer =>
    have hkeys := e.withTab_windowIds buffer
    refine ⟨texts, hkeys ▸ layout.tab rfl rfl rfl, fun w hw => ?_⟩
    rcases List.mem_append.mp hw with hw | hw
    · exact shown w hw
    · rw [List.mem_singleton.mp hw]
      exact .top texts (buffer?_isSome.mp hbuffer) rfl rfl
  | @currentWindow page id hpage hid =>
    refine ⟨texts, layout.focus hpage _ (fun t => ?_) (fun t => ?_) fun t ht => ?_, shown⟩
    · split <;> rfl
    · split <;> rfl
    · split
      · rename_i htid
        rwa [List.inj_on_of_nodup_map layout.nodup ht hpage htid]
      · exact layout.current_listed t ht
  | @currentTab page hpage =>
    have hcurrent : page.id ∈ e.tabs.map (·.id) := List.mem_map_of_mem hpage
    exact ⟨texts, { layout with current_mem := hcurrent }, shown⟩
  | @showBuffer id window hid =>
    exact he.mapWindow window _ (fun w => rfl) fun w hw hwid =>
      .top texts (buffer?_isSome.mp hid) rfl rfl
  | height id height => exact he.mapWindow id _ (fun w => rfl) fun w hw _ => shown w hw
  | width id width => exact he.mapWindow id _ (fun w => rfl) fun w hw _ => shown w hw

end Editor

end ScriptBridge.Host
