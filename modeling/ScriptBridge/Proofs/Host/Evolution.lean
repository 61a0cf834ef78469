import Mathlib.Logic.Relation
import ScriptBridge.Host.Eval
import ScriptBridge.Proofs.Host.Operation

/-!
# How editors evolve

Identifiers are given out in increasing order and each destruction is announced. An editor evolves
into another one when identifiers that are new there were not given out before, and when what is no
longer there has been announced since. Every edit of a well-formed editor is an evolution.

Everything that runs on the editor changes it by moves: an edit, a change of its containers, or
its messages. A computation is orderly when it leaves a well-formed editor by moves, whether it
succeeds or fails.
-/

namespace ScriptBridge.Host

/-- The number inside an identifier. -/
def Entity.id : Entity → Nat
  | .buffer id | .window id | .tabPage id => id

namespace Editor

/-- The next identifier of the kind of another one. -/
def next (e : Editor) : Entity → Nat
  | .buffer _ => e.nextBuffer
  | .window _ => e.nextWindow
  | .tabPage _ => e.nextTab

/-- Nothing has an identifier any more that was given out before. -/
def Gone (e : Editor) (key : Entity) : Prop := e.has key = false ∧ key.id < e.next key

variable {e e' e'' : Editor}

theorem has_buffer {id : Nat} : e.has (.buffer id) ↔ id ∈ e.buffers.map (·.number) :=
  Lookup.isSome_find?_iff

theorem has_window {id : Nat} : e.has (.window id) ↔ id ∈ e.windows.map (·.id) :=
  Lookup.isSome_find?_iff

theorem has_tabPage {id : Nat} : e.has (.tabPage id) ↔ id ∈ e.tabs.map (·.id) :=
  Lookup.isSome_find?_iff

/-- What exists has an identifier that was given out. -/
theorem WellFormed.id_lt_next (he : e.WellFormed) {key : Entity} (hkey : e.has key) :
    key.id < e.next key := by
  cases key with
  | buffer id => exact he.texts.lt_next id (has_buffer.mp hkey)
  | window id => exact he.layout.ids_lt_next id (has_window.mp hkey)
  | tabPage id => exact he.layout.lt_next id (has_tabPage.mp hkey)

/-! ### What can be reached exists -/

theorem WellFormed.has_window_of_listed (he : e.WellFormed) {t : TabPage} (ht : t ∈ e.tabs)
    {id : Nat} (hid : id ∈ t.windows) : e.has (.window id) :=
  has_window.mpr (he.layout.mem_ids ht hid)

/-- What goes with a tab page that is closed: its windows, and then itself. -/
theorem WellFormed.has_of_tab (he : e.WellFormed) {t : TabPage} (ht : t ∈ e.tabs) {key : Entity}
    (hkey : key ∈ t.windows.map Entity.window ++ [Entity.tabPage t.id]) : e.has key := by
  rcases List.mem_append.mp hkey with hkey | hkey
  · obtain ⟨id, hid, rfl⟩ := List.mem_map.mp hkey
    exact he.has_window_of_listed ht hid
  · rw [List.mem_singleton.mp hkey]
    exact has_tabPage.mpr (List.mem_map_of_mem ht)

theorem WellFormed.has_buffer_of_window (he : e.WellFormed) {w : Window} (hw : w ∈ e.windows) :
    e.has (.buffer w.buffer) := by
  obtain ⟨b, hb, hnumber, -⟩ := he.shown w hw
  exact has_buffer.mpr (List.mem_map.mpr ⟨b, hb, hnumber⟩)

theorem WellFormed.has_currentTab (he : e.WellFormed) : e.has (.tabPage e.currentTab) :=
  has_tabPage.mpr he.layout.current_mem

theorem WellFormed.has_currentWindow (he : e.WellFormed) : e.has (.window e.currentWindow) := by
  obtain ⟨t, ht⟩ := Option.isSome_iff_exists.mp he.has_currentTab
  have hmem := List.mem_of_find?_eq_some ht
  rw [currentWindow, ht]
  exact he.has_window_of_listed hmem (he.layout.current_listed t hmem)

theorem WellFormed.has_currentBuffer (he : e.WellFormed) : e.has (.buffer e.currentBuffer) := by
  obtain ⟨w, hw⟩ := Option.isSome_iff_exists.mp he.has_currentWindow
  rw [currentBuffer, hw]
  exact he.has_buffer_of_window (List.mem_of_find?_eq_some hw)

/-! ### Evolution -/

/-- One editor comes after another one. -/
structure Evolves (e e' : Editor) : Prop where
  wellFormed : e'.WellFormed
  next_le : ∀ key, e.next key ≤ e'.next key
  /-- What exists later and not before has a new identifier. -/
  new : ∀ key, e'.has key → e.has key ∨ e.next key ≤ key.id
  /-- What is announced is gone, and what is gone is announced. -/
  announced : ∃ gone, e'.departed = e.departed ++ gone ∧ (∀ key ∈ gone, e'.Gone key) ∧
    ∀ key, e.has key → e'.has key ∨ key ∈ gone

namespace Evolves

/-- A well-formed editor evolves into itself. -/
theorem refl (he : e.WellFormed) : e.Evolves e :=
  ⟨he, fun _ => Nat.le_refl _, fun _ h => .inl h, [], by simp, by simp, fun _ h => .inl h⟩

/-- What is gone stays gone. -/
theorem gone (h : e.Evolves e') {key : Entity} (hkey : e.Gone key) : e'.Gone key := by
  refine ⟨?_, Nat.lt_of_lt_of_le hkey.2 (h.next_le key)⟩
  by_contra hhas
  rcases h.new key (by simpa using hhas) with hold | hnew
  · exact absurd hold (by simp [hkey.1])
  · exact absurd hkey.2 (by omega)

/-- Evolutions compose. -/
theorem trans (h : e.Evolves e') (h' : e'.Evolves e'') : e.Evolves e'' := by
  obtain ⟨gone, hdeparted, hgone, hkept⟩ := h.announced
  obtain ⟨gone', hdeparted', hgone', hkept'⟩ := h'.announced
  refine ⟨h'.wellFormed, fun key => Nat.le_trans (h.next_le key) (h'.next_le key), ?_, gone ++ gone',
    by rw [hdeparted', hdeparted, List.append_assoc], ?_, ?_⟩
  · intro key hkey
    rcases h'.new key hkey with hkey | hnew
    · exact h.new key hkey
    · exact .inr (Nat.le_trans (h.next_le key) hnew)
  · intro key hkey
    rcases List.mem_append.mp hkey with hkey | hkey
    · exact h'.gone (hgone key hkey)
    · exact hgone' key hkey
  · intro key hkey
    rcases hkept key hkey with hkey | hkey
    · rcases hkept' key hkey with hkey | hkey
      · exact .inl hkey
      · exact .inr (List.mem_append_right _ hkey)
    · exact .inr (List.mem_append_left _ hkey)

/-- What exists at first and not later is gone. -/
theorem gone_of_not_has (h : e.Evolves e') {key : Entity} (hkey : e.has key)
    (hgone : e'.has key = false) : e'.Gone key := by
  obtain ⟨gone, -, hall, hkept⟩ := h.announced
  rcases hkept key hkey with hkey | hkey
  · exact absurd hkey (by simp [hgone])
  · exact hall key hkey

/-- An edit that gives out no identifier and destroys nothing. -/
theorem of_same (hwell : e'.WellFormed) (hnext : ∀ key, e'.next key = e.next key)
    (hhas : ∀ key, e'.has key = e.has key) (hdeparted : e'.departed = e.departed) :
    e.Evolves e' := by
  refine ⟨hwell, fun key => Nat.le_of_eq (hnext key).symm, fun key h => ?_, [], by simpa using hdeparted,
    by simp, fun key h => ?_⟩
  · exact .inl (hhas key ▸ h)
  · exact .inl ((hhas key).symm ▸ h)

/-- An edit that gives out new identifiers and destroys nothing. -/
theorem of_more (hwell : e'.WellFormed) (hnext : ∀ key, e.next key ≤ e'.next key)
    (hhas : ∀ key, e'.has key ↔ e.has key ∨ (key.id = e.next key ∧ e.next key < e'.next key))
    (hdeparted : e'.departed = e.departed) : e.Evolves e' := by
  refine ⟨hwell, hnext, fun key h => ?_, [], by simpa using hdeparted, by simp, fun key h => ?_⟩
  · rcases (hhas key).mp h with hold | hnew
    · exact .inl hold
    · exact .inr (Nat.le_of_eq hnew.1.symm)
  · exact .inl ((hhas key).mpr (.inl h))

/-- An edit that gives out no identifier and announces what it destroys. -/
theorem of_less (gone : List Entity) (he : e.WellFormed) (hwell : e'.WellFormed)
    (hnext : ∀ key, e'.next key = e.next key) (hall : ∀ key ∈ gone, e.has key)
    (hhas : ∀ key, e'.has key ↔ e.has key ∧ key ∉ gone)
    (hdeparted : e'.departed = e.departed ++ gone) : e.Evolves e' := by
  refine ⟨hwell, fun key => Nat.le_of_eq (hnext key).symm, fun key h => .inl ((hhas key).mp h).1, gone,
    hdeparted, fun key h => ⟨?_, ?_⟩, fun key h => ?_⟩
  · by_contra hkey
    exact ((hhas key).mp (by simpa using hkey)).2 h
  · rw [hnext]
    exact he.id_lt_next (hall key h)
  · by_cases hkey : key ∈ gone
    · exact .inr hkey
    · exact .inl ((hhas key).mpr ⟨h, hkey⟩)

end Evolves

/-- Two editors with the same identifiers have the same entities. -/
theorem has_congr (hbuffers : e'.buffers.map (·.number) = e.buffers.map (·.number))
    (hwindows : e'.windows.map (·.id) = e.windows.map (·.id))
    (htabs : e'.tabs.map (·.id) = e.tabs.map (·.id)) (key : Entity) : e'.has key = e.has key := by
  rw [Bool.eq_iff_iff]
  cases key with
  | buffer id => rw [has_buffer, has_buffer, hbuffers]
  | window id => rw [has_window, has_window, hwindows]
  | tabPage id => rw [has_tabPage, has_tabPage, htabs]

/-! ### What exists after an edit -/

/-- Exactly the next identifier of a kind that is given out joins the others. -/
theorem has_addBuffer (e : Editor) (name : String) (lines : List String) (key : Entity) :
    (e.addBuffer name lines).2.has key ↔
      e.has key ∨ (key.id = e.next key ∧ e.next key < (e.addBuffer name lines).2.next key) := by
  cases key <;>
    simp [has_buffer, has_window, has_tabPage, next, Editor.addBuffer, newScope, Entity.id]

theorem has_withSplit (e : Editor) (page pos buffer : Nat) (key : Entity) :
    (e.withSplit page pos buffer).has key ↔
      e.has key ∨ (key.id = e.next key ∧ e.next key < (e.withSplit page pos buffer).next key) := by
  cases key with
  | buffer n => simp [has_buffer, next, withSplit, addWindow, newScope, mapTab]
  | window n =>
    rw [has_window, has_window, withSplit_windowIds]
    simp [next, withSplit, addWindow, newScope, mapTab, Entity.id]
  | tabPage n =>
    have hkeys : (e.withSplit page pos buffer).tabs.map (·.id) = e.tabs.map (·.id) :=
      (e.addWindow buffer).2.mapTab_ids page fun t => rfl
    rw [has_tabPage, has_tabPage, hkeys]
    simp [next, withSplit, addWindow, newScope, mapTab]

theorem has_withTab (e : Editor) (buffer : Nat) (key : Entity) :
    (e.withTab buffer).has key ↔
      e.has key ∨ (key.id = e.next key ∧ e.next key < (e.withTab buffer).next key) := by
  cases key with
  | buffer n => simp [has_buffer, next, withTab, addWindow, addTab, newScope]
  | window n =>
    rw [has_window, has_window, withTab_windowIds]
    simp [next, withTab, addWindow, addTab, newScope, Entity.id]
  | tabPage n => simp [has_tabPage, next, withTab, addWindow, addTab, newScope, Entity.id]

theorem has_withoutBuffer (e : Editor) (id other : Nat) (key : Entity) :
    (e.withoutBuffer id other).has key ↔ e.has key ∧ key ∉ [Entity.buffer id] := by
  cases key with
  | buffer n =>
    have hkeys : (e.withoutBuffer id other).buffers.map (·.number) =
        (e.buffers.map (·.number)).filter (· != id) := by
      rw [List.filter_map]
      rfl
    rw [has_buffer, has_buffer, hkeys, List.mem_filter]
    simp
  | window n =>
    rw [has_window, has_window, withoutBuffer_windowIds]
    simp
  | tabPage n =>
    rw [has_tabPage, has_tabPage]
    simp [withoutBuffer, announce]

theorem has_withoutWindow (e : Editor) (page id : Nat) (windows : List Nat) (current : Nat)
    (key : Entity) :
    (e.withoutWindow page id windows current).has key ↔ e.has key ∧ key ∉ [Entity.window id] := by
  cases key with
  | buffer n => simp [has_buffer, withoutWindow, withoutWindows, mapTab]
  | window n =>
    rw [has_window, has_window, withoutWindow_windowIds, List.mem_filter]
    simp
  | tabPage n =>
    have hkeys : (e.withoutWindow page id windows current).tabs.map (·.id) =
        e.tabs.map (·.id) := e.mapTab_ids page fun t => rfl
    rw [has_tabPage, has_tabPage, hkeys]
    simp

/-- A tab page among others has an identifier of its own. -/
theorem mem_tabIds_around {before after : List TabPage} {page : TabPage}
    (hnodup : ((before ++ page :: after).map (·.id)).Nodup) {n : Nat} :
    n ∈ (before ++ after).map (·.id) ↔
      n ∈ (before ++ page :: after).map (·.id) ∧ n ≠ page.id := by
  rw [List.map_append, List.map_cons] at hnodup
  have hout := (List.nodup_cons.mp (List.nodup_middle.mp hnodup)).1
  rw [← List.map_append] at hout
  have hne : n ∈ (before ++ after).map (·.id) → n ≠ page.id := fun hn heq => hout (heq ▸ hn)
  rw [(List.perm_middle.map TabPage.id).mem_iff, List.map_cons, List.mem_cons]
  constructor
  · exact fun hn => ⟨.inr hn, hne hn⟩
  · rintro ⟨heq | hn, hother⟩
    · exact absurd heq hother
    · exact hn

theorem WellFormed.has_withoutTab (he : e.WellFormed) {before after : List TabPage} {page : TabPage}
    (htabs : e.tabs = before ++ page :: after) (next : Nat) (key : Entity) :
    (e.withoutTab page (before ++ after) next).has key ↔
      e.has key ∧ key ∉ page.windows.map Entity.window ++ [Entity.tabPage page.id] := by
  cases key with
  | buffer n => simp [has_buffer, withoutTab, withoutWindows, announce]
  | window n =>
    have hkeys : (e.withoutTab page (before ++ after) next).windows.map (·.id) =
        (e.windows.map (·.id)).filter fun id => !page.windows.contains id :=
      e.withoutWindows_ids page.windows
    rw [has_window, has_window, hkeys, List.mem_filter]
    simp
  | tabPage n =>
    have hnodup := he.layout.nodup
    rw [htabs] at hnodup
    rw [has_tabPage, has_tabPage, htabs]
    change n ∈ (before ++ after).map (·.id) ↔ _
    rw [mem_tabIds_around hnodup]
    simp

/-- Changing one window under its identifier destroys nothing. -/
theorem evolves_mapWindow {id : Nat} {f : Window → Window} (hwell : (e.mapWindow id f).WellFormed)
    (hf : ∀ w, (f w).id = w.id) : e.Evolves (e.mapWindow id f) :=
  .of_same hwell (fun key => by cases key <;> rfl) (has_congr rfl (e.mapWindow_ids id hf) rfl) rfl

/-- Every edit of a well-formed editor is an evolution. -/
theorem Edit.evolves (h : Edit e e') (he : e.WellFormed) : e.Evolves e' := by
  have hwell := h.wellFormed he
  cases h with
  | addBuffer name lines =>
    refine .of_more hwell (fun key => ?_) (e.has_addBuffer name lines) rfl
    cases key <;> simp [next, Editor.addBuffer, newScope]
  | renameBuffer id name =>
    exact .of_same hwell (fun key => by cases key <;> rfl)
      (has_congr (e.mapBuffer_numbers id fun b => rfl) rfl rfl) rfl
  | @lines id lines hid hlines =>
    exact .of_same hwell (fun key => by cases key <;> rfl)
      (has_congr (e.mapBuffer_numbers id fun b => rfl) (e.withLines_windowIds id lines) rfl) rfl
  | @wipe id other hid hother hne =>
    refine .of_less [.buffer id] he hwell (fun key => by cases key <;> rfl) (fun key hkey => ?_)
      (e.has_withoutBuffer id other.number) rfl
    rw [List.mem_singleton.mp hkey]
    exact hid
  | @split page pos buffer hbuffer hpage hpos =>
    refine .of_more hwell (fun key => ?_) (e.has_withSplit page.id pos buffer) rfl
    cases key <;> simp [next, withSplit, addWindow, newScope, mapTab]
  | @closeTab before after page next htabs hnext hcurrent =>
    have hpage : page ∈ e.tabs := htabs ▸ List.mem_append_right _ List.mem_cons_self
    refine .of_less (page.windows.map .window ++ [.tabPage page.id]) he hwell
      (fun key => by cases key <;> rfl) (fun _ => he.has_of_tab hpage)
      (he.has_withoutTab htabs next.id) ?_
    simp [withoutTab, withoutWindows, announce]
  | @closeWindow page id current hpage hid hcurrent =>
    refine .of_less [.window id] he hwell (fun key => by cases key <;> rfl) (fun key hkey => ?_)
      (e.has_withoutWindow page.id id (page.windows.erase id) current) rfl
    rw [List.mem_singleton.mp hkey]
    exact he.has_window_of_listed hpage hid
  | cursor => exact evolves_mapWindow hwell fun w => rfl
  | @tab buffer hbuffer =>
    refine .of_more hwell (fun key => ?_) (e.has_withTab buffer) rfl
    cases key <;> simp [next, withTab, addWindow, addTab, newScope]
  | @currentWindow page id hpage hid =>
    exact .of_same hwell (fun key => by cases key <;> rfl)
      (has_congr rfl rfl (e.mapTab_ids page.id fun t => rfl)) rfl
  | @currentTab page hpage =>
    exact .of_same hwell (fun key => by cases key <;> rfl) (has_congr rfl rfl rfl) rfl
  | showBuffer | height | width => exact evolves_mapWindow hwell fun w => rfl

end Editor

/-! ### Orderly computations -/

open ScriptBridge.Computation

/-- The ways in which the containers change in one step. -/
inductive Store.Step (s : Store) : Store → Prop where
  | newList (items : List Value) : Step s (s.newList items).2
  | newDict (entries : List (String × Value)) (scope : Scope) : Step s (s.newDict entries scope).2
  | writeList {s' : Store} (l : ListRef) (change : List Value → Except LockError (List Value))
      (h : s.writeList l change = .ok s') : Step s s'
  | writeDict {s' : Store} (d : DictRef)
      (change : List (String × Value) → List (String × Value))
      (h : s.writeDict d change = .ok s') : Step s s'
  | lockList {s' : Store} (l : ListRef) (lock : Lock) (h : s.lockList l lock = .ok s') : Step s s'
  | lockDict {s' : Store} (d : DictRef) (lock : Lock) (h : s.lockDict d lock = .ok s') : Step s s'

namespace Editor

/-- The ways in which the editor changes in one step. -/
inductive Move (e : Editor) : Editor → Prop where
  | edit {e' : Editor} (h : e.Edit e') : Move e e'
  | store {s : Store} (h : e.store.Step s) : Move e { e with store := s }
  | say (m : Message) : Move e (e.say m)
  /-- The messages are taken. -/
  | taken : Move e { e with messages := [] }

/-- One editor comes after another one by moves. -/
def Moves : Editor → Editor → Prop := Relation.ReflTransGen Move

variable {e e' e'' : Editor}

theorem Move.evolves (h : e.Move e') (he : e.WellFormed) : e.Evolves e' := by
  have hsame {e' : Editor} (hwell : e'.WellFormed) (hbuffers : e'.buffers = e.buffers)
      (hwindows : e'.windows = e.windows) (htabs : e'.tabs = e.tabs)
      (hnext : ∀ key, e'.next key = e.next key) (hdeparted : e'.departed = e.departed) :
      e.Evolves e' :=
    .of_same hwell hnext (has_congr (by rw [hbuffers]) (by rw [hwindows]) (by rw [htabs])) hdeparted
  cases h with
  | edit h => exact h.evolves he
  | store h =>
    exact hsame ⟨he.texts, he.layout, he.shown⟩ rfl rfl rfl (fun key => by cases key <;> rfl) rfl
  | say m =>
    exact hsame ⟨he.texts, he.layout, he.shown⟩ rfl rfl rfl (fun key => by cases key <;> rfl) rfl
  | taken =>
    exact hsame ⟨he.texts, he.layout, he.shown⟩ rfl rfl rfl (fun key => by cases key <;> rfl) rfl

/-- A run of moves from a well-formed editor is an evolution. -/
theorem Moves.evolves (h : e.Moves e') (he : e.WellFormed) : e.Evolves e' := by
  induction h with
  | refl => exact .refl he
  | tail _ hmove ih => exact ih.trans (hmove.evolves ih.wellFormed)

theorem Moves.wellFormed (h : e.Moves e') (he : e.WellFormed) : e'.WellFormed :=
  (h.evolves he).wellFormed

end Editor

/-- A computation that leaves a well-formed editor by moves. -/
def Orderly {ε α : Type} (a : EStateM ε Editor α) : Prop :=
  ∀ e : Editor, e.WellFormed → e.Moves (final (a e))

/-- User-defined functions that act on the editor by moves only. -/
def UserFunctions.Orderly (functions : UserFunctions) : Prop :=
  ∀ name f, functions name = some f → ∀ args, Host.Orderly (f args)

end ScriptBridge.Host
