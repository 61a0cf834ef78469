import Mathlib.Data.List.Perm.Subperm
import ScriptBridge.Proofs.Host.Announcements
import ScriptBridge.Text.Integer

/-!
# Positions in an editor

Where tab pages stand among the others, windows in their tab page, and buffers in the order of their
numbers. A position is searched for by identifier, in lists in which each identifier occurs once, so
the search ends where the identifier was found.
-/

namespace ScriptBridge.Host.Editor

variable {e e' : Editor} {t : TabPage} {i j id : Nat}

/-! ### Tab pages and windows -/

/-- The number of a tab page says where it stands. -/
theorem WellFormed.tabNumber? (he : e.WellFormed) (ht : e.tabs[i]? = some t) :
    e.tabNumber? t.id = some (i + 1) := by
  obtain ⟨hi, rfl⟩ := List.getElem?_eq_some_iff.mp ht
  have hfind : e.tabs.findIdx? (·.id == e.tabs[i].id) = some i := by
    have hdistinct := List.pairwise_iff_getElem.mp (List.pairwise_map.mp he.layout.nodup)
    refine List.findIdx?_eq_some_iff_getElem.mpr ⟨hi, by simp, fun j hj heq => ?_⟩
    exact hdistinct j i (Nat.lt_trans hj hi) hi hj (by simpa using heq)
  rw [Editor.tabNumber?, hfind]
  rfl

/-- A window is found in the tab page that lists it. -/
theorem WellFormed.find?_listing (he : e.WellFormed) (ht : t ∈ e.tabs) (hid : id ∈ t.windows) :
    e.tabs.find? (·.windows.contains id) = some t := by
  obtain ⟨w, hw, rfl⟩ := List.mem_map.mp (he.layout.mem_ids ht hid)
  obtain ⟨page, -, -, honly⟩ := he.consistent.listed_once w hw
  have hsome : (e.tabs.find? (·.windows.contains w.id)).isSome :=
    List.find?_isSome.mpr ⟨t, ht, by simpa using hid⟩
  obtain ⟨u, hu⟩ := Option.isSome_iff_exists.mp hsome
  have hlisted : w.id ∈ u.windows := by simpa using List.find?_some hu
  rw [hu, honly u (List.mem_of_find?_eq_some hu) hlisted, honly t ht hid]

theorem WellFormed.windowTab? (he : e.WellFormed) (ht : t ∈ e.tabs) (hid : id ∈ t.windows) :
    e.windowTab? id = some t.id := by
  rw [Editor.windowTab?, he.find?_listing ht hid]
  rfl

/-- The number of a window says where it stands in its tab page. -/
theorem WellFormed.windowNumber? (he : e.WellFormed) (ht : t ∈ e.tabs)
    (hid : t.windows[j]? = some id) : e.windowNumber? id = some (j + 1) := by
  obtain ⟨hj, rfl⟩ := List.getElem?_eq_some_iff.mp hid
  have hnodup := (List.nodup_flatMap.mp
    (he.layout.listed.nodup_iff.mpr he.layout.ids_nodup)).1 t ht
  rw [Editor.windowNumber?, he.find?_listing ht (List.getElem_mem hj), Option.map_some,
    hnodup.idxOf_getElem]

/-- What is current is so in its turn: a window of the current tab page, and the buffer it shows. -/
theorem WellFormed.current (he : e.WellFormed) : ∃ t w, e.tab? e.currentTab = some t ∧
    e.currentWindow = t.current ∧ e.window? t.current = some w ∧ e.currentBuffer = w.buffer := by
  obtain ⟨t, ht⟩ := he.tab?_currentTab
  have hmem := List.mem_of_find?_eq_some ht
  have hwindow : e.currentWindow = t.current := by rw [currentWindow, ht]; rfl
  obtain ⟨w, hw⟩ := Option.isSome_iff_exists.mp
    (he.consistent.listed_exists t hmem _ (he.layout.current_listed t hmem))
  refine ⟨t, w, ht, hwindow, hw, ?_⟩
  rw [currentBuffer, hwindow, hw]
  rfl

/-! ### Identifiers of 32 bits -/

/-- No more identifiers have been given out than fit 32 bits. -/
structure IdsFit (e : Editor) : Prop where
  buffers : e.nextBuffer ≤ Text.count32
  windows : e.nextWindow ≤ Text.count32
  tabs : e.nextTab ≤ Text.count32

/-- There are no more distinct identifiers below a bound than the bound says. -/
theorem length_le_of_lt {ids : List Nat} {next : Nat} (hnodup : ids.Nodup)
    (hlt : ∀ id ∈ ids, id < next) : ids.length ≤ next := by
  have hsubset : ids ⊆ List.range next := fun id hid => List.mem_range.mpr (hlt id hid)
  have hle := (List.subperm_of_subset hnodup hsubset).length_le
  rwa [List.length_range] at hle

theorem WellFormed.tabs_length_le (he : e.WellFormed) (hfit : e.IdsFit) :
    e.tabs.length ≤ Text.count32 := by
  have hle := length_le_of_lt he.layout.nodup he.layout.lt_next
  rw [List.length_map] at hle
  exact Nat.le_trans hle hfit.tabs

theorem WellFormed.windows_length_le (he : e.WellFormed) (hfit : e.IdsFit) (ht : t ∈ e.tabs) :
    t.windows.length ≤ Text.count32 := by
  have hnodup := (List.nodup_flatMap.mp
    (he.layout.listed.nodup_iff.mpr he.layout.ids_nodup)).1 t ht
  refine Nat.le_trans (length_le_of_lt hnodup fun id hid => ?_) hfit.windows
  exact he.layout.ids_lt_next id (he.layout.mem_ids ht hid)

theorem WellFormed.number_lt (he : e.WellFormed) (hfit : e.IdsFit) {x : Buffer}
    (hx : x ∈ e.buffers) : x.number < Text.count32 :=
  Nat.lt_of_lt_of_le (he.texts.lt_next _ (List.mem_map_of_mem hx)) hfit.buffers

/-! ### The order of the buffers -/

/-- The buffers are in the order of their numbers. -/
def Increasing (e : Editor) : Prop := (e.buffers.map (·.number)).Pairwise (· < ·)

/-- An editor with the same numbers, or fewer. -/
theorem Increasing.sublist (h : e.Increasing)
    (hsub : (e'.buffers.map (·.number)).Sublist (e.buffers.map (·.number))) : e'.Increasing :=
  List.Pairwise.sublist hsub h

theorem Edit.increasing (h : Edit e e') (he : e.WellFormed) (hinc : e.Increasing) :
    e'.Increasing := by
  have hsame {e' : Editor} (heq : e'.buffers.map (·.number) = e.buffers.map (·.number)) :
      e'.Increasing := hinc.sublist (heq ▸ List.Sublist.refl _)
  cases h with
  | addBuffer name lines =>
    unfold Increasing
    rw [Editor.addBuffer, List.map_append, List.pairwise_append]
    refine ⟨hinc, List.pairwise_singleton _ _, fun n hn m hm => ?_⟩
    rw [List.mem_singleton.mp hm]
    exact he.texts.lt_next n hn
  | renameBuffer id name => exact hsame (e.mapBuffer_numbers id fun b => rfl)
  | @lines id lines hid hlines => exact hsame (e.mapBuffer_numbers id fun b => rfl)
  | wipe hid hother hne => exact hinc.sublist (List.filter_sublist.map _)
  | split | closeTab | closeWindow | cursor | tab | currentWindow | currentTab | showBuffer | height
    | width => exact hsame rfl

theorem Moves.increasing (h : e.Moves e') (he : e.WellFormed) (hinc : e.Increasing) :
    e'.Increasing := by
  induction h with
  | refl => exact hinc
  | tail hmoves hmove ih =>
    cases hmove with
    | edit h => exact h.increasing (Moves.wellFormed hmoves he) ih
    | store | say | taken => exact ih

/-- Every run of operations reaches an editor with its buffers in order. -/
theorem run_increasing (ops : List Operation) : (run ops).Increasing := by
  induction ops using List.reverseRecOn with
  | nil => exact List.pairwise_singleton _ _
  | append_singleton ops op ih =>
    have hedits := op.perform_edits (run_wellFormed ops)
    rw [run_append, ← op.final_perform]
    generalize op.perform (run ops) = outcome at hedits ⊢
    cases outcome with
    | ok _ e' => exact Edit.increasing hedits (run_wellFormed ops) ih
    | error _ e' =>
      have hsame : e' = run ops := hedits
      rw [hsame]
      exact ih

end ScriptBridge.Host.Editor
