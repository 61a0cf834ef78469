import Mathlib.Algebra.Order.BigOperators.Group.List
import Mathlib.Algebra.Order.Group.Nat
import ScriptBridge.Proofs.Host.Announcements

/-!
# Refused operations

What an operation needs can be read off the editor: something that exists, another buffer or window
beside the one that goes, lines and cursors inside of a buffer. An operation is refused exactly if
it lacks that, and then it has changed nothing. In particular nothing is missing that an operation
only looks up once it has made a new window or tab page.
-/

namespace ScriptBridge.Host

open ScriptBridge.Computation

/-- The refusal of an operation on something that does not exist. -/
def Entity.missing : Entity → EditorError
  | .buffer id => .noSuchBuffer id
  | .window id => .noSuchWindow id
  | .tabPage id => .noSuchTab id

/-- A refusal, unless a condition holds. -/
def EditorError.unless (reason : EditorError) (condition : Prop) [Decidable condition] :
    Option EditorError :=
  if condition then none else some reason

namespace Editor

/-- The refusal of an operation on something that may be missing. -/
def missing? (e : Editor) (key : Entity) : Option EditorError := key.missing.unless (e.has key)

/-- The count of lines of a buffer. -/
def lineCount (e : Editor) (id : Nat) : Nat := ((e.buffer? id).map (·.lines.length)).getD 0

/-- The count of lines of the buffer that a window shows. -/
def shownLineCount (e : Editor) (id : Nat) : Nat :=
  ((e.window? id).map fun w => e.lineCount w.buffer).getD 0

/-- Why lines of a buffer cannot be replaced. -/
def lines? (e : Editor) (id lo hi : Nat) : Option EditorError :=
  (e.missing? (.buffer id)).or
    ((EditorError.invalidLine (max hi lo)).unless (lo ≤ hi ∧ hi ≤ e.lineCount id))

end Editor

/-- Why an operation is refused, if it is. -/
def Operation.refusal? (e : Editor) : Operation → Option EditorError
  | .addBuffer .. => none
  | .renameBuffer id _ | .splitWindow id | .newTab id | .setCurrentBuffer id =>
    e.missing? (.buffer id)
  | .setCurrentWindow id | .setHeight id _ | .setWidth id _ => e.missing? (.window id)
  | .setCurrentTab id => e.missing? (.tabPage id)
  | .replaceLines id lo hi _ => e.lines? id lo hi
  | .insertLines id after _ => e.lines? id after after
  | .wipeBuffer id =>
    (e.missing? (.buffer id)).or (EditorError.lastBuffer.unless (e.buffers.length ≠ 1))
  | .closeWindow id =>
    (e.missing? (.window id)).or (EditorError.lastWindow.unless (e.windows.length ≠ 1))
  | .closeTab id =>
    (e.missing? (.tabPage id)).or (EditorError.lastWindow.unless (e.tabs.length ≠ 1))
  | .setCursor id row _ =>
    (e.missing? (.window id)).or
      (EditorError.cursorOutside.unless (1 ≤ row ∧ row ≤ e.shownLineCount id))

/-- The refusal that an outcome is, if it is one. -/
def Change.refused? {α : Type} : EStateM.Result EditorError Editor α → Option EditorError
  | .ok .. => none
  | .error reason _ => some reason

variable {e : Editor}

/-- The only window of an editor is the only one of its only tab page. -/
theorem Editor.WellFormed.windows_length_eq_one_iff (he : e.WellFormed) {page : TabPage}
    (hpage : page ∈ e.tabs) :
    e.windows.length = 1 ↔ page.windows.length = 1 ∧ e.tabs.length = 1 := by
  have hcount : (e.tabs.map (·.windows.length)).sum = e.windows.length := by
    rw [← List.length_flatMap, he.layout.listed.length_eq, List.length_map]
  have hfilled : ∀ n ∈ e.tabs.map (·.windows.length), 1 ≤ n := by
    intro n hn
    obtain ⟨t, ht, rfl⟩ := List.mem_map.mp hn
    exact List.length_pos_of_mem (he.layout.current_listed t ht)
  have hmem : page.windows.length ∈ e.tabs.map (·.windows.length) :=
    List.mem_map.mpr ⟨page, hpage, rfl⟩
  constructor
  · intro hone
    have htabs := List.length_le_sum_of_one_le _ hfilled
    have hle := List.single_le_sum (fun n _ => Nat.zero_le n) _ hmem
    have hpos := hfilled _ hmem
    have hsome := List.length_pos_of_mem hpage
    rw [List.length_map] at htabs
    omega
  · rintro ⟨hwindows, htabs⟩
    obtain ⟨t, ht⟩ := List.length_eq_one_iff.mp htabs
    rw [ht, List.mem_singleton] at hpage
    rw [← hcount, ht, List.map_singleton, List.sum_singleton, ← hpage, hwindows]

namespace Change

open Editor

variable {α β : Type}

theorem refused?_discard (a : Change α) (e : Editor) :
    refused? ((discard a : Change Unit) e) = refused? (a e) := by
  change refused? ((a >>= fun _ => pure ()) e) = _
  rw [bind_apply]
  cases a e <;> rfl

/-- Something that may be missing is looked up, which changes nothing. -/
structure LooksUp (e : Editor) (key : Entity) (found : Option α) (a : Change α) : Prop where
  has_eq : e.has key = found.isSome
  of_none : found = none → a e = .error key.missing e
  of_some : ∀ x, found = some x → a e = .ok x e

theorem buffer_looksUp (id : Nat) : LooksUp e (.buffer id) (e.buffer? id) (buffer id) where
  has_eq := rfl
  of_none h := by rw [buffer_eq, h]; rfl
  of_some b h := by rw [buffer_eq, h]

theorem window_looksUp (id : Nat) : LooksUp e (.window id) (e.window? id) (window id) where
  has_eq := rfl
  of_none h := by rw [window_eq, h]; rfl
  of_some w h := by rw [window_eq, h]

theorem tab_looksUp (id : Nat) : LooksUp e (.tabPage id) (e.tab? id) (tab id) where
  has_eq := rfl
  of_none h := by rw [tab_eq, h]; rfl
  of_some t h := by rw [tab_eq, h]

namespace LooksUp

variable {key : Entity} {found : Option α} {a : Change α} {f : α → Change β}

/-- What comes next may be refused too. -/
theorem refused?_bind (h : LooksUp e key found a) {reason : Option EditorError}
    (hf : ∀ x, found = some x → refused? (f x e) = reason) :
    refused? ((a >>= f) e) = (e.missing? key).or reason := by
  rw [bind_apply, missing?, EditorError.unless, h.has_eq]
  cases found with
  | none =>
    rw [h.of_none rfl]
    rfl
  | some x =>
    rw [h.of_some x rfl]
    exact hf x rfl

/-- What comes next is not refused. -/
theorem refused?_eq (h : LooksUp e key found a)
    (hf : ∀ x, found = some x → refused? (f x e) = none) :
    refused? ((a >>= f) e) = e.missing? key :=
  (h.refused?_bind hf).trans Option.or_none

end LooksUp

/-! ### Each operation -/

theorem refused?_replaceLines (id lo hi : Nat) (new : List String) :
    refused? (replaceLines id lo hi new e) = e.lines? id lo hi := by
  rw [replaceLines_eq, lines?, missing?, EditorError.unless, has, lineCount]
  cases e.buffer? id with
  | none => rfl
  | some b =>
    simp only [Option.isSome_some, if_true, Option.none_or, Option.map_some, Option.getD_some,
      EditorError.unless]
    by_cases h : lo ≤ hi ∧ hi ≤ b.lines.length
    · rw [if_pos h, if_neg (by simp; omega)]
      rfl
    · rw [if_neg h, if_pos (by simp; omega)]
      rfl

theorem refused?_wipeBuffer (he : e.WellFormed) (id : Nat) :
    refused? (wipeBuffer id e) =
      (e.missing? (.buffer id)).or (EditorError.lastBuffer.unless (e.buffers.length ≠ 1)) := by
  refine (buffer_looksUp id).refused?_bind fun b hb => ?_
  have hmem := he.buffer?_eq_some.mp hb
  have hother := Lookup.find?_ne_eq_none_iff he.texts.nodup hmem.1 hmem.2
  rw [bind_apply, get_apply, EditorError.unless]
  dsimp only
  cases h : e.buffers.find? (·.number != id) with
  | none => rw [if_neg (not_not_intro (hother.mp h))]; rfl
  | some other => rw [if_pos (hother.not.mp (by simp [h]))]; rfl

theorem refused?_splitWindow (he : e.WellFormed) (buffer : Nat) :
    refused? (splitWindow buffer e) = e.missing? (.buffer buffer) := by
  refine (buffer_looksUp buffer).refused?_eq fun b hb => ?_
  obtain ⟨page, hpage⟩ := he.tab?_currentTab
  have hnew : (e.addWindow buffer).2.tab? (e.addWindow buffer).2.currentTab = some page := hpage
  simp only [bind_apply, modifyGet_apply, get_apply, tab_eq, hnew]
  rfl

theorem refused?_closeTab (he : e.WellFormed) (id : Nat) :
    refused? (closeTab id e) =
      (e.missing? (.tabPage id)).or (EditorError.lastWindow.unless (e.tabs.length ≠ 1)) := by
  have hkey : e.has (.tabPage id) = (e.tab? id).isSome := rfl
  rw [missing?, EditorError.unless, hkey]
  cases hpage : e.tab? id with
  | none =>
    have hindex : e.tabs.findIdx? (·.id == id) = none := by
      rw [List.findIdx?_eq_none_iff]
      exact fun t ht => by simpa using List.find?_eq_none.mp hpage t ht
    simp only [closeTab, bind_apply, get_apply, hindex]
    rfl
  | some page =>
    obtain ⟨hmem, hid⟩ := he.tab?_eq_some.mp hpage
    obtain ⟨index, hindex⟩ : ∃ index, e.tabs.findIdx? (·.id == id) = some index := by
      rw [← Option.isSome_iff_exists, List.findIdx?_isSome, List.any_eq_true]
      exact ⟨page, hmem, by simpa using hid⟩
    simp only [Option.isSome_some, if_true, Option.none_or, EditorError.unless]
    by_cases hlast : e.tabs.length = 1
    · rw [if_neg (not_not_intro hlast)]
      simp only [closeTab, bind_apply, get_apply, hindex, hpage, hlast, if_true, throw_apply]
      rfl
    · rw [if_pos hlast, closeTab_eq hindex hpage hid hlast]
      rfl

/-- A window is found in the list of a tab page exactly if it exists. -/
theorem windowTab?_isSome (he : e.WellFormed) (id : Nat) :
    (e.windowTab? id).isSome = e.has (.window id) := by
  rw [Bool.eq_iff_iff, has_window, ← he.layout.listed.mem_iff, List.mem_flatMap, windowTab?,
    Option.isSome_map, List.find?_isSome]
  simp

theorem refused?_closeWindow (he : e.WellFormed) (id : Nat) :
    refused? (closeWindow id e) =
      (e.missing? (.window id)).or (EditorError.lastWindow.unless (e.windows.length ≠ 1)) := by
  rw [closeWindow, bind_apply, get_apply, missing?, EditorError.unless, ← windowTab?_isSome he]
  dsimp only
  cases htab : e.windowTab? id with
  | none => rfl
  | some tab =>
    obtain ⟨page, hpage, rfl, hid⟩ := exists_windowTab htab
    have hfound : e.tab? page.id = some page := he.tab?_eq_some.mpr ⟨hpage, rfl⟩
    have hopen : e.missing? (.tabPage page.id) = none := by
      rw [missing?, EditorError.unless, if_pos (has_tabPage.mpr (List.mem_map_of_mem hpage))]
    have honly := he.windows_length_eq_one_iff hpage
    simp only [Option.isSome_some, if_true, Option.none_or, EditorError.unless, bind_apply, tab_eq,
      hfound]
    by_cases hlength : page.windows.length = 1
    · simp only [hlength, if_true, bind_apply, get_apply]
      by_cases hlast : e.tabs.length = 1
      · rw [if_neg (not_not_intro (honly.mpr ⟨hlength, hlast⟩))]
        simp only [hlast, if_true, bind_apply, throw_apply]
        rfl
      · rw [if_pos fun hone => hlast (honly.mp hone).2]
        simp only [hlast, if_false]
        refine (refused?_closeTab he page.id).trans ?_
        rw [hopen, Option.none_or, EditorError.unless, if_pos hlast]
    · rw [if_pos fun hone => hlength (honly.mp hone).1]
      simp only [hlength, if_false]
      rfl

theorem refused?_setCursor (id row col : Nat) :
    refused? (setCursor id row col e) = (e.missing? (.window id)).or
      (EditorError.cursorOutside.unless (1 ≤ row ∧ row ≤ e.shownLineCount id)) := by
  refine (window_looksUp id).refused?_bind fun w hw => ?_
  have hcount : e.shownLineCount id =
      ((e.buffer? w.buffer).map (·.lines.length)).getD 0 := by rw [shownLineCount, hw]; rfl
  rw [bind_apply, get_apply, EditorError.unless, hcount]
  dsimp only
  generalize ((e.buffer? w.buffer).map (·.lines.length)).getD 0 = count
  by_cases h : 1 ≤ row ∧ row ≤ count
  · rw [if_pos h, if_neg (by simp; omega)]
    rfl
  · rw [if_neg h, if_pos (by simp; omega)]
    rfl

theorem refused?_setCurrentWindow (he : e.WellFormed) (id : Nat) :
    refused? (setCurrentWindow id e) = e.missing? (.window id) := by
  rw [setCurrentWindow, bind_apply, get_apply, missing?, EditorError.unless,
    ← windowTab?_isSome he]
  dsimp only
  cases htab : e.windowTab? id with
  | none => rfl
  | some tab =>
    obtain ⟨page, hpage, rfl, hid⟩ := exists_windowTab htab
    have hfound : e.tab? page.id = some page := he.tab?_eq_some.mpr ⟨hpage, rfl⟩
    simp only [bind_apply, tab_eq, hfound]
    rfl

theorem refused?_setCurrentBuffer (he : e.WellFormed) (id : Nat) :
    refused? (setCurrentBuffer id e) = e.missing? (.buffer id) := by
  refine (buffer_looksUp id).refused?_eq fun b hb => ?_
  obtain ⟨w, hw⟩ := Option.isSome_iff_exists.mp he.has_currentWindow
  simp only [bind_apply, get_apply, window_eq, hw]
  rfl

end Change

/-- An operation on a well-formed editor is refused for the reason that can be read off the
editor. -/
theorem Operation.refused?_perform (he : e.WellFormed) (op : Operation) :
    Change.refused? (op.perform e) = op.refusal? e := by
  cases op with
  | addBuffer name lines => exact Change.refused?_discard _ e
  | renameBuffer id name => exact (Change.buffer_looksUp id).refused?_eq fun _ _ => rfl
  | replaceLines id lo hi new => exact Change.refused?_replaceLines id lo hi new
  | insertLines id after new => exact Change.refused?_replaceLines id after after new
  | wipeBuffer id => exact Change.refused?_wipeBuffer he id
  | splitWindow id => exact (Change.refused?_discard _ e).trans (Change.refused?_splitWindow he id)
  | closeWindow id => exact Change.refused?_closeWindow he id
  | setCursor id row col => exact Change.refused?_setCursor id row col
  | newTab id =>
    refine (Change.refused?_discard _ e).trans ?_
    exact (Change.buffer_looksUp id).refused?_eq fun _ _ => rfl
  | closeTab id => exact Change.refused?_closeTab he id
  | setCurrentWindow id => exact Change.refused?_setCurrentWindow he id
  | setCurrentTab id => exact (Change.tab_looksUp id).refused?_eq fun _ _ => rfl
  | setCurrentBuffer id => exact Change.refused?_setCurrentBuffer he id
  | setHeight id height => exact (Change.window_looksUp id).refused?_eq fun _ _ => rfl
  | setWidth id width => exact (Change.window_looksUp id).refused?_eq fun _ _ => rfl

/-- After any run of operations, the next one is refused exactly for the reason that can be read off
the editor. A refused operation leaves the whole editor as it was: its buffers, windows, tab pages
and containers, what is current, what was announced, and the identifiers that come next. -/
theorem Editor.refused_without_change (ops : List Operation) (op : Operation) (reason : EditorError)
    (e' : Editor) : op.perform (run ops) = .error reason e' ↔
      op.refusal? (run ops) = some reason ∧ e' = run ops := by
  have he := run_wellFormed ops
  have hedits := op.perform_edits he
  have hrefused := op.refused?_perform he
  generalize op.perform (run ops) = outcome at hedits hrefused ⊢
  cases outcome with
  | ok x e'' =>
    have hnone : op.refusal? (run ops) = none := hrefused.symm
    simp [hnone]
  | error reason' e'' =>
    have hsame : e'' = run ops := hedits
    have hsome : op.refusal? (run ops) = some reason' := hrefused.symm
    simp only [hsame, hsome, EStateM.Result.error.injEq, Option.some.injEq]
    exact and_congr_right fun _ => eq_comm

end ScriptBridge.Host
