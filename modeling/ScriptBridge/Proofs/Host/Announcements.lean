import Mathlib.Data.List.Induction
import ScriptBridge.Proofs.Host.Evolution

/-!
# Announcements

Whoever follows the announcements of an editor knows what is gone. Each destruction is announced once,
by the operation that destroys, and the windows of a tab page before the tab page.
-/

namespace ScriptBridge.Host

open ScriptBridge.Computation

namespace Editor

variable {e e' : Editor}

/-- What one operation announces: each thing that it destroys, once. A tab page is announced behind
its windows. -/
structure Announces (e e' : Editor) (gone : List Entity) : Prop where
  departed : e'.departed = e.departed ++ gone
  nodup : gone.Nodup
  existed : ∀ key ∈ gone, e.has key
  closed : ∀ t ∈ e.tabs, .tabPage t.id ∈ gone → gone = t.windows.map .window ++ [.tabPage t.id]

namespace Announces

theorem nothing (hdeparted : e'.departed = e.departed) : e.Announces e' [] :=
  ⟨by rw [hdeparted, List.append_nil], List.nodup_nil, by simp, by simp⟩

/-- Nothing that is no tab page takes others with it. -/
theorem one {key : Entity} (hkey : e.has key) (htab : ∀ id, key ≠ .tabPage id)
    (hdeparted : e'.departed = e.departed ++ [key]) : e.Announces e' [key] := by
  refine ⟨hdeparted, List.nodup_singleton key, fun k hk => List.mem_singleton.mp hk ▸ hkey, ?_⟩
  exact fun t _ ht => absurd (List.mem_singleton.mp ht).symm (htab t.id)

end Announces

/-- Every edit of a well-formed editor announces what it destroys. -/
theorem Edit.announces (h : Edit e e') (he : e.WellFormed) : ∃ gone, e.Announces e' gone := by
  cases h with
  | @wipe id other hid hother hne =>
    have hbuffer : e.has (.buffer id) := hid
    exact ⟨_, .one hbuffer (fun _ => nofun) rfl⟩
  | closeWindow hpage hid =>
    exact ⟨_, .one (he.has_window_of_listed hpage hid) (fun _ => nofun) rfl⟩
  | @closeTab before after page next htabs hnext hcurrent =>
    have hpage : page ∈ e.tabs := htabs ▸ List.mem_append_right _ List.mem_cons_self
    have hwindows : page.windows.Nodup :=
      (List.nodup_flatMap.mp (he.layout.listed.nodup_iff.mpr he.layout.ids_nodup)).1 page hpage
    refine ⟨page.windows.map .window ++ [.tabPage page.id], ?_, ?_,
      fun _ => he.has_of_tab hpage, fun t ht hgone => ?_⟩
    · simp [withoutTab, withoutWindows, announce]
    · refine (hwindows.map fun _ _ h => Entity.window.inj h).append (List.nodup_singleton _) ?_
      simp
    · have hid : t.id = page.id := by simpa using hgone
      rw [List.inj_on_of_nodup_map he.layout.nodup ht hpage hid]
  | _ => exact ⟨[], .nothing rfl⟩

end Editor

/-! ### Operations -/

/-- An operation on the editor. An identifier that it gives out is not looked at. -/
def Operation.perform : Operation → Change Unit
  | .addBuffer name lines => discard (Change.addBuffer name lines)
  | .renameBuffer id name => Change.renameBuffer id name
  | .replaceLines id lo hi new => Change.replaceLines id lo hi new
  | .insertLines id after new => Change.insertLines id after new
  | .wipeBuffer id => Change.wipeBuffer id
  | .splitWindow buffer => discard (Change.splitWindow buffer)
  | .closeWindow id => Change.closeWindow id
  | .setCursor id row col => Change.setCursor id row col
  | .newTab buffer => discard (Change.newTab buffer)
  | .closeTab id => Change.closeTab id
  | .setCurrentWindow id => Change.setCurrentWindow id
  | .setCurrentTab id => Change.setCurrentTab id
  | .setCurrentBuffer id => Change.setCurrentBuffer id
  | .setHeight id height => Change.setHeight id height
  | .setWidth id width => Change.setWidth id width

variable {e e' : Editor} {op : Operation}

theorem Change.final_discard {α : Type} (a : Change α) (e : Editor) :
    final ((discard a : Change Unit) e) = final (a e) := by
  change final ((a >>= fun _ => pure ()) e) = _
  rw [bind_apply]
  cases a e <;> rfl

theorem Operation.final_perform (op : Operation) (e : Editor) :
    final (op.perform e) = op.apply e := by
  cases op <;> first | rfl | exact Change.final_discard _ e

theorem Change.Edits.discard {α : Type} {a : Change α} (h : Change.Edits e (a e)) :
    Change.Edits e ((discard a : Change Unit) e) := by
  change Change.Edits e ((a >>= fun _ => pure ()) e)
  rw [bind_apply]
  generalize a e = outcome at h ⊢
  cases outcome <;> exact h

/-- Every operation on a well-formed editor is one edit, or a refusal that changes nothing. -/
theorem Operation.perform_edits (he : e.WellFormed) (op : Operation) :
    Change.Edits e (op.perform e) := by
  cases op with
  | addBuffer name lines => exact (Change.addBuffer_edits name lines).discard
  | renameBuffer id name => exact Change.renameBuffer_edits id name
  | replaceLines id lo hi new => exact Change.replaceLines_edits id lo hi new
  | insertLines id after new => exact Change.replaceLines_edits id after after new
  | wipeBuffer id => exact Change.wipeBuffer_edits id
  | splitWindow buffer => exact (Change.splitWindow_edits he buffer).discard
  | closeWindow id => exact Change.closeWindow_edits he id
  | setCursor id row col => exact Change.setCursor_edits he id row col
  | newTab buffer => exact (Change.newTab_edits buffer).discard
  | closeTab id => exact Change.closeTab_edits he id
  | setCurrentWindow id => exact Change.setCurrentWindow_edits he id
  | setCurrentTab id => exact Change.setCurrentTab_edits he id
  | setCurrentBuffer id => exact Change.setCurrentBuffer_edits id
  | setHeight id height => exact Change.setHeight_edits id height
  | setWidth id width => exact Change.setWidth_edits id width

/-- An operation evolves a well-formed editor, and announces what it destroys. -/
theorem Operation.apply_announces (he : e.WellFormed) (op : Operation) :
    e.Evolves (op.apply e) ∧ ∃ gone, e.Announces (op.apply e) gone := by
  have hedits := op.perform_edits he
  rw [← op.final_perform]
  generalize op.perform e = outcome at hedits ⊢
  cases outcome with
  | ok _ e' => exact ⟨Editor.Edit.evolves hedits he, Editor.Edit.announces hedits he⟩
  | error _ e' =>
    have hsame : e' = e := hedits
    subst hsame
    exact ⟨.refl he, [], .nothing rfl⟩

/-! ### Runs -/

namespace Editor

theorem run_append (ops : List Operation) (op : Operation) :
    run (ops ++ [op]) = op.apply (run ops) := by
  unfold run
  rw [List.foldl_append]
  rfl

theorem run_evolves (ops more : List Operation) : (run ops).Evolves (run (ops ++ more)) := by
  induction more using List.reverseRecOn with
  | nil =>
    rw [List.append_nil]
    exact .refl (run_wellFormed ops)
  | append_singleton more op ih =>
    rw [← List.append_assoc, run_append]
    exact ih.trans (op.apply_announces ih.wellFormed).1

/-- All that was announced in a run is gone for good. -/
theorem gone_of_departed {ops : List Operation} {key : Entity} (hkey : key ∈ (run ops).departed)
    (more : List Operation) : (run (ops ++ more)).Gone key := by
  obtain ⟨gone, hdeparted, hgone, -⟩ := (run_evolves [] ops).announced
  have hmem : key ∈ gone := by
    rw [List.nil_append] at hdeparted
    rw [hdeparted] at hkey
    exact hkey
  exact (run_evolves ops more).gone (hgone key hmem)

/-- Something existed at some time of a run. -/
def Existed (ops : List Operation) (key : Entity) : Prop :=
  ∃ before, before <+: ops ∧ (run before).has key

theorem existed_append {ops : List Operation} {key : Entity} :
    Existed (ops ++ [op]) key ↔ Existed ops key ∨ (run (ops ++ [op])).has key := by
  constructor
  · rintro ⟨before, hbefore, hkey⟩
    rcases List.prefix_concat_iff.mp hbefore with rfl | hbefore
    · exact .inr hkey
    · exact .inl ⟨before, hbefore, hkey⟩
  · rintro (⟨before, hbefore, hkey⟩ | hkey)
    · exact ⟨before, hbefore.trans (List.prefix_append _ _), hkey⟩
    · exact ⟨_, List.prefix_rfl, hkey⟩

/-- What an operation announces existed before it and does not exist after it, and nothing else was
destroyed by it. -/
theorem Announces.mem_iff {gone : List Entity} {key : Entity} (h : e.Announces e' gone)
    (hevolves : e.Evolves e') : key ∈ gone ↔ e.has key ∧ e'.has key = false := by
  obtain ⟨gone', hdeparted, hgone, hkept⟩ := hevolves.announced
  have heq : gone' = gone := List.append_cancel_left (hdeparted.symm.trans h.departed)
  subst heq
  constructor
  · exact fun hkey => ⟨h.existed key hkey, (hgone key hkey).1⟩
  · rintro ⟨hbefore, hafter⟩
    exact (hkept key hbefore).resolve_left (by simp [hafter])

theorem departed_nodup (ops : List Operation) : (run ops).departed.Nodup := by
  induction ops using List.reverseRecOn with
  | nil => exact List.nodup_nil
  | append_singleton ops op ih =>
    obtain ⟨-, gone, hannounces⟩ := op.apply_announces (run_wellFormed ops)
    rw [run_append, hannounces.departed]
    refine ih.append hannounces.nodup fun key hold hnew => ?_
    -- What was announced before does not exist any more, and what is announced now does.
    have hgone := gone_of_departed hold []
    rw [List.append_nil] at hgone
    exact absurd (hannounces.existed key hnew) (by simp [hgone.1])

theorem mem_departed_iff (ops : List Operation) (key : Entity) :
    key ∈ (run ops).departed ↔ Existed ops key ∧ (run ops).has key = false := by
  induction ops using List.reverseRecOn with
  | nil =>
    constructor
    · exact fun hkey => absurd hkey List.not_mem_nil
    · rintro ⟨⟨before, hbefore, hkey⟩, hnot⟩
      rw [List.prefix_nil.mp hbefore] at hkey
      exact absurd hkey (by simp [hnot])
  | append_singleton ops op ih =>
    obtain ⟨hevolves, gone, hannounces⟩ := op.apply_announces (run_wellFormed ops)
    have hgone : key ∈ gone ↔ _ := hannounces.mem_iff hevolves
    rw [existed_append, run_append, hannounces.departed, List.mem_append, ih, hgone]
    constructor
    · rintro (⟨hexisted, hnot⟩ | ⟨hexisted, hnot⟩)
      · have hdeparted := ih.mpr ⟨hexisted, hnot⟩
        have hafter := gone_of_departed hdeparted [op]
        rw [run_append] at hafter
        exact ⟨.inl hexisted, hafter.1⟩
      · exact ⟨.inl ⟨ops, List.prefix_rfl, hexisted⟩, hnot⟩
    · rintro ⟨hexisted, hnot⟩
      have hexisted := hexisted.resolve_right (by simp [hnot])
      cases hhas : (run ops).has key with
      | false => exact .inl ⟨hexisted, rfl⟩
      | true => exact .inr ⟨rfl, hnot⟩

/-- The announcements of a run name nothing twice. They name just what existed at some time and does
not exist any more: all the windows of a tab page that closes, and behind them the tab page, and
nothing for an operation that is refused. An identifier that was announced is not given out again. -/
theorem announced_once (ops : List Operation) :
    (run ops).departed.Nodup ∧
    (∀ key, key ∈ (run ops).departed ↔ Existed ops key ∧ (run ops).has key = false) ∧
    (∀ op : Operation, ∀ t ∈ (run ops).tabs, (op.apply (run ops)).has (.tabPage t.id) = false →
      (op.apply (run ops)).departed =
        (run ops).departed ++ (t.windows.map .window ++ [.tabPage t.id])) ∧
    (∀ op : Operation, ∀ err e', op.perform (run ops) = .error err e' →
      e'.departed = (run ops).departed) ∧
    ∀ key ∈ (run ops).departed, ∀ more, (run (ops ++ more)).Gone key := by
  have hwell := run_wellFormed ops
  refine ⟨departed_nodup ops, mem_departed_iff ops, fun op t ht hclosed => ?_,
    fun op err e' hrefused => ?_, fun key hkey more => gone_of_departed hkey more⟩
  · obtain ⟨hevolves, gone, hannounces⟩ := op.apply_announces hwell
    have hopen : (run ops).has (.tabPage t.id) := has_tabPage.mpr (List.mem_map_of_mem ht)
    have hgone := (hannounces.mem_iff hevolves).mpr ⟨hopen, hclosed⟩
    rw [hannounces.departed, hannounces.closed t ht hgone]
  · have hedits := op.perform_edits hwell
    rw [hrefused] at hedits
    have hsame : e' = run ops := hedits
    rw [hsame]

end Editor

end ScriptBridge.Host
