import ScriptBridge.Proofs.Script.Performing
import ScriptBridge.Script.Engine

/-!
# Everything runs by moves

A statement, a script, and the scripted interpreter itself: scripts that run scripts, as deep as
they nest. What one statement does is proved for each kind of statement; a run is a sequence of
statements.
-/

namespace ScriptBridge.Script

open Foreign (ObjRef Object)
open ScriptBridge.Computation

variable {ε α : Type} {args : List ObjRef} {kept : α → List ObjRef} {b : Bridge}

/-! ### Statements -/

theorem runs_reportFailure (f : Failure) :
    (reportFailure f : Act ε Unit).Runs args fun _ => [] := by
  unfold reportFailure
  split
  · exact Session.runs_report _
  · exact .pure (List.nil_subset _)

/-- Runs a statement to its outcome. -/
def toOutcome (a : Act Failure Answer) : Act ε Outcome := fun b =>
  match a b with
  | .ok x b => .ok (.answer x) b
  | .error (.error f) b => .ok (.ofFailure b f) b
  | .error .crash b => .ok .crash b

theorem runs_toOutcome {a : Act Failure Answer} {kept : Answer → List ObjRef}
    (ha : a.Runs args kept) : (toOutcome a : Act ε Outcome).Runs args fun _ => [] := by
  intro b hb hargs
  have hreaches := ha b hb hargs
  unfold Act.RunsFrom at hreaches ⊢
  unfold toOutcome
  generalize a b = outcome at hreaches ⊢
  cases hreaches with
  | ok hmoves hheld hx => exact .ok hmoves hheld (List.nil_subset _)
  | @error stop b' hmoves hheld =>
    cases stop <;> exact .ok hmoves hheld (List.nil_subset _)

/-- A statement leaves in use what was in use before it, however it ends. -/
theorem runs_recorded {a : Act Failure Answer} (ha : a.Runs args fun _ => []) (reported : Bool) :
    (recorded reported a : Act ε Entry).Runs args fun _ => [] := by
  refine .bind_get fun b hb hargs => ?_
  have hlast (outcome : Outcome) (b' : Bridge) (hmoves : b.Moves b') (hheld : b.held ⊆ b'.held) :
      b.Reaches (fun _ b' => [] ⊆ b'.held) ((do
        let inner ← get
        set { inner with logs := b.logs, held := b.held }
        return .mk outcome inner.logs : Act ε Entry) b') := by
    refine .ok (hmoves.tail (.roots rfl fun r hr => .inl ?_)) (List.Subset.refl _)
      (List.nil_subset _)
    rw [Bridge.mem_roots] at hr ⊢
    exact hr.imp_left fun hr => hheld hr
  have hfirst : b.Move { b with logs := [] } := .roots rfl fun _ hr => .inl hr
  have htoOutcome : (toOutcome a : Act ε Outcome).Runs args fun _ => [] := runs_toOutcome ha
  have houtcome := htoOutcome _ (hfirst.later hb).sound hargs
  change b.Reaches _ ((toOutcome a >>= fun outcome => _) { b with logs := [] })
  refine Bridge.Reaches.followed (.trans (.single hfirst) (List.Subset.refl _) houtcome) ?_
  intro outcome b₂ _ hmoves hheld _
  dsimp only
  split
  · have hruns (f : Failure) : (reportFailure f : Act ε Unit).Runs [] fun _ => [] :=
      runs_reportFailure f
    have hreport := hruns ‹Failure› b₂ (hmoves.sound hb) (List.nil_subset _)
    refine Bridge.Reaches.followed (.trans hmoves hheld hreport) ?_
    intro _ b₃ _ hmoves hheld _
    exact hlast _ b₃ hmoves hheld
  · exact hlast _ b₂ hmoves hheld

section Engine

variable {engine : Engine}

mutual

theorem runs_perform (hengine : engine.Runs) :
    (action : Action) → (perform engine action).Runs [] Produced.objects
  | .object a => .mapError (runs_performObject (Session.runs_exCommand hengine) a)
  | .slot a => runs_performSlot (Session.runs_exCommand hengine) a
  | .runtime a => .mapError (runs_performRuntime hengine a)
  | .conversion a => runs_performConversion a
  | .session a => .mapError (runs_performSession hengine a)
  | .service a => runs_performService a
  | .editor a => runs_performEditor a
  | .value a => .mapError (runs_performValue a)
  | .lend exclusive body => by
    refine .bind .get fun b => .bind (.modify_frame (fun _ => rfl) (fun _ => rfl) fun _ => rfl)
      fun _ => .bind (runs_runAll hengine body) fun entries => ?_
    exact .bind (.modify_frame (fun _ => rfl) (fun _ => rfl) fun _ => rfl) fun _ =>
      .pure (List.nil_subset _)
  | .giveBack _ => .pure (List.nil_subset _)
  | .throw _ => .pure (List.nil_subset _)
  | .started a => by
    refine .bind (.attempt Session.runs_ensureReady) fun _ =>
      .bind (.modify_frame (fun _ => rfl) (fun _ => rfl) fun _ => rfl) fun _ => ?_
    exact (runs_perform hengine a).weaken (List.nil_subset _)
  | .saved path code a => by
    refine .bind (.modify_frame (fun _ => rfl) (fun _ => rfl) fun _ => rfl) fun _ => ?_
    exact (runs_perform hengine a).weaken (List.nil_subset _)

/-- Whatever a statement does is done by moves, and it leaves nothing in use that was not. -/
theorem runs_runStep (hengine : engine.Runs) :
    (s : Step) → (runStep engine s).Runs [] fun _ => []
  | .mk action name _ reported => by
    refine runs_recorded (.bind (runs_perform hengine action) fun p => ?_) reported
    cases name with
    | none => exact .bind .get fun _ => .pure (List.nil_subset _)
    | some name =>
      exact .bind ((runs_keep p name).weaken (List.subset_append_left _ _)) fun _ =>
        .bind .get fun _ => .pure (List.nil_subset _)

theorem runs_runAll (hengine : engine.Runs) :
    (steps : List Step) → (runAll engine steps).Runs [] fun _ => []
  | [] => .pure (List.nil_subset _)
  | s :: rest => .bind (runs_runStep hengine s) fun _ => .bind (runs_runAll hengine rest) fun _ =>
      .pure (List.nil_subset _)

end

/-! ### Scripts -/

/-- What an ending keeps in use. -/
def Ending.objects : Ending → List ObjRef
  | .value r => [r]
  | .done | .failed _ => []

variable (hengine : engine.Runs)

include hengine

theorem runs_runBody (steps : List Step) :
    (runBody engine steps).Runs args fun p => p.2.objects := by
  induction steps generalizing args with
  | nil => exact .pure (List.nil_subset _)
  | cons s rest ih =>
    obtain ⟨action, name, raises, reported⟩ := s
    cases action with
    | giveBack v =>
      refine .bind (.attempt (runs_build v)) fun built => ?_
      cases built with
      | ok r => exact .pure (List.subset_append_left _ _)
      | error e => exact .bind .get fun _ => .pure (List.nil_subset _)
    | throw e => exact .pure (List.nil_subset _)
    | _ =>
      refine .bind ((runs_runStep hengine _).weaken (List.nil_subset _)) fun entry => ?_
      obtain ⟨outcome, scripts⟩ := entry
      dsimp only
      split
      · exact .pure (List.nil_subset _)
      · exact .bind ih fun p => .pure (List.subset_append_left _ _)

theorem runs_runScript (code : String) (steps : List Step) :
    (runScript engine code steps).Runs args fun r => [r] := by
  refine .confine (.bind (.mapError (runs_runBody hengine steps)) fun p => ?_) fun _ =>
    List.Subset.refl _
  obtain ⟨entries, ending⟩ := p
  refine .bind (.modify_frame (fun _ => rfl) (fun _ => rfl) fun _ => rfl) fun _ => ?_
  cases ending with
  | done => exact .alloc (.of_not_proxy trivial rfl) (List.nil_subset _)
  | value r => exact .pure (List.subset_append_left _ _)
  | failed e => exact .fail

/-! ### The scripted interpreter -/

omit hengine in
theorem runs_noteSource (code : String) : (noteSource code : Act ε Unit).Runs args fun _ => [] :=
  .modify_frame (fun _ => rfl) (fun _ => rfl) fun _ => rfl

theorem runs_runKnown (code : String) (script : Content) :
    (runKnown engine code script).Runs args fun r => [r] := by
  cases script with
  | body steps =>
    exact .bind .get fun _ => .guard (runs_runScript hengine code steps)
  | value v => exact runs_build v

theorem runs_runScripted (code : String) : (runScripted engine code).Runs args fun _ => [] := by
  refine .bind (runs_noteSource code) fun _ => .bind .get fun b => ?_
  split
  · exact .bind (runs_runKnown hengine code _) fun _ => .pure (List.nil_subset _)
  · exact .fail

omit hengine in
/-- A literal stands for an object that refers to no other. -/
theorem plain_literal {code : String} {x : Object} (h : literal? code = some x) :
    x.Plain ∧ x.references = [] := by
  unfold literal? at h
  dsimp only at h
  split at h
  · cases h
    exact ⟨.of_not_proxy trivial rfl, rfl⟩
  · cases h
    exact ⟨.of_not_proxy trivial rfl, rfl⟩
  · cases h
    exact ⟨.of_not_proxy trivial rfl, rfl⟩
  · simp only [Option.orElse_eq_orElse, Option.orElse_eq_or, Option.or_eq_some_iff,
      Option.map_eq_some_iff] at h
    obtain ⟨n, -, rfl⟩ | ⟨-, ⟨y, -, rfl⟩ | ⟨-, ⟨s, -, rfl⟩ | ⟨-, ⟨s, -, rfl⟩⟩⟩⟩ := h
    all_goals exact ⟨.of_not_proxy trivial rfl, rfl⟩

theorem runs_evalScripted (code : String) :
    (evalScripted engine code).Runs args fun r => [r] := by
  refine .bind (runs_noteSource code) fun _ => .bind .get fun b => ?_
  split
  · exact runs_runKnown hengine code _
  · rename_i x _ hx
    obtain ⟨hplain, hreferences⟩ := plain_literal hx
    exact .alloc hplain (by simp [hreferences])
  · exact .fail

end Engine

/-- An interpreter runs by moves if the one of the level below does. -/
theorem engineOver_runs {inner : Engine} (hinner : inner.Runs) : (engineOver inner).Runs where
  run code := .bind_get fun b hb hargs => by
    rw [hb.scripted]
    exact runs_runScripted hinner code b hb hargs
  eval code := .bind_get fun b hb hargs => by
    rw [hb.scripted]
    exact runs_evalScripted hinner code b hb hargs

theorem engine_runs (depth : Nat) : (engine depth).Runs := by
  induction depth with
  | zero => exact ⟨fun _ => .crash, fun _ => .crash⟩
  | succ depth ih => exact engineOver_runs ih

end ScriptBridge.Script
