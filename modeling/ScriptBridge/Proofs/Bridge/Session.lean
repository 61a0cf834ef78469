import ScriptBridge.Bridge.Command
import ScriptBridge.Proofs.Bridge.Move
import ScriptBridge.Proofs.Proxy.Runs

/-!
# The session runs by moves

Starting and stopping the interpreter, and what enters it. How the interpreter runs a source text is
a parameter here.
-/

namespace ScriptBridge

open Foreign (ObjRef Object ProxyClass Target)
open Host (Value)
open Script (Lifecycle)
open ScriptBridge.Computation

/-- An interpreter in which source texts run by moves. -/
structure Engine.Runs (engine : Engine) : Prop where
  run : ∀ code, (engine.run code).Runs [] fun _ => []
  eval : ∀ code, (engine.eval code).Runs [] fun r => [r]

namespace Session

variable {ε δ α : Type} {args : List ObjRef} {b : Bridge}

/-! ### Starting and stopping -/

/-- Binding the scripted interpreter changes nothing. -/
theorem attempt_bind (δ : Type) (hb : b.Sound) :
    ∃ bound, (Act.attempt Session.bind : Act δ (Except LinkError Unit)) b = .ok bound b := by
  have hbind : Session.bind b = if b.interpreter.failing
      then .error (.error (.libraryNotFound "stub" "disabled")) b else .ok () b := by
    unfold Session.bind
    simp only [bind_apply, get_apply, hb.scripted]
    split <;> rfl
  unfold Act.attempt
  rw [hbind]
  by_cases hfailing : b.interpreter.failing = true
  · rw [if_pos hfailing]
    exact ⟨_, rfl⟩
  · rw [if_neg hfailing]
    exact ⟨_, rfl⟩

theorem runs_newModule (name : String) {members : List (String × ObjRef)}
    (hmembers : members.map (·.2) ⊆ args) :
    (newModule name members).Runs args fun r => [r] := by
  refine .bind_get fun b hb hargs => ?_
  rw [hb.scripted]
  have hnew : (Object.module name members).Plain := .of_not_proxy trivial rfl
  exact Act.Runs.alloc hnew hmembers b hb hargs

/-- The attributes of the module are no proxies of entities. -/
theorem plain_members {m : String × Object}
    (hm : m ∈ ("error", Object.type .error) :: newMembers b) :
    m.2.Plain ∧ m.2.references = [] := by
  simp only [newMembers, List.mem_cons, List.not_mem_nil, or_false] at hm
  rcases hm with rfl | rfl | rfl | rfl | rfl | rfl | rfl | rfl | rfl | rfl | rfl | rfl | rfl | rfl
  all_goals first
    | exact ⟨Object.plain_proxy rfl rfl, rfl⟩
    | exact ⟨.of_not_proxy trivial rfl, rfl⟩

theorem runs_install : install.Runs args fun _ => [] := by
  refine .bind .readEditor fun _ => .bind .get fun b => ?_
  have hmembers {args : List ObjRef} : ∀ m ∈ ("error", Object.type .error) :: newMembers b,
      Act.Runs args (do return (m.1, ← Bridge.alloc m.2) : Act ProxyError (String × ObjRef))
      fun m => [m.2] := by
    intro m hm
    obtain ⟨hplain, hreferences⟩ := plain_members hm
    exact .bind (.alloc hplain (hreferences ▸ List.nil_subset _)) fun r =>
      .pure (List.subset_append_left _ _)
  refine .bind (.mapM hmembers) fun members => ?_
  refine .bind (runs_newModule moduleName (by simp [List.map_eq_flatMap])) fun module => ?_
  refine .bind (.wrap rfl rfl) fun stdout => .bind (.wrap rfl rfl) fun stderr => ?_
  refine fun b hb hargs => .modify (.roots rfl fun s hs => ?_) (List.Subset.refl _)
  rw [Bridge.mem_roots] at hs ⊢
  have hnew (r : ObjRef) (hr : r ∈ [stderr] ++ ([stdout] ++ ([module] ++ []))) : b.Alive r :=
    hb.alive_of_mem_held (hargs (by simp at hr ⊢; tauto))
  rcases hs with hs | hs | hs | hs | hs | hs
  · exact .inl (.inl hs)
  · exact .inl (.inr (.inl hs))
  · exact .inr (hnew s (by simp_all))
  · exact .inr (hnew s (by simp_all))
  · exact .inr (hnew s (by simp_all))
  · exact .inl (.inr (.inr (.inr (.inr (.inr hs)))))

/-- Installing changes the objects and the interpreter only. -/
theorem install_keeps {π : Type} {part : Bridge → π}
    (hpart : ∀ b objects held interpreter, part { b with objects, held, interpreter } = part b) :
    install.Keeps part := by
  have halloc (x : Object) : (Bridge.alloc x : Act ProxyError ObjRef).Keeps part :=
    .alloc fun b => hpart b _ _ _
  have hmembers (members : List (String × Object)) : (members.mapM fun m => do
      return (m.1, ← Bridge.alloc m.2) : Act ProxyError (List (String × ObjRef))).Keeps part :=
    .mapM (fun m => .bind (halloc _) fun _ => .pure _) _
  refine .bind (.bind .get fun b => ?_) fun _ => .bind .get fun b => .bind (hmembers _) fun _ =>
    .bind ?_ fun module => .bind (halloc _) fun _ => .bind (halloc _) fun _ =>
      .modify fun b => hpart b _ _ _
  · split
    · exact .fail _
    · exact .pure _
  · refine .bind .get fun b => ?_
    split
    · exact halloc _
    · exact .bind (hmembers _) fun own =>
        .bind (.mapM (fun m => .bind (halloc _) fun _ => .pure _) _) fun _ =>
          .bind (halloc _) fun _ => .bind (halloc _) fun _ =>
            .bind (.modify fun b => hpart b _ _ _) fun _ => .pure _

theorem runs_lockEvent (event : LockEvent) :
    (lockEvent event : Act ε Unit).Runs args fun _ => [] :=
  .modify_frame (fun _ => rfl) (fun _ => rfl) fun _ => rfl

/-- A session that has not been shut down goes to another stage of life. -/
theorem runsFrom_lifecycle (l : Lifecycle) (hl : b.lifecycle ≠ .finalized) :
    (modify fun b => { b with lifecycle := l } : Act ε Unit).RunsFrom b fun _ => [] :=
  .modify (.lifecycle fun h => absurd h hl) (List.Subset.refl _)

theorem runsFrom_disable (reason : String) (hl : b.lifecycle ≠ .finalized) :
    (disable reason).RunsFrom b fun _ => [] := by
  have hframe : b.Move { b with disabledReason := reason } := .roots rfl fun _ hr => .inl hr
  exact .ok (.tail (.single hframe) (.lifecycle fun h => absurd h hl)) (List.Subset.refl _)
    (List.nil_subset _)

theorem runsFrom_start (hb : b.Sound) (hl : b.lifecycle = .uninitialized) :
    start.RunsFrom b fun _ => [] := by
  obtain ⟨bound, hbound⟩ := attempt_bind BridgeError hb
  refine .bind_eq hbound ?_
  have hnot {l : Lifecycle} (h : l = b.lifecycle) : l ≠ .finalized := by simp [h, hl]
  cases bound with
  | error e =>
    exact .bind hb (List.nil_subset _) (runsFrom_disable _ (hnot rfl)) fun _ => .fail
  | ok _ =>
    have hframe : b.Move
        { b with interpreter := { b.interpreter with initialized := true } } :=
      .roots rfl fun _ hr => .inl hr
    refine Bridge.Reaches.bind hb (Act.RunsFrom.modify hframe (List.Subset.refl _))
      fun _ b₁ h₁ hb₁ _ _ => ?_
    cases h₁
    refine Bridge.Reaches.bind hb₁ (runs_install.attempt _ hb₁ (List.nil_subset _))
      fun installed b₂ h₂ hb₂ _ _ => ?_
    have hkeeps : install.Keeps Bridge.lifecycle := install_keeps fun _ _ _ _ => rfl
    have hsame := (hkeeps.attempt : Act.Keeps Bridge.lifecycle
        (Act.attempt install : Act BridgeError (Except ProxyError Unit))) { b with
      interpreter := { b.interpreter with initialized := true } }
    rw [h₂] at hsame
    refine Bridge.Reaches.bind hb₂ (runs_lockEvent .initialRelease b₂ hb₂ (List.nil_subset _))
      fun _ b₃ h₃ hb₃ _ _ => ?_
    cases h₃
    cases installed with
    | ok _ => exact runsFrom_lifecycle .ready (hnot hsame)
    | error e =>
      exact Act.RunsFrom.bind hb₃ (List.nil_subset _) (runsFrom_disable _ (hnot hsame)) fun _ => .fail

theorem runs_ensureReady : ensureReady.Runs args fun _ => [] := by
  refine .bind_get fun b hb hargs => ?_
  cases h : b.lifecycle with
  | ready => exact .pure (List.nil_subset _)
  | disabled | finalized => exact .fail
  | uninitialized => exact runsFrom_start hb h

theorem runs_probe : (probe : Act ε Bool).Runs args fun _ => [] := by
  refine .bind_get fun b hb hargs => ?_
  split
  · exact .pure (List.nil_subset _)
  · exact .pure (List.nil_subset _)
  · exact .pure (List.nil_subset _)
  · obtain ⟨bound, hbound⟩ := attempt_bind ε hb
    exact .bind_eq hbound (.pure (List.nil_subset _))

/-- Stopping the scripted interpreter leaves no module and no stream in use. -/
theorem stop_move (hkind : b.interpreter.kind = .scripted) (l : Lifecycle) :
    Bridge.Move { b with lifecycle := l } { stop b with lifecycle := l } := by
  have hstop : stop b = { b with interpreter := { b.interpreter with
      initialized := false, modules := [], stdout := none, stderr := none } } := by
    simp only [stop, hkind]
  rw [hstop]
  refine .roots rfl fun r hr => .inl ?_
  rw [Bridge.mem_roots] at hr ⊢
  rcases hr with hr | hr | hr | hr | hr | hr
  · exact .inl hr
  · exact .inr (.inl hr)
  · cases hr
  · cases hr
  · cases hr
  · exact .inr (.inr (.inr (.inr (.inr hr))))

theorem held_stop (b : Bridge) : (stop b).held = b.held := by
  unfold stop
  dsimp only
  split <;> rfl

theorem runs_shutdown : (shutdown : Act ε Unit).Runs args fun _ => [] := by
  refine .bind_get fun b hb hargs => ?_
  dsimp only
  by_cases hready : (b.lifecycle = .ready && b.interpreter.initialized) = true
  · have hl : b.lifecycle ≠ .disabled := by simp_all
    rw [if_pos hready, if_pos hl]
    have hcleared : b.Move { b.clearRegistry with lifecycle := .finalized } := .shutdown
    have hend (handoff : Handoff) :
        b.Moves { stop { b.clearRegistry with handoff } with lifecycle := .finalized } := by
      have hframe : Bridge.Move { b.clearRegistry with lifecycle := .finalized }
          { b.clearRegistry with lifecycle := .finalized, handoff } :=
        .roots rfl fun _ hr => .inl hr
      have hstopped := stop_move (b := { b.clearRegistry with handoff })
        (hcleared.later hb).sound.scripted .finalized
      exact .tail (.tail (.single hcleared) hframe) hstopped
    have hheld (handoff : Handoff) : b.held ⊆ (stop { b.clearRegistry with handoff }).held := by
      rw [held_stop, Bridge.clearRegistry_eq, (Bridge.invalidated_all hb.registered _).eq]
      exact List.Subset.refl _
    exact .ok (hend { b.clearRegistry.handoff with
      locks := b.clearRegistry.handoff.locks ++ [.acquire b.handoff.mode] }) (hheld _)
      (List.nil_subset _)
  · rw [if_neg hready]
    split
    · exact .modify (.lifecycle fun _ => rfl) (List.Subset.refl _)
    · exact .pure (List.nil_subset _)

/-! ### Running -/

theorem runs_inside {a : Act ε α} {kept : α → List ObjRef} (ha : a.Runs args kept) :
    (inside a : Act δ (Except HandoffError (Except ε α))).Runs args fun _ => [] := by
  refine .bind .get fun b => ?_
  split
  · exact .pure (List.nil_subset _)
  · refine .bind (.modify_frame (fun _ => rfl) (fun _ => rfl) fun _ => rfl) fun _ => ?_
    refine .bind (.attempt (.ensuring (.confine (ha.weaken (by simp)) fun _ => List.nil_subset _)
      (fun _ => rfl) (fun _ => rfl) fun _ => rfl)) fun _ => .pure (List.nil_subset _)

theorem runs_report (e : BridgeError) : (report e : Act ε Unit).Runs args fun _ => [] := by
  unfold report
  split
  · exact .pure (List.nil_subset _)
  · exact .say

section Engine

variable {engine : Engine} (hengine : engine.Runs)

include hengine

theorem runs_execute (code : String) (range : Option (Int64 × Int64)) :
    (execute engine code range).Runs args fun _ => [] := by
  refine .bind runs_ensureReady fun _ => .bind .get fun b => ?_
  refine .bind (.modify_frame (fun _ => rfl) (fun _ => rfl) fun _ => rfl) fun _ => ?_
  refine .bind (runs_inside ((hengine.run code).weaken (List.nil_subset _))) fun result => ?_
  refine .bind (.modify_frame (fun _ => rfl) (fun _ => rfl) fun _ => rfl) fun _ => ?_
  cases result with
  | error e => exact .fail
  | ok outcome =>
    refine .bind Proxy.runs_flush fun _ => ?_
    cases outcome with
    | ok _ => exact .pure (List.nil_subset _)
    | error e => exact .fail

theorem runs_evalAndConvert (code : String) :
    (evalAndConvert engine code).Runs args fun _ => [] :=
  .bind (.mapError ((hengine.eval code).weaken (List.nil_subset _))) fun r =>
    .mapError (Convert.runs_toHost r)

theorem runs_evaluate (code : String) : (evaluate engine code).Runs args fun _ => [] := by
  refine .bind runs_ensureReady fun _ =>
    .bind (runs_inside (runs_evalAndConvert hengine code)) fun result => ?_
  cases result with
  | error e => exact .fail
  | ok outcome =>
    refine .bind Proxy.runs_flush fun _ => ?_
    split
    · exact .pure (List.nil_subset _)
    · exact .pure (List.nil_subset _)
    · exact .fail

/-! ### Command lines -/

omit hengine in
theorem runs_resolve (r : Command.LineRange) : (resolve r).Runs args fun _ => [] := by
  refine .bind .get fun b => .guard ?_
  split
  · exact .pure (List.nil_subset _)
  · exact .fail

omit hengine in
theorem runs_demandEditor : demandEditor.Runs args fun _ => [] := by
  refine .bind .get fun b => ?_
  split
  · exact .fail
  · exact .pure (List.nil_subset _)

theorem runs_runFile (path : String) (range : Option (Int64 × Int64)) :
    (runFile engine path range).Runs args fun _ => [] := by
  have hcode : Act.Runs args (Act.ofExcept (Command.fileStatement path)) fun _ => [] :=
    .ofExcept fun _ _ => List.nil_subset _
  unfold runFile
  exact .guard (.bind hcode fun code => runs_execute hengine code range)

omit hengine in
theorem runs_hostCommand (line : String) : (hostCommand line).Runs args fun _ => [] := by
  refine .bind runs_demandEditor fun _ => .bind_get fun b hb hargs => ?_
  exact Act.Runs.mapError (.host (Host.orderly_runCommand hb.orderly line)) b hb hargs

theorem runs_runInput (input : Command.Input) : (runInput engine input).Runs args fun _ => [] := by
  have hrange : Act.Runs args (input.line.range.mapM resolve) fun _ => [] := by
    cases input.line.range with
    | none => exact .pure (List.nil_subset _)
    | some r => exact .map (runs_resolve r) fun _ => List.nil_subset _
  refine .bind hrange fun range => ?_
  split
  · exact runs_execute hengine _ range
  · exact runs_runFile hengine _ range
  · exact .bind (runs_evaluate hengine _) fun _ => .bind runs_demandEditor fun _ =>
      .bind .get fun _ => .say
  · exact runs_hostCommand _

/-- Whatever a command line does is done by moves. -/
theorem runs_exCommand (text : String) : (exCommand engine text).Runs args fun _ => [] := by
  have hline : Act.Runs args
      (Act.ofExcept ((Command.Line.parse text).mapError BridgeError.parse)) fun _ => [] :=
    .ofExcept fun _ _ => List.nil_subset _
  exact .bind hline fun line => runs_runInput hengine _

theorem runs_runRead (input : Except ParseError (Option Command.Input)) :
    (runRead engine input : Act ε Nat).Runs args fun _ => [] := by
  have hattempt {a : Act BridgeError Unit} (ha : a.Runs args fun _ => []) :
      Act.Runs args (Act.attempt a : Act ε (Except BridgeError Unit)) fun result =>
        (result.toOption.map fun _ => []).getD [] := .attempt ha
  refine .bind (hattempt ?_) fun outcome => ?_
  · split
    · exact runs_runInput hengine _
    · exact .pure (List.nil_subset _)
    · exact .fail
  · cases outcome with
    | ok _ => exact .pure (List.nil_subset _)
    | error e => exact .bind (runs_report e) fun _ => .pure (List.nil_subset _)

theorem runs_sourceLines (reader : Command.Reader) (lines : List String) :
    (sourceLines engine reader lines : Act ε Nat).Runs args fun _ => [] := by
  induction lines generalizing args reader with
  | nil => exact runs_runRead hengine _
  | cons line rest ih =>
    exact .bind (runs_runRead hengine _) fun _ => .bind (ih _) fun _ => .pure (List.nil_subset _)

theorem runs_source (text : String) : (source engine text : Act ε Nat).Runs args fun _ => [] :=
  runs_sourceLines hengine none _

end Engine

end Session

end ScriptBridge
