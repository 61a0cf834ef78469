import ScriptBridge.Proofs.Lookup
import ScriptBridge.Proofs.Session.Restoring

/-!
# Single-call mode

While a script runs in single-call mode, the session refuses to run and to evaluate source texts, and
it changes nothing then. So no script starts while another one runs, whatever the interpreter would
do with it. From outside of scripts no call is refused, and each command starts one source text at
most.
-/

namespace ScriptBridge

open Foreign (ObjRef Object)
open Script (Entry Ending Failure)
open ScriptBridge.Computation

/-- The source text that a command runs or evaluates, if its argument can be one. -/
def Command.Input.sourceText? (input : Command.Input) : Option String :=
  match input.line.kind with
  | .script => some (input.body.getD input.line.arg)
  | .file => if input.line.arg.isEmpty then none else (fileStatement input.line.arg).toOption
  | .eval => some input.line.arg
  | .host => none

/-- The command that a line is by itself. One that names an end marker has an empty body. -/
def Command.Input.ofLine (line : Command.Line) : Command.Input :=
  ⟨line, line.marker?.map fun _ => ""⟩

/-- A script runs in single-call mode. -/
structure Bridge.Occupied (b : Bridge) : Prop where
  mode : b.handoff.mode = .singleCall
  entered : 0 < b.handoff.depth
  ready : b.lifecycle = .ready

/-- What starting a source text would change, and what decides whether one can start. -/
def Bridge.standing (b : Bridge) :
    Handoff × Script.Lifecycle × List (String × Script.Content) × List String :=
  (b.handoff, b.lifecycle, b.interpreter.scripts, b.interpreter.history)

theorem Bridge.Stays.standing {b b' : Bridge} (h : b.Stays b') : b'.standing = b.standing := by
  simp only [Bridge.standing, h.handoff, h.lifecycle, h.scripts, h.history]

theorem Bridge.Occupied.of_standing {b b' : Bridge} (h : b.Occupied)
    (heq : b'.standing = b.standing) : b'.Occupied := by
  obtain ⟨hhandoff, heq⟩ := Prod.mk.inj heq
  obtain ⟨hlifecycle, -⟩ := Prod.mk.inj heq
  exact ⟨hhandoff ▸ h.mode, hhandoff ▸ h.entered, hlifecycle.trans h.ready⟩

/-- The regime under a script in single-call mode: no source text starts, and the interpreter is not
even entered. -/
def Regime.occupied (outer : Bridge) : Regime where
  always b := b.Ordinary ∧ b.standing = outer.standing
  calm _ := True
  free := False
  ordinary hb := hb.1
  stays hb h := ⟨h.ordinary, h.standing.trans hb.2⟩
  stays_calm _ _ := trivial
  relogged hb := ⟨⟨hb.1.scripted, hb.1.objects⟩, hb.2⟩
  relogged_calm _ := trivial

namespace Session

variable {ε δ α β : Type} {b b' : Bridge} {engine : Engine} {code : String}

/-! ### Refusals -/

/-- A call that is refused, and that changes nothing. -/
def refused (b : Bridge) : EStateM.Result (Stop BridgeError) Bridge α :=
  .error (.error (.handoff .recursive)) b

theorem bind_of_refused {a : Act BridgeError α} (h : a b = refused b)
    (f : α → Act BridgeError β) : (a >>= f) b = refused b := by
  rw [bind_apply, h]
  rfl

theorem ensureReady_of_ready (h : b.lifecycle = .ready) : ensureReady b = .ok () b := by
  unfold ensureReady
  rw [bind_apply, get_apply]
  dsimp only
  rw [h]
  rfl

theorem inside_of_occupied (hb : b.Occupied) (a : Act ε α) :
    (inside a : Act δ (Except HandoffError (Except ε α))) b = .ok (.error .recursive) b :=
  inside_of_refused (if_pos ⟨hb.mode, hb.entered⟩) a

/-- Whatever the interpreter would do, a source text is not run, and the range is what it was. -/
theorem execute_of_occupied (hb : b.Occupied) (range : Option (Int64 × Int64)) :
    execute engine code range b = refused b := by
  have hentered : ({ b with range := linesFor b range } : Bridge).Occupied :=
    ⟨hb.mode, hb.entered, hb.ready⟩
  unfold execute
  simp only [bind_apply, ensureReady_of_ready hb.ready, get_apply, modify_apply,
    inside_of_occupied hentered]
  rfl

theorem evaluate_of_occupied (hb : b.Occupied) : evaluate engine code b = refused b := by
  unfold evaluate
  simp only [bind_apply, ensureReady_of_ready hb.ready, inside_of_occupied hb]
  rfl

/-- A session where a script runs serves nothing that would start another one. -/
theorem serves_of_occupied {outer : Bridge} (houter : outer.Occupied) (engine : Engine) :
    (Regime.occupied outer).Serves engine where
  ready := fun b hb => by
    rw [ensureReady_of_ready (houter.of_standing hb.2).ready]
    exact .of_stays hb (.refl hb.1)
  shutdown := False.elim
  execute code range := fun b hb => by
    rw [execute_of_occupied (houter.of_standing hb.2)]
    exact .of_stays hb (.refl hb.1)
  evaluate code := fun b hb => by
    rw [evaluate_of_occupied (houter.of_standing hb.2)]
    exact .of_stays hb (.refl hb.1)
  run := False.elim
  eval := False.elim

/-- What keeps to the regime from a bridge leaves its standing. -/
theorem standing_of_obeys {a : Act ε α} {good : α → Prop} (hb : b.Ordinary)
    (ha : (Regime.occupied b).Obeys a good) :
    (final (a b)).Ordinary ∧ (final (a b)).standing = b.standing :=
  (ha b ⟨hb, rfl⟩).always

/-! ### Refused commands -/

theorem mapError_of_error {a : Act ε α} {f : ε → δ} {e : ε} (h : a b = .error (.error e) b') :
    a.mapError f b = .error (.error (f e)) b' := by
  unfold Act.mapError
  rw [h]
  rfl

theorem mapError_of_ok {a : Act ε α} {f : ε → δ} {x : α} (h : a b = .ok x b') :
    a.mapError f b = .ok x b' := by
  unfold Act.mapError
  rw [h]

theorem runFile_of_statement {path : String} (hpath : ¬ path.isEmpty)
    (hstatement : Command.fileStatement path = .ok code) (range : Option (Int64 × Int64)) :
    runFile engine path range = execute engine code range := by
  unfold runFile
  rw [if_neg hpath, hstatement]
  rfl

theorem exCommand_of_line {text : String} {line : Command.Line}
    (hline : Command.Line.parse text = .ok line) :
    exCommand engine text = runInput engine (.ofLine line) := by
  unfold exCommand
  rw [hline]
  rfl

/-- A command with a source text runs or evaluates it, once its lines are found. -/
theorem runInput_of_source {input : Command.Input} (hsource : input.sourceText? = some code)
    {range : Option (Int64 × Int64)} (hrange : (input.line.range.mapM resolve) b = .ok range b) :
    runInput engine input b = execute engine code range b ∨
      ∃ f, (∀ v, (f v).Stays) ∧ runInput engine input b = (evaluate engine code >>= f) b := by
  unfold runInput
  dsimp only
  rw [bind_apply, hrange]
  unfold Command.Input.sourceText? at hsource
  cases hkind : input.line.kind with
  | script =>
    rw [hkind] at hsource
    cases hsource
    exact .inl rfl
  | file =>
    rw [hkind] at hsource
    dsimp only at hsource ⊢
    split at hsource
    · cases hsource
    · rename_i hpath
      cases hfile : Command.fileStatement input.line.arg with
      | ok statement =>
        rw [hfile] at hsource
        cases hsource
        rw [runFile_of_statement hpath hfile]
        exact .inl rfl
      | error e =>
        rw [hfile] at hsource
        cases hsource
  | eval =>
    rw [hkind] at hsource
    cases hsource
    refine .inr ⟨_, fun v => ?_, rfl⟩
    exact .bind stays_demandEditor fun _ => .bind .get fun _ => .say
  | host =>
    rw [hkind] at hsource
    cases hsource

/-- A command that would run a source text is refused as soon as its lines are found. -/
theorem runInput_of_occupied (hb : b.Occupied) {input : Command.Input}
    (hsource : input.sourceText? = some code) {range : Option (Int64 × Int64)}
    (hrange : (input.line.range.mapM resolve) b = .ok range b) :
    runInput engine input b = refused b := by
  obtain hrun | ⟨f, -, hrun⟩ := runInput_of_source hsource hrange
  · exact hrun.trans (execute_of_occupied hb range)
  · exact hrun.trans (bind_of_refused (evaluate_of_occupied hb) f)

/-- A command script counts a refused command as failed, tells the user, and goes on. -/
theorem runRead_of_occupied (hb : b.Ordinary) {input : Command.Input}
    (hrefused : runInput engine input b = refused b) : ∃ b', b.Stays b' ∧
      (runRead engine (.ok (some input)) : Act ε Nat) b = .ok 1 b' := by
  have hreport := stays_report (ε := ε) (.handoff .recursive) b hb
  refine ⟨_, hreport, ?_⟩
  unfold runRead
  simp only [bind_apply, Act.attempt, hrefused]
  rfl

/-- The function of the module that runs a command raises the failure as one of the editor. -/
theorem callBuiltin_of_refused {r : ObjRef} {text : String}
    (htext : Convert.stringOf r b = .ok text b)
    (hflush : (Proxy.flush : Act ProxyError Unit) b = .ok () b')
    (hrefused : exCommand engine text b' = refused b') :
    Proxy.callBuiltin (exCommand engine) .command [r] b =
      .error (.error (.host HandoffError.recursive.message)) b' := by
  have harity : (Proxy.arity Foreign.Builtin.command.name [r] 1 1) b = .ok () b := rfl
  have hlift : (monadLift (Convert.stringOf r) : Act ProxyError String) b = .ok text b :=
    mapError_of_ok htext
  have hraised := mapError_of_error (f := fun e : BridgeError => ProxyError.host e.message) hrefused
  unfold Proxy.callBuiltin
  simp only [List.headD_cons, bind_apply, harity, hlift, get_apply, hflush, hraised]
  rfl

/-! ### Scripts go on -/

/-- What a script records of a call that was refused. -/
def refusal : Entry := .mk (.failure (.bridge (.handoff .recursive))) []

/-- A statement whose call is refused is recorded, with nothing that ran under it. -/
theorem runStep_of_refused {a : Script.SessionAction} (hb : b.Ordinary)
    (ha : ∀ logs, Script.performSession engine a { b with logs } = refused { b with logs })
    (name : Option String) (raises reported : Bool) : ∃ b', b.Stays b' ∧
      Script.runStep engine (.mk (.session a) name raises reported) b = .ok refusal b' := by
  rw [Script.runStep]
  generalize hstep : (Script.perform engine (.session a) >>= fun p => _ : Act Failure _) = step
  have hfails : step { b with logs := [] } =
      .error (.error (.bridge (.handoff .recursive))) { b with logs := [] } := by
    have hperform : Script.perform engine (.session a) { b with logs := [] } =
        .error (.error (.bridge (.handoff .recursive))) { b with logs := [] } := by
      rw [Script.perform]
      exact mapError_of_error (ha [])
    rw [← hstep, bind_apply, hperform]
  have hbare : ({ b with logs := [] } : Bridge).Ordinary := ⟨hb.scripted, hb.objects⟩
  obtain ⟨b', hstays, hrecorded⟩ := Script.recorded_apply (ε := Failure) reported step b
    (hfails ▸ hbare)
  rw [hfails] at hstays hrecorded
  rw [final_error] at hstays
  have hlogs : b'.logs = [] := hstays.logs
  refine ⟨{ b' with logs := b.logs, held := b.held }, ⟨⟨hstays.ordinary.scripted,
    hstays.ordinary.objects⟩, ?_⟩, ?_⟩
  · simp only [Bridge.frame, hstays.handoff, hstays.range, hstays.lifecycle, hstays.scripts,
      hstays.history, hstays.ordinary.scripted, hb.scripted]
  · rw [hrecorded, hlogs]
    rfl

/-- A script goes on after a statement that does not pass its failure on. -/
theorem runBody_goesOn {action : Script.Action} (hgive : ∀ v, action ≠ .giveBack v)
    (hthrow : ∀ e, action ≠ .throw e) {name : Option String} {reported : Bool} {entry : Entry}
    (hstep : Script.runStep engine (.mk action name false reported) b = .ok entry b')
    (rest : List Script.Step) :
    Script.runBody engine (.mk action name false reported :: rest) b =
      (do
        let p ← Script.runBody engine rest
        pure (entry :: p.1, p.2) : Act Failure (List Entry × Ending)) b' := by
  obtain ⟨outcome, scripts⟩ := entry
  rw [Script.runBody, bind_apply, hstep]
  · dsimp only
    cases outcome.toForeign? <;> rfl
  · exact hgive
  · exact hthrow

/-- While a script runs in single-call mode, it comes to its next statement whatever the one before
called. -/
theorem goesOn_of_occupied (hb : b.Ordinary) (hoccupied : b.Occupied) {action : Script.Action}
    (hregular : action.regular = true) (hgive : ∀ v, action ≠ .giveBack v)
    (hthrow : ∀ e, action ≠ .throw e) (name : Option String) (reported : Bool)
    (rest : List Script.Step) : ∃ entry b', b'.Ordinary ∧ b'.standing = b.standing ∧
      Script.runStep engine (.mk action name false reported) b = .ok entry b' ∧
      Script.runBody engine (.mk action name false reported :: rest) b =
        (do
          let p ← Script.runBody engine rest
          pure (entry :: p.1, p.2) : Act Failure (List Entry × Ending)) b' := by
  obtain ⟨entry, b', hstep⟩ :=
    Script.runStep_returns engine (.mk action name false reported) b
  have hserves := serves_of_occupied hoccupied engine
  have hafter := standing_of_obeys hb
    (hserves.runStep (.mk action name false reported) (.inr (by rwa [Script.Step.regular])))
  rw [hstep] at hafter
  exact ⟨entry, b', hafter.1, hafter.2, hstep, runBody_goesOn hgive hthrow hstep rest⟩

end Session

end ScriptBridge
