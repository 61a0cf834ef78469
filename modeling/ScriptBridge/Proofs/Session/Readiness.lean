import ScriptBridge.Proofs.Session.OneAtATime

/-!
# Source texts start while the session is ready

The session asks its interpreter for something only while it is ready: what the interpreter would do
at another stage of life makes no difference to any call. The same holds of the statements of a
script that runs source texts through the session alone. So an interpreter that breaks down wherever
a source text is started too early or too late would not be noticed, on any level of nested scripts.
-/

namespace ScriptBridge

open Foreign (ObjRef Object)
open Script (Action Content RuntimeAction SessionAction)
open ScriptBridge.Computation

namespace Script

mutual

/-- Whether a statement runs source texts only through the session. -/
def Action.mediated : Action → Bool
  | .runtime (.run _) | .runtime (.eval _) => false
  | .lend _ body => mediatedSteps body
  | .started a | .saved _ _ a => a.mediated
  | _ => true

/-- Whether a statement with its modifiers does. -/
def Step.mediated : Step → Bool
  | .mk action _ _ _ => action.mediated

/-- Whether several statements do. -/
def mediatedSteps : List Step → Bool
  | [] => true
  | s :: rest => s.mediated && mediatedSteps rest

end

/-- Whether a script does. -/
def Content.mediated : Content → Bool
  | .body steps => mediatedSteps steps
  | .value _ => true

end Script

/-- Whether a source text starts nothing past the session. -/
def Bridge.mediates (b : Bridge) (code : String) : Bool :=
  b.interpreter.kind = .scripted && (b.interpreter.scripts.lookup code).all Content.mediated

/-- An interpreter that breaks down where a source text is started while the session is not ready,
over interpreters that do so as well. Under a script that runs source texts past the session nothing
is demanded. -/
def Script.strict : Nat → Engine
  | 0 => engine 0
  | depth + 1 => {
      run := fun code => do
        let b ← get
        if b.lifecycle ≠ .ready then Act.crash
        (engineOver (if b.mediates code then strict depth else engine depth)).run code
      eval := fun code => do
        let b ← get
        if b.lifecycle ≠ .ready then Act.crash
        (engineOver (if b.mediates code then strict depth else engine depth)).eval code }

/-- Two interpreters do the same while the session is ready. -/
structure Engine.Agrees (e e' : Engine) : Prop where
  run : ∀ code (b : Bridge), b.lifecycle = .ready → e.run code b = e'.run code b
  eval : ∀ code (b : Bridge), b.lifecycle = .ready → e.eval code b = e'.eval code b

namespace Session

variable {ε δ α : Type} {e e' : Engine} {b : Bridge}

theorem inside_congr {a a' : Act ε α}
    (h : ∀ handoff, a { b with handoff } = a' { b with handoff }) :
    (inside a : Act δ (Except HandoffError (Except ε α))) b = inside a' b := by
  obtain hrefused | ⟨g, entered, hentered, -⟩ := b.handoff.enter_cases
  · rw [inside_of_refused hrefused, inside_of_refused hrefused]
  · rw [inside_of_entered hentered, inside_of_entered hentered, h]

section

variable (h : e.Agrees e')

include h

/-! ### Calls -/

theorem execute_congr : execute e = execute e' := by
  funext code range b
  unfold execute
  rw [bind_apply, bind_apply]
  cases hstarted : ensureReady b with
  | error stop b' => rfl
  | ok x b' =>
    have hready := ready_of_ensureReady hstarted
    have hinside (b : Bridge) (hb : b.lifecycle = .ready) :
        (inside (e.run code) : Act BridgeError _) b = inside (e'.run code) b :=
      inside_congr fun _ => h.run code _ hb
    simp only [bind_apply, get_apply, modify_apply]
    rw [hinside]
    exact hready

theorem evaluate_congr : evaluate e = evaluate e' := by
  funext code b
  unfold evaluate
  rw [bind_apply, bind_apply]
  cases hstarted : ensureReady b with
  | error stop b' => rfl
  | ok x b' =>
    have hready := ready_of_ensureReady hstarted
    have hinside : (inside (evalAndConvert e code) : Act BridgeError _) b' =
        inside (evalAndConvert e' code) b' := by
      refine inside_congr fun handoff => ?_
      have heval := h.eval code { b' with handoff } hready
      unfold evalAndConvert
      rw [bind_apply, bind_apply, Act.mapError, Act.mapError, heval]
    simp only [bind_apply, hinside]

theorem runFile_congr : runFile e = runFile e' := by
  funext path range
  unfold runFile
  rw [execute_congr h]

theorem runInput_congr : runInput e = runInput e' := by
  funext input
  unfold runInput
  rw [execute_congr h, evaluate_congr h, runFile_congr h]

theorem exCommand_congr : exCommand e = exCommand e' := by
  funext text
  unfold exCommand
  rw [runInput_congr h]

theorem source_congr (text : String) : (source e text : Act ε Nat) = source e' text := by
  have hread (input : Except ParseError (Option Command.Input)) :
      (runRead e input : Act ε Nat) = runRead e' input := by
    unfold runRead
    rw [runInput_congr h]
  have hlines (reader : Command.Reader) (lines : List String) :
      (sourceLines e reader lines : Act ε Nat) = sourceLines e' reader lines := by
    induction lines generalizing reader with
    | nil => exact hread _
    | cons line rest ih =>
      unfold sourceLines
      simp only [hread, ih]
  exact hlines none _

theorem performSession_congr : Script.performSession e = Script.performSession e' := by
  funext a
  cases a with
  | execute code range => simp only [Script.performSession, execute_congr h]
  | evaluate code => simp only [Script.performSession, evaluate_congr h]
  | command line => simp only [Script.performSession, exCommand_congr h]
  | source text => simp only [Script.performSession, source_congr h]
  | runFile path range => simp only [Script.performSession, runFile_congr h]
  | _ => rfl

/-! ### Statements -/

omit h in
theorem performRuntime_congr {a : RuntimeAction} (ha : (Action.runtime a).mediated = true) :
    Script.performRuntime e a = Script.performRuntime e' a := by
  cases a with
  | run code | eval code => rw [Action.mediated] at ha; cases ha
  | _ => rfl

end

mutual

theorem perform_congr (h : e.Agrees e') : (action : Action) → action.mediated = true →
    Script.perform e action = Script.perform e' action
  | .object a, _ => by rw [Script.perform, Script.perform, exCommand_congr h]
  | .slot a, _ => by rw [Script.perform, Script.perform, exCommand_congr h]
  | .runtime a, hmediated => by rw [Script.perform, Script.perform, performRuntime_congr hmediated]
  | .session a, _ => by rw [Script.perform, Script.perform, performSession_congr h]
  | .conversion a, _ | .service a, _ | .editor a, _ | .value a, _ | .giveBack _, _
  | .throw _, _ => by rw [Script.perform, Script.perform]
  | .lend exclusive body, hmediated => by
    rw [Action.mediated] at hmediated
    rw [Script.perform, Script.perform, runAll_congr h body hmediated]
  | .started a, hmediated | .saved _ _ a, hmediated => by
    rw [Action.mediated] at hmediated
    rw [Script.perform, Script.perform, perform_congr h a hmediated]

theorem runStep_congr (h : e.Agrees e') : (s : Script.Step) → s.mediated = true →
    Script.runStep e s = Script.runStep e' s
  | .mk action name _ reported, hmediated => by
    rw [Script.Step.mediated] at hmediated
    rw [Script.runStep, Script.runStep, perform_congr h action hmediated]

theorem runAll_congr (h : e.Agrees e') : (steps : List Script.Step) →
    Script.mediatedSteps steps = true → Script.runAll e steps = Script.runAll e' steps
  | [], _ => by rw [Script.runAll, Script.runAll]
  | s :: rest, hmediated => by
    rw [Script.mediatedSteps, Bool.and_eq_true] at hmediated
    rw [Script.runAll, Script.runAll, runStep_congr h s hmediated.1,
      runAll_congr h rest hmediated.2]

end

/-- The statements of a script that is known. -/
theorem runBody_congr (h : e.Agrees e') {steps : List Script.Step}
    (hmediated : Script.mediatedSteps steps = true) :
    Script.runBody e steps = Script.runBody e' steps := by
  induction steps with
  | nil => rfl
  | cons s rest ih =>
    rw [Script.mediatedSteps, Bool.and_eq_true] at hmediated
    obtain ⟨action, name, raises, reported⟩ := s
    cases action with
    | giveBack _ | throw _ => rfl
    | _ => simp only [Script.runBody, runStep_congr h _ hmediated.1, ih hmediated.2]

theorem runKnown_congr (h : e.Agrees e') (code : String) {script : Content}
    (hmediated : script.mediated = true) :
    Script.runKnown e code script = Script.runKnown e' code script := by
  cases script with
  | value v => rfl
  | body steps =>
    rw [Content.mediated] at hmediated
    have hscript : Script.runScript e code steps = Script.runScript e' code steps := by
      unfold Script.runScript
      rw [runBody_congr h hmediated]
    simp only [Script.runKnown, hscript]

/-! ### Levels of scripts -/

theorem runScripted_congr (h : e.Agrees e') {code : String}
    (hscripts : (b.interpreter.scripts.lookup code).all Content.mediated = true) :
    Script.runScripted e code b = Script.runScripted e' code b := by
  simp only [Script.runScripted, Script.noteSource, bind_apply, modify_apply, get_apply]
  cases hlookup : b.interpreter.scripts.lookup code with
  | none => rfl
  | some script =>
    rw [hlookup, Option.all_some] at hscripts
    simp only [runKnown_congr h code hscripts]

theorem evalScripted_congr (h : e.Agrees e') {code : String}
    (hscripts : (b.interpreter.scripts.lookup code).all Content.mediated = true) :
    Script.evalScripted e code b = Script.evalScripted e' code b := by
  simp only [Script.evalScripted, Script.noteSource, bind_apply, modify_apply, get_apply]
  cases hlookup : b.interpreter.scripts.lookup code with
  | none => cases Script.literal? code <;> rfl
  | some script =>
    rw [hlookup, Option.all_some] at hscripts
    simp only [runKnown_congr h code hscripts]

/-- Interpreters over two that agree do the same with a source text that stays with the session. -/
theorem engineOver_congr (h : e.Agrees e') {code : String} (hmediates : b.mediates code = true) :
    (Script.engineOver e).run code b = (Script.engineOver e').run code b ∧
      (Script.engineOver e).eval code b = (Script.engineOver e').eval code b := by
  rw [Bridge.mediates, Bool.and_eq_true, decide_eq_true_eq] at hmediates
  obtain ⟨hkind, hscripts⟩ := hmediates
  unfold Script.engineOver
  simp only [bind_apply, get_apply, hkind]
  exact ⟨runScripted_congr h hscripts, evalScripted_congr h hscripts⟩

/-- While the session is ready, nothing breaks down that would not break down otherwise. -/
theorem strict_agrees (depth : Nat) : (Script.strict depth).Agrees (Script.engine depth) := by
  induction depth with
  | zero => exact ⟨fun _ _ _ => rfl, fun _ _ _ => rfl⟩
  | succ depth ih =>
    have hlevel (code : String) (b : Bridge) :
        (Script.engineOver (if b.mediates code then Script.strict depth
            else Script.engine depth)).run code b = (Script.engine (depth + 1)).run code b ∧
          (Script.engineOver (if b.mediates code then Script.strict depth
            else Script.engine depth)).eval code b = (Script.engine (depth + 1)).eval code b := by
      by_cases hmediates : b.mediates code = true
      · rw [if_pos hmediates]
        exact engineOver_congr ih hmediates
      · rw [if_neg hmediates]
        exact ⟨rfl, rfl⟩
    constructor
    · intro code b hready
      rw [← (hlevel code b).1, Script.strict]
      dsimp only
      rw [bind_apply, get_apply]
      dsimp only
      rw [if_neg (not_not.mpr hready)]
    · intro code b hready
      rw [← (hlevel code b).2, Script.strict]
      dsimp only
      rw [bind_apply, get_apply]
      dsimp only
      rw [if_neg (not_not.mpr hready)]

/-- No call, and no call that a script makes, starts a source text at another stage of life. -/
theorem performSession_strict (depth : Nat) (a : SessionAction) :
    Script.performSession (Script.strict depth) a = Script.performSession (Script.engine depth) a :=
  congrFun (performSession_congr (strict_agrees depth)) a

end Session

end ScriptBridge
