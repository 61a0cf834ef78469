import ScriptBridge.Script.Perform.Host
import ScriptBridge.Script.Perform.Object
import ScriptBridge.Script.Perform.Session

/-!
# Running statements

A statement never ends the run: its failure is its outcome, and so is a breakdown. Inside a script,
a failure ends the script if the statement says so, and is then the failure of the script.
-/

namespace ScriptBridge.Script

open Foreign (ObjRef Object)

variable {ε : Type}

/-- How a script ends. -/
inductive Ending where
  | done
  | value (r : ObjRef)
  | failed (e : ForeignError)

/-- Tells the user about the failure of an entry point. -/
def reportFailure : Failure → Act ε Unit
  | .bridge e => Session.report e
  | _ => pure ()

/-- A failure as an outcome. -/
def Outcome.ofFailure (b : Bridge) : Failure → Outcome
  | .foreign (.absentKey key text) => .absentKey (.absentKey key text) (viewObject b key)
  | f => .failure f

/-- Runs a statement to its outcome. What ran under it is noted with it, and what it used is no
longer in use. -/
def recorded (reported : Bool) (a : Act Failure Answer) : Act ε Entry := do
  let outer ← get
  set { outer with logs := [] }
  let outcome ← (fun b => match a b with
    | .ok x b => .ok (.answer x) b
    | .error (.error f) b => .ok (.ofFailure b f) b
    | .error .crash b => .ok .crash b : Act ε Outcome)
  match outcome, reported with
  | .failure f, true => reportFailure f
  | _, _ => pure ()
  let inner ← get
  set { inner with logs := outer.logs, held := outer.held }
  return .mk outcome inner.logs

/-- The failure that leaves a script with an outcome. -/
def Outcome.toForeign? : Outcome → Option ForeignError
  | .answer _ => none
  | .failure f => some f.toForeign
  | .absentKey e _ => some e
  | .crash => some .pending

/-- The loan while statements run in another one. -/
def lentUnder (outer : Loan) (exclusive : Bool) : Loan :=
  if exclusive || outer = .exclusive then .exclusive else .shared

mutual

/-- Performs what a statement does. -/
def perform (engine : Engine) : Action → Act Failure Produced
  | .object a => monadLift (performObject (Session.exCommand engine) a)
  | .slot a => performSlot (Session.exCommand engine) a
  | .runtime a => monadLift (performRuntime engine a)
  | .conversion a => performConversion a
  | .session a => monadLift (performSession engine a)
  | .service a => performService a
  | .editor a => performEditor a
  | .value a => monadLift (performValue a)
  | .lend exclusive body => do
    let loan := (← get).loan
    modify fun b => { b with loan := lentUnder loan exclusive }
    let entries ← runAll engine body
    modify fun b => { b with loan }
    return .answer (.entries entries)
  | .giveBack _ | .throw _ => pure .nothing
  | .started a => do
    let _ : Except BridgeError Unit ← Act.attempt Session.ensureReady
    modify fun b => { b with interpreter := { b.interpreter with constants := [] } }
    perform engine a
  | .saved path code a => do
    modify fun b => { b with interpreter := { b.interpreter with
      files := b.interpreter.files.write path (code ++ "\n").toUTF8.toList } }
    perform engine a

/-- Runs a statement. -/
def runStep (engine : Engine) : Step → Act Failure Entry
  | .mk action name _ reported =>
    recorded reported do
      let p ← perform engine action
      match name with
      | some name => p.keep name
      | none => pure ()
      return p.toAnswer (← get)

/-- Runs statements one after another. -/
def runAll (engine : Engine) : List Step → Act Failure (List Entry)
  | [] => pure []
  | s :: rest => do
    let entry ← runStep engine s
    let entries ← runAll engine rest
    pure (entry :: entries)

end

/-- Runs the statements of a script up to its end. -/
def runBody (engine : Engine) : List Step → Act Failure (List Entry × Ending)
  | [] => pure ([], .done)
  | .mk (.giveBack v) _ _ _ :: _ => do
    let built : Except ForeignError ObjRef ← Act.attempt (build v)
    match built with
    | .ok r => pure ([], .value r)
    | .error e => pure ([.mk (.ofFailure (← get) (.foreign e)) []], .failed e)
  | .mk (.throw e) _ _ _ :: _ => pure ([], .failed e)
  | .mk action name raises reported :: rest => do
    let entry ← runStep engine (.mk action name raises reported)
    let .mk outcome _ := entry
    match outcome.toForeign?, raises with
    | some e, true => pure ([entry], .failed e)
    | _, _ =>
      let (entries, ending) ← runBody engine rest
      pure (entry :: entries, ending)

/-- Runs a script, and notes that it ran. Without a value it gives none. -/
def runScript (engine : Engine) (code : String) (steps : List Step) : Act ForeignError ObjRef :=
  Bridge.confine (fun r => [r]) do
    let (entries, ending) ← (runBody engine steps).mapError Failure.toForeign
    modify fun b => { b with logs := b.logs ++ [.mk code entries] }
    match ending with
    | .done => Bridge.alloc .null
    | .value r => pure r
    | .failed e => Act.fail e

end ScriptBridge.Script
