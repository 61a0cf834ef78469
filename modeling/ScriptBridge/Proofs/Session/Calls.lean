import ScriptBridge.Proofs.Session.Admitting
import ScriptBridge.Proofs.Session.Course
import ScriptBridge.Proofs.Session.OneAtATime

/-!
# Calls of entry points

Scripts and their callers run source texts by the same entry points, so calls nest. What was in force
before a call is in force after it, whatever ran in it. In single-call mode a call under a script is
refused, and a call from outside is not.
-/

namespace ScriptBridge

open Foreign (ObjRef)
open Script (Entry Ending Failure)
open ScriptBridge.Computation

namespace Session

/-- A call of an entry point. -/
inductive Call where
  | execute (code : String) (range : Option (Int64 × Int64))
  | evaluate (code : String)
  | runFile (path : String) (range : Option (Int64 × Int64))
  /-- A command line. -/
  | command (line : String)
  /-- A command of a command script. -/
  | input (input : Command.Input)
  /-- A command script. -/
  | source (text : String)
  /-- The function of the module that runs a command line. -/
  | builtin (given : List ObjRef)

/-- Makes a call. -/
def Call.run (engine : Engine) : Call → Act Failure Unit
  | .execute code range => (Session.execute engine code range).mapError .bridge
  | .evaluate code => Act.mapError .bridge do
    let _ ← Session.evaluate engine code
    pure ()
  | .runFile path range => (Session.runFile engine path range).mapError .bridge
  | .command line => (exCommand engine line).mapError .bridge
  | .input i => (runInput engine i).mapError .bridge
  | .source text => do
    let _ ← Session.source engine text
    pure ()
  | .builtin given => Act.mapError .proxy do
    let _ ← Proxy.callBuiltin (exCommand engine) .command given
    pure ()

/-- A call comes to run or to evaluate a source text: its path or its command is one that has a source
text, and the lines that it names are there. -/
inductive Call.Names (b : Bridge) : Call → String → Prop where
  | execute (code : String) (range : Option (Int64 × Int64)) : Names b (.execute code range) code
  | evaluate (code : String) : Names b (.evaluate code) code
  | runFile {path code : String} (range : Option (Int64 × Int64)) (hpath : ¬ path.isEmpty)
    (hstatement : Command.fileStatement path = .ok code) : Names b (.runFile path range) code
  | command {text code : String} {line : Command.Line} {range : Option (Int64 × Int64)}
    (hline : Command.Line.parse text = .ok line)
    (hsource : (Command.Input.ofLine line).sourceText? = some code)
    (hrange : (line.range.mapM resolve) b = .ok range b) : Names b (.command text) code
  | input {i : Command.Input} {code : String} {range : Option (Int64 × Int64)}
    (hsource : i.sourceText? = some code) (hrange : (i.line.range.mapM resolve) b = .ok range b) :
    Names b (.input i) code

/-- How many commands a call has, at most. -/
def Call.commands : Call → Nat
  | .source text => (Text.linesOf text).length + 1
  | _ => 1

/-- What was in force before a call is in force after it. -/
structure Restores {ε α : Type} (b : Bridge) (outcome : EStateM.Result (Stop ε) Bridge α) : Prop where
  ordinary : (final outcome).Ordinary
  depth : (final outcome).handoff.depth = b.handoff.depth
  side : (final outcome).handoff.side = b.handoff.side
  /-- If the call returns, and no statement of the scripts that ran in it has broken down. -/
  range : (∀ b', outcome ≠ .error .crash b') → ∃ new, (final outcome).logs = b.logs ++ new ∧
    (Script.unbrokenLogs new = true → (final outcome).range = b.range)

/-- What calls come to while a script runs in single-call mode, whatever the interpreter would do. -/
structure RefusesCalls (b : Bridge) : Prop where
  /-- A call that would start a source text fails, and changes nothing. -/
  refuses : ∀ engine (call : Call) code, call.Names b code →
    call.run engine b = .error (.error (.bridge (.handoff .recursive))) b
  /-- A command script counts a refused command as failed, and goes on. -/
  read : ∀ engine input, runInput engine input b = refused b →
    ∃ b', b.Stays b' ∧ (runRead engine (.ok (some input)) : Act Failure Nat) b = .ok 1 b'
  /-- A script is told with the words of the refusal. -/
  builtin : ∀ engine r text b', Convert.stringOf r b = .ok text b →
    (Proxy.flush : Act ProxyError Unit) b = .ok () b' → exCommand engine text b' = refused b' →
    Proxy.callBuiltin (exCommand engine) .command [r] b =
      .error (.error (.host "E659: Cannot invoke Python recursively")) b'
  /-- No source text starts. -/
  call : ∀ engine (call : Call), (final (call.run engine b)).standing = b.standing
  /-- None starts as long as statements of the script run, either. -/
  body : ∀ engine steps, Script.regularSteps steps = true →
    (final (Script.runBody engine steps b)).standing = b.standing
  /-- The script records the refusal of what it calls. -/
  recorded : ∀ engine a, (∃ code range, a = .execute code range) ∨ (∃ code, a = .evaluate code) →
    ∀ name raises reported, ∃ b', b.Stays b' ∧
      Script.runStep engine (.mk (.session a) name raises reported) b = .ok refusal b'
  /-- The script goes on after whatever it called, unless it passes a failure on or ends itself. -/
  goesOn : ∀ engine (action : Script.Action), action.regular = true →
    (∀ v, action ≠ .giveBack v) → (∀ e, action ≠ .throw e) → ∀ name reported rest,
      ∃ entry b', b'.Ordinary ∧ b'.standing = b.standing ∧
        Script.runStep engine (.mk action name false reported) b = .ok entry b' ∧
        Script.runBody engine (.mk action name false reported :: rest) b =
          (do
            let p ← Script.runBody engine rest
            pure (entry :: p.1, p.2) : Act Failure (List Entry × Ending)) b'

variable {R : Regime} {engine : Engine} {b : Bridge}

/-- A call keeps to what source texts keep to. -/
theorem obeys_call (h : R.Serves engine) (call : Call) : R.Obeys (call.run engine) := by
  cases call with
  | execute code range => exact .mapError (h.execute code range)
  | evaluate code => exact .mapError (.bind (h.evaluate code) fun _ => .pure)
  | runFile path range => exact .mapError (h.runFile path range)
  | command line => exact .mapError (h.exCommand line)
  | input i => exact .mapError (h.runInput i)
  | source text => exact .bind (h.source text) fun _ => .pure
  | builtin given => exact .mapError (.bind (h.callBuiltin .command given) fun _ => .pure)

theorem restores_of_obeys {ε α : Type} {a : Act ε α} (hb : b.Ordinary)
    (ha : (Regime.at b.handoff b.range).Obeys a) : Restores b (a b) := by
  obtain ⟨⟨hordinary, hforce⟩, new, hlogs, hcalm⟩ := ha b ⟨hb, rfl⟩
  obtain ⟨-, hdepth, hside, -⟩ := Handoff.mk.inj hforce
  refine ⟨hordinary, hdepth, hside, fun hreturns => ⟨new, hlogs, fun hunbroken => hcalm rfl ?_⟩⟩
  cases hresult : a b with
  | ok x b' => exact ⟨trivial, hunbroken⟩
  | error stop b' =>
    cases stop with
    | error e => exact hunbroken
    | crash => exact absurd hresult (hreturns b')

theorem refusesCalls (hb : b.Ordinary) (hoccupied : b.Occupied) : RefusesCalls b where
  refuses engine call code hnames := by
    cases hnames with
    | execute code range => exact mapError_of_error (execute_of_occupied hoccupied range)
    | evaluate code =>
      exact mapError_of_error (bind_of_refused (evaluate_of_occupied hoccupied) fun _ => pure ())
    | runFile range hpath hstatement =>
      rw [Call.run, runFile_of_statement hpath hstatement]
      exact mapError_of_error (execute_of_occupied hoccupied range)
    | command hline hsource hrange =>
      rw [Call.run, exCommand_of_line hline]
      exact mapError_of_error (runInput_of_occupied hoccupied hsource hrange)
    | input hsource hrange =>
      exact mapError_of_error (runInput_of_occupied hoccupied hsource hrange)
  read _ _ hrefused := runRead_of_occupied hb hrefused
  builtin _ _ _ _ htext hflush hrefused := callBuiltin_of_refused htext hflush hrefused
  call engine call :=
    (standing_of_obeys hb (obeys_call (serves_of_occupied hoccupied engine) call)).2
  body engine steps hregular :=
    (standing_of_obeys hb ((serves_of_occupied hoccupied engine).runBody steps (.inr hregular))).2
  recorded engine a ha name raises reported := by
    have hlogged (logs : List Script.ScriptLog) : ({ b with logs } : Bridge).Occupied :=
      ⟨hoccupied.mode, hoccupied.entered, hoccupied.ready⟩
    refine runStep_of_refused hb (fun logs => ?_) name raises reported
    obtain ⟨code, range, rfl⟩ | ⟨code, rfl⟩ := ha
    · exact bind_of_refused (execute_of_occupied (hlogged logs) range) _
    · exact bind_of_refused (evaluate_of_occupied (hlogged logs)) _
  goesOn _ _ hregular hgive hthrow name reported rest :=
    goesOn_of_occupied hb hoccupied hregular hgive hthrow name reported rest

/-! ### Calls that are let in -/

/-- A call that fails because a script runs. -/
def Refused (outcome : EStateM.Result (Stop Failure) Bridge Unit) : Prop :=
  ∃ b', outcome = .error (.error (.bridge (.handoff .recursive))) b'

theorem not_refused_mapError {a : Act BridgeError Unit} (h : ∀ b', a b ≠ refused b') :
    ¬ Refused (a.mapError .bridge b) := by
  rintro ⟨b', hrefused⟩
  unfold Act.mapError at hrefused
  cases hresult : a b with
  | ok x b₁ =>
    rw [hresult] at hrefused
    cases hrefused
  | error stop b₁ =>
    rw [hresult] at hrefused
    cases stop with
    | error e =>
      cases hrefused
      exact h _ hresult
    | crash => cases hrefused

theorem unfailing_runRead {ε : Type} (engine : Engine)
    (input : Except ParseError (Option Command.Input)) :
    (runRead engine input : Act ε Nat).Unfailing := by
  refine .bind (Script.unfailing_attempt _) fun outcome => ?_
  cases outcome with
  | ok _ => exact .pure _
  | error e =>
    refine .bind ?_ fun _ => .pure _
    unfold report
    split
    · exact .pure _
    · exact .modify _

theorem unfailing_sourceLines {ε : Type} (engine : Engine) (reader : Command.Reader)
    (lines : List String) : (sourceLines engine reader lines : Act ε Nat).Unfailing := by
  induction lines generalizing reader with
  | nil => exact unfailing_runRead engine _
  | cons line rest ih =>
    exact .bind (unfailing_runRead engine _) fun _ => .bind (ih _) fun _ => .pure _

/-- A call that can enter is not refused, whatever the interpreter does. -/
theorem not_refused (hb : b.Open) (engine : Engine) (call : Call) :
    ¬ Refused (call.run engine b) := by
  cases call with
  | execute code range =>
    exact not_refused_mapError fun b' => admitted_execute engine code range b b' hb
  | evaluate code =>
    have hvalue := (admitted_evaluate engine code).bind_avoids fun _ => .of_unfailing (.pure ())
    exact not_refused_mapError fun b' => hvalue b b' hb
  | runFile path range =>
    exact not_refused_mapError fun b' => admitted_runFile engine path range b b' hb
  | command line => exact not_refused_mapError fun b' => admitted_exCommand engine line b b' hb
  | input i => exact not_refused_mapError fun b' => admitted_runInput engine i b b' hb
  | source text =>
    rintro ⟨b', hrefused⟩
    have hunfailing := unfailing_sourceLines (ε := Failure) engine none (Text.linesOf text)
    exact Act.Unfailing.bind hunfailing (fun _ => .pure ()) b _ b' hrefused
  | builtin given =>
    have hother : (Call.run engine (.builtin given)).Avoids (.bridge (.handoff .recursive)) :=
      .mapError nofun
    exact fun ⟨b', hrefused⟩ => hother b b' hrefused

/-- A call from outside starts one source text for each of its commands, at most. -/
theorem starts_call (depth : Nat) (call : Call) :
    (call.run (Script.engine depth)).Starts call.commands := by
  have hengine := Script.single_engine depth
  cases call with
  | execute code range => exact .mapError (starts_execute hengine range)
  | evaluate code => exact .mapError (.then_stays (starts_evaluate hengine) fun _ => .pure)
  | runFile path range => exact .mapError (starts_runFile hengine path range)
  | command line => exact .mapError (starts_exCommand hengine line)
  | input i => exact .mapError (starts_runInput hengine i)
  | source text => exact .then_stays (starts_sourceLines hengine none _) fun _ => .pure
  | builtin given =>
    exact .mapError (.then_stays (starts_callBuiltin hengine given) fun _ => .pure)

/-- A call from outside starts the source text that it names. -/
theorem started_call {call : Call} {code : String} (hb : b.Idle) (hready : b.lifecycle = .ready)
    (hnames : call.Names b code) (depth : Nat) :
    b.Started [code] (final (call.run (Script.engine (depth + 1)) b)) := by
  have hrun := Script.notes_run depth code
  have heval := Script.notes_eval depth code
  cases hnames with
  | execute code range =>
    rw [Call.run, final_mapError]
    exact started_execute hrun hb hready range
  | evaluate code =>
    rw [Call.run, final_mapError]
    exact (started_evaluate heval hb hready).then_stays fun _ => .pure
  | runFile range hpath hstatement =>
    rw [Call.run, final_mapError, runFile_of_statement hpath hstatement]
    exact started_execute hrun hb hready range
  | command hline hsource hrange =>
    rw [Call.run, final_mapError, exCommand_of_line hline]
    exact started_runInput hrun heval hb hready hsource hrange
  | input hsource hrange =>
    rw [Call.run, final_mapError]
    exact started_runInput hrun heval hb hready hsource hrange

/-- Every call leaves the depth and the side of the handoff, and the range, as they were just before
it. In single-call mode, what enters from outside occupies the session; while it runs, all calls are
refused without starting anything, and the script goes on. From outside, neither a call nor one after
it is refused, a call starts the source text that it names, and one for each of its commands at
most. -/
theorem calls_restore (depth : Nat) (call : Call) {b : Bridge} (hb : b.Ordinary) :
    Restores b (call.run (Script.engine depth) b) ∧
      (b.Occupied → RefusesCalls b) ∧
      (¬ (b.handoff.mode = .singleCall ∧ 0 < b.handoff.depth) →
        ¬ Refused (call.run (Script.engine depth) b) ∧
        ∀ engine (next : Call), ¬ Refused (next.run engine
          (final (call.run (Script.engine depth) b)))) ∧
      (b.handoff.mode = .singleCall → b.handoff.depth = 0 → b.Regular →
        (∃ new, b.Started new (final (call.run (Script.engine depth) b)) ∧
          new.length ≤ call.commands) ∧
        (b.lifecycle = .ready →
          (∃ g entered, b.handoff.enter = .ok (g, entered) ∧
            ({ b with handoff := entered } : Bridge).Occupied) ∧
          ∀ code, call.Names b code → 0 < depth →
            b.Started [code] (final (call.run (Script.engine depth) b)))) := by
  have hobeys := obeys_call (serves_engine depth b.handoff b.range) call
  refine ⟨restores_of_obeys hb hobeys, refusesCalls hb, fun hfree => ?_,
    fun hmode houtside hregular => ?_⟩
  · -- The next call finds the handoff as the first one did.
    have hopen : b.Open := ⟨hb, hfree⟩
    have hafter := hopen.of_obeys hobeys
    exact ⟨not_refused hopen _ call, fun engine next => not_refused hafter engine next⟩
  · have hidle : b.Idle := ⟨hb, hmode, houtside, hregular⟩
    refine ⟨starts_call depth call b hidle, fun hready => ⟨?_, fun code hnames hdepth => ?_⟩⟩
    · obtain ⟨g, entered, hentered, -, hoccupied⟩ := enter_of_idle hmode houtside hready
      exact ⟨g, entered, hentered, hoccupied⟩
    · obtain ⟨below, rfl⟩ := Nat.exists_eq_add_one.mpr hdepth
      exact started_call hidle hready hnames below

/-- A session in single-call mode, with a script that tries to run another one, tells the user, and
goes on. -/
def single : Bridge := { Bridge.fresh with
  interpreter := {
    kind := .scripted
    scripts := [("outer", .body [.mk (.session (.execute "inner" none)) none false true,
        .mk (.editor (.say "going on")) none false false]),
      ("inner", .body [])] }
  handoff := { mode := .singleCall }
  lifecycle := .ready }

/-- The session while its script runs. -/
def running : Bridge := { single with
  handoff := { mode := .singleCall, depth := 1, side := .foreign } }

theorem calls_restore_outer :
    single.Ordinary ∧ Restores single ((Call.execute "outer" none).run (Script.engine 2) single) ∧
      single.Started ["outer"]
        (final ((Call.execute "outer" none).run (Script.engine 2) single)) ∧
      (final ((Call.execute "outer" none).run (Script.engine 2) single)).editor.messages =
        [.error "E659: Cannot invoke Python recursively", .info "going on"] ∧
      ¬ Refused ((Call.execute "outer" none).run (Script.engine 2) single) ∧
      running.Occupied ∧ RefusesCalls running := by
  have hordinary : single.Ordinary := ⟨rfl, fun _ => trivial⟩
  have hrunning : running.Ordinary := ⟨rfl, fun _ => trivial⟩
  have hfree : ¬ (single.handoff.mode = .singleCall ∧ 0 < single.handoff.depth) := by decide
  have hoccupied : running.Occupied := ⟨rfl, Nat.one_pos, rfl⟩
  obtain ⟨hrestores, -, hadmits, hidle⟩ := calls_restore 2 (.execute "outer" none) hordinary
  obtain ⟨-, hready⟩ := hidle rfl rfl rfl
  obtain ⟨-, hstarts⟩ := hready rfl
  obtain ⟨-, hrefuses, -⟩ := calls_restore 2 (.execute "outer" none) hrunning
  exact ⟨hordinary, hrestores, hstarts "outer" (.execute "outer" none) Nat.two_pos,
    by decide +kernel, (hadmits hfree).1, hoccupied, hrefuses hoccupied⟩

end Session

end ScriptBridge
