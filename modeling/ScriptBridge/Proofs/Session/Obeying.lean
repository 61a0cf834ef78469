import ScriptBridge.Proofs.Script.Running
import ScriptBridge.Proofs.Session.Regime

/-!
# Everything that runs source texts keeps to a regime

If the session keeps to a regime when it executes and evaluates source texts, then so do command
lines, command scripts, calls of the functions of the module, statements and bodies of scripts.
-/

namespace ScriptBridge

open Foreign (ObjRef Object ProxyClass Target)
open Script (Action Step Entry Outcome Answer Produced Failure ObjectAction SlotAction RuntimeAction
  SessionAction)
open ScriptBridge.Computation

/-! ### What the session does within the frame -/

namespace Session

variable {ε : Type}

/-- Binding the scripted interpreter changes nothing. -/
theorem stays_bind : bind.Stays := by
  refine .bind_get fun b hb => ?_
  dsimp only
  rw [hb.scripted]
  dsimp only
  split <;> exact .refl hb

theorem stays_probe : (probe : Act ε Bool).Stays := by
  refine .bind .get fun b => ?_
  split
  iterate 3 exact .pure
  · exact .bind (.attempt stays_bind) fun _ => .pure

theorem stays_resolve (r : Command.LineRange) : (resolve r).Stays := by
  refine .bind .get fun b => .guard ?_
  split
  · exact .pure
  · exact .fail

theorem stays_lines (range : Option Command.LineRange) : (range.mapM resolve).Stays := by
  cases range with
  | none => exact .pure
  | some r => exact .map (stays_resolve r)

theorem stays_demandEditor : demandEditor.Stays := by
  refine .bind .get fun b => ?_
  split
  · exact .fail
  · exact .pure

theorem stays_hostCommand (line : String) : (hostCommand line).Stays :=
  .bind stays_demandEditor fun _ => .bind .get fun _ => .mapError .host

theorem stays_report (e : BridgeError) : (report e : Act ε Unit).Stays := by
  unfold report
  split
  · exact .pure
  · exact .say

end Session

/-! ### Statements that are recorded -/

namespace Script

variable {ε : Type} {b : Bridge}

/-- The outcome of a statement that ended somehow. -/
def Outcome.ofResult : EStateM.Result (Stop Failure) Bridge Answer → Outcome
  | .ok a _ => .answer a
  | .error (.error f) b => .ofFailure b f
  | .error .crash _ => .crash

theorem stays_reportFailure (f : Failure) : (reportFailure f : Act ε Unit).Stays := by
  unfold reportFailure
  split
  · exact Session.stays_report _
  · exact .pure

theorem reportFailure_apply (f : Failure) (b : Bridge) :
    ∃ b', (reportFailure f : Act ε Unit) b = .ok () b' := by
  unfold reportFailure
  split
  · unfold Session.report
    split <;> exact ⟨_, rfl⟩
  · exact ⟨b, rfl⟩

theorem toOutcome_apply (a : Act Failure Answer) (b : Bridge) :
    (toOutcome a : Act ε Outcome) b = .ok (.ofResult (a b)) (final (a b)) := by
  unfold toOutcome
  cases a b with
  | ok x b' => rfl
  | error stop b' => cases stop <;> rfl

/-- A statement that is recorded gives its outcome, with the logs of what ran under it. A failure may
be reported. -/
theorem recorded_apply (reported : Bool) (a : Act Failure Answer) (b : Bridge)
    (hordinary : (final (a { b with logs := [] })).Ordinary) :
    ∃ b', (final (a { b with logs := [] })).Stays b' ∧
      (recorded reported a : Act ε Entry) b =
        .ok (.mk (.ofResult (a { b with logs := [] })) b'.logs)
          { b' with logs := b.logs, held := b.held } := by
  have hreport (f : Failure) (b₁ : Bridge) (hb₁ : b₁.Ordinary) :
      ∃ b', b₁.Stays b' ∧ (reportFailure f : Act ε Unit) b₁ = .ok () b' := by
    obtain ⟨b', hb'⟩ := reportFailure_apply (ε := ε) f b₁
    have hstays : (reportFailure f : Act ε Unit).StaysFrom b₁ := stays_reportFailure f b₁ hb₁
    unfold Act.StaysFrom at hstays
    rw [hb'] at hstays
    exact ⟨b', hstays, hb'⟩
  change ∃ b', _ ∧ ((toOutcome a : Act ε Outcome) >>= fun outcome => _) { b with logs := [] } = _
  rw [bind_apply, toOutcome_apply]
  generalize Outcome.ofResult (a { b with logs := [] }) = outcome
  generalize final (a { b with logs := [] }) = b₁ at hordinary ⊢
  cases outcome with
  | failure f =>
    cases reported with
    | true =>
      obtain ⟨b', hstays, hb'⟩ := hreport f b₁ hordinary
      refine ⟨b', hstays, ?_⟩
      dsimp only
      rw [bind_apply, hb']
      rfl
    | false => exact ⟨b₁, .refl hordinary, rfl⟩
  | _ => exact ⟨b₁, .refl hordinary, rfl⟩

/-! ### Statements do not fail -/

/-- A statement that is recorded has an outcome. -/
theorem recorded_returns (reported : Bool) (a : Act Failure Answer) (b : Bridge) :
    ∃ entry b', (recorded reported a : Act ε Entry) b = .ok entry b' := by
  change ∃ entry b', ((toOutcome a : Act ε Outcome) >>= fun outcome => _) { b with logs := [] } = _
  rw [bind_apply, toOutcome_apply]
  generalize Outcome.ofResult (a { b with logs := [] }) = outcome
  cases outcome with
  | failure f =>
    cases reported with
    | true =>
      obtain ⟨b', hb'⟩ := reportFailure_apply (ε := ε) f (final (a { b with logs := [] }))
      dsimp only
      rw [bind_apply, hb']
      exact ⟨_, _, rfl⟩
    | false => exact ⟨_, _, rfl⟩
  | _ => exact ⟨_, _, rfl⟩

theorem runStep_returns (engine : Engine) (s : Step) (b : Bridge) :
    ∃ entry b', runStep engine s b = .ok entry b' := by
  obtain ⟨action, name, raises, reported⟩ := s
  rw [runStep]
  exact recorded_returns _ _ b

theorem unfailing_runStep (engine : Engine) (s : Step) : (runStep engine s).Unfailing := by
  intro b e b' hfails
  obtain ⟨entry, b₁, hreturns⟩ := runStep_returns engine s b
  rw [hreturns] at hfails
  cases hfails

theorem unfailing_runAll (engine : Engine) (steps : List Step) :
    (runAll engine steps).Unfailing := by
  induction steps with
  | nil =>
    rw [runAll]
    exact .pure _
  | cons s rest ih =>
    rw [runAll]
    exact .bind (unfailing_runStep engine s) fun _ => .bind ih fun _ => .pure _

theorem unfailing_attempt {ε δ α : Type} (a : Act ε α) :
    Act.Unfailing (Act.attempt a : Act δ (Except ε α)) := by
  intro b e b'
  unfold Act.attempt
  cases a b with
  | ok x b₁ => nofun
  | error stop b₁ => cases stop <;> nofun

theorem unfailing_runBody (engine : Engine) (steps : List Step) :
    (runBody engine steps).Unfailing := by
  induction steps with
  | nil => exact .pure _
  | cons s rest ih =>
    obtain ⟨action, name, raises, reported⟩ := s
    cases action with
    | giveBack v =>
      refine .bind (unfailing_attempt _) fun built => ?_
      cases built with
      | ok r => exact .pure _
      | error e => exact .bind .get fun _ => .pure _
    | throw e => exact .pure _
    | _ =>
      refine .bind (unfailing_runStep engine _) fun entry => ?_
      obtain ⟨outcome, scripts⟩ := entry
      dsimp only
      split
      · exact .pure _
      · exact .bind ih fun _ => .pure _

theorem unfailing_keep (p : Produced) (name : String) : (p.keep name : Act ε Unit).Unfailing := by
  refine .bind .get fun b => ?_
  split
  iterate 3 exact .modify _
  · exact .bind (fun _ _ _ => nofun) fun _ => .modify _
  · exact .pure _

/-- What was produced did not break down if what is answered in the end did not. -/
theorem Produced.unbroken_of_answered {p : Produced} {a : Act Failure PUnit} (ha : a.Unfailing)
    {new : List ScriptLog}
    (h : Regime.Unbroken (fun x : Answer => x.unbroken = true) new
      ((a >>= fun _ => do return p.toAnswer (← get)) b)) : p.unbroken = true := by
  obtain ⟨x, b', hx, hgood⟩ := h.result (.bind ha fun _ => .bind .get fun _ => .pure _)
  rw [bind_apply] at hx
  cases hfirst : a b with
  | ok y b₁ =>
    rw [hfirst] at hx
    cases hx
    exact unbroken_of_toAnswer hgood
  | error stop b₁ =>
    rw [hfirst] at hx
    cases hx

end Script

namespace Regime

/-- A session that keeps to a regime when it starts its interpreter, and when that runs and evaluates
source texts. -/
structure Serves (R : Regime) (engine : Engine) : Prop where
  ready : R.Obeys Session.ensureReady
  shutdown : R.free → R.Obeys (Session.shutdown : Act BridgeError Unit)
  execute : ∀ code range, R.Obeys (Session.execute engine code range)
  evaluate : ∀ code, R.Obeys (Session.evaluate engine code)
  run : R.free → ∀ code, R.Obeys (engine.run code)
  eval : R.free → ∀ code, R.Obeys (engine.eval code)

variable {R : Regime} {engine : Engine} {ε α : Type} {b : Bridge}

namespace Serves

variable (h : R.Serves engine)

include h

/-! ### Command lines -/

theorem runFile (path : String) (range : Option (Int64 × Int64)) :
    R.Obeys (Session.runFile engine path range) := by
  unfold Session.runFile
  exact .guard (.bind (.of_stays .ofExcept) fun code => h.execute code range)

theorem runInput (input : Command.Input) : R.Obeys (Session.runInput engine input) := by
  refine .bind (.of_stays (Session.stays_lines _)) fun range => ?_
  split
  · exact h.execute _ range
  · exact h.runFile _ range
  · exact .bind (h.evaluate _) fun _ =>
      .of_stays (.bind Session.stays_demandEditor fun _ => .bind .get fun _ => .say)
  · exact .of_stays (Session.stays_hostCommand _)

/-- A command line keeps to what its source text keeps to. -/
theorem exCommand (text : String) : R.Obeys (Session.exCommand engine text) :=
  .bind (.of_stays .ofExcept) fun _ => h.runInput _

theorem runRead (input : Except ParseError (Option Command.Input)) :
    R.Obeys (Session.runRead engine input : Act ε Nat) := by
  refine .bind (.attempt ?_) fun outcome => ?_
  · split
    · exact h.runInput _
    · exact .pure
    · exact .fail
  · cases outcome with
    | ok _ => exact .pure
    | error e => exact .of_stays (.bind (Session.stays_report e) fun _ => .pure)

theorem sourceLines (reader : Command.Reader) (lines : List String) :
    R.Obeys (Session.sourceLines engine reader lines : Act ε Nat) := by
  induction lines generalizing reader with
  | nil => exact h.runRead _
  | cons line rest ih => exact .bind (h.runRead _) fun _ => .bind (ih _) fun _ => .pure

theorem source (text : String) : R.Obeys (Session.source engine text : Act ε Nat) :=
  h.sourceLines none _

/-! ### Calls -/

theorem callBuiltin (f : Foreign.Builtin) (given : List ObjRef) :
    R.Obeys (Proxy.callBuiltin (Session.exCommand engine) f given) := by
  refine .bind (.of_stays (Proxy.stays_arity _ _ _ _)) fun _ =>
    .bind (.of_stays (.mapError (Convert.stays_stringOf _))) fun text => .bind .get fun b => ?_
  dsimp only
  split
  · exact .bind (.of_stays Proxy.stays_flush) fun _ => .bind (.mapError (h.exCommand text)) fun _ =>
      .of_stays (.alloc trivial)
  · exact .of_stays (.bind .serve fun v => .mapError (Convert.stays_toForeign v))
  · exact .of_stays (.bind .serve fun v => .mapError (Convert.stays_toForeignBound v))

theorem callProxy (cls : ProxyClass) (t : Target) (given : List ObjRef) :
    R.Obeys (Proxy.call (Session.exCommand engine) cls t given) := by
  unfold Proxy.call
  split
  · exact h.callBuiltin _ given
  · exact .of_stays (Proxy.stays_callHostFunction _ _ given)
  · exact .of_stays (Proxy.stays_callMethod _ _ _ given)
  iterate 2 exact .of_stays .fail

omit h in
theorem slot {a : Act ProxyError α} (ha : R.Obeys a) : R.Obeys (Proxy.slot a) := by
  refine .bind_get fun b hb => ?_
  rw [(R.ordinary hb).scripted]
  have hguarded : R.Obeys (do
      if !b.attached then Act.fail .notInitialized
      a.mapError ProxyError.toForeign : Act ForeignError α) := .guard (.mapError ha)
  exact hguarded b hb

/-- A call of an object of the scripted interpreter is a call of a proxy, or is refused. -/
theorem call (r : ObjRef) (given : List ObjRef) (keywords : Script.Keywords) :
    R.Obeys (Script.call (Session.exCommand engine) r given keywords) := by
  have hplain : R.Obeys (Script.callPlain (Session.exCommand engine) r given keywords) := by
    refine .bind_object fun b hb => Obeys.bind_kind ?_ b hb
    cases b.objects.get r with
    | proxy cls t => exact slot (h.callProxy cls t given)
    | _ => exact .of_stays (Script.stays_refuse r _)
  intro b hb
  have hordinary := (R.ordinary hb).objects r
  have hcall : Script.call (Session.exCommand engine) r given keywords b =
      Script.callPlain (Session.exCommand engine) r given keywords b := by
    unfold Script.call
    rw [bind_apply]
    have hobject : (Bridge.object r : Act ForeignError Object) b = .ok (b.objects.get r) b := rfl
    rw [hobject]
    dsimp only
    cases hr : b.objects.get r with
    | wrapper owner name | descriptor definer name sort =>
      rw [hr] at hordinary
      exact hordinary.elim
    | _ => rfl
  rw [hcall]
  exact hplain b hb

/-! ### Statements -/

omit h in
/-- An operation after which a statement answers. -/
theorem answered {β : Type} {a : Act ε β} (ha : R.Obeys a) {f : β → Produced}
    {good : Produced → Prop} : R.Obeys (do return f (← a) : Act ε Produced) good :=
  .bind ha fun _ => .pure

theorem performObject (a : ObjectAction) {good : Produced → Prop} :
    R.Obeys (Script.performObject (Session.exCommand engine) a) good := by
  have hbuild (t : Script.Term) : R.Obeys (Script.build t) := .of_stays (Script.stays_build t)
  cases a with
  | build v => exact answered (hbuild v)
  | drop name => exact .of_stays (.bind .get fun _ =>
      .bind (.modify (fun _ => rfl) fun _ => rfl) fun _ => .pure)
  | getAttr o name =>
    exact .bind (hbuild o) fun r => answered (.of_stays (Script.stays_getAttr r name))
  | setAttr o v name =>
    exact .bind (hbuild o) fun r => .bind (hbuild v) fun v =>
      answered (.of_stays (Script.stays_setAttr r name _))
  | deleteAttr o name =>
    exact .bind (hbuild o) fun r => answered (.of_stays (Script.stays_setAttr r name _))
  | getItem o k =>
    exact .bind (hbuild o) fun r => .bind (hbuild k) fun k =>
      answered (.of_stays (Script.stays_getItem r k))
  | setItem o k v =>
    exact .bind (hbuild o) fun r => .bind (hbuild k) fun k => .bind (hbuild v) fun v =>
      answered (.of_stays (Script.stays_setItem r k _))
  | deleteItem o k =>
    exact .bind (hbuild o) fun r => .bind (hbuild k) fun k =>
      answered (.of_stays (Script.stays_setItem r k _))
  | length o => exact .bind (hbuild o) fun r => answered (.of_stays (Script.stays_length r))
  | call o given keywords =>
    exact .bind (hbuild o) fun r => .bind (.of_stays (Script.stays_buildAll given)) fun given =>
      .bind (.of_stays (Script.stays_buildNamed keywords)) fun keywords =>
      answered (h.call r given keywords)
  | callMethod o given keywords name =>
    exact .bind (hbuild o) fun r => .bind (.of_stays (Script.stays_buildAll given)) fun given =>
      .bind (.of_stays (Script.stays_buildNamed keywords)) fun keywords =>
      .bind (.of_stays (Script.stays_getAttr r name)) fun method =>
      answered (h.call method given keywords)
  | iterate o =>
    exact .bind (hbuild o) fun r => .of_stays (.bind (Script.stays_iterate r) Script.stays_newList)
  | contains o v =>
    exact .bind (hbuild o) fun r => .bind (hbuild v) fun v =>
      answered (.of_stays (Script.stays_contains r v))
  | repr o => exact .bind (hbuild o) fun r => answered (.of_stays (Script.stays_reprOf r))
  | text o => exact .bind (hbuild o) fun r => answered (.of_stays (Bridge.stays_textOf r))
  | typeName o => exact .bind (hbuild o) fun r => answered (.of_stays (Bridge.stays_typeName r))
  | debug o | inspect o | validity o => exact .bind (hbuild o) fun r => answered .get
  | textDict entries =>
    refine .bind (.of_stays (Script.stays_buildNamed entries)) fun entries =>
      .bind (.of_stays (.mapM (fun e => ?_) entries)) fun _ =>
      .bind (.of_stays (.alloc trivial)) fun _ => .pure
    exact .bind (Proxy.stays_newText e.1) fun _ => .pure
  | identical a b => exact .bind (hbuild a) fun r => .bind (hbuild b) fun s => answered .get
  | push o v =>
    exact .bind (hbuild o) fun r => .bind (hbuild v) fun v =>
      answered (.of_stays (Script.stays_changeBy r _ _ _))
  | clear o =>
    exact .bind (hbuild o) fun r => answered (.of_stays (Script.stays_changeBy r _ _ _))
  | print text => exact answered (.of_stays (Script.stays_printTexts _))
  | printObject o =>
    exact .bind (hbuild o) fun r => .bind (.of_stays (Bridge.stays_textOf r)) fun _ =>
      answered (.of_stays (Script.stays_printTexts _))
  | arguments => exact .of_stays (.bind (Proxy.stays_newText "") fun _ => Script.stays_newList _)

theorem performSlot (a : SlotAction) {good : Produced → Prop} :
    R.Obeys (Script.performSlot (Session.exCommand engine) a) good := by
  have hbuild (t : Script.Term) : R.Obeys (liftM (Script.build t) : Act Failure ObjRef) :=
    .mapError (.of_stays (Script.stays_build t))
  have hproxy (r : ObjRef) :
      R.Obeys (liftM (Script.proxyOf r) : Act Failure (ProxyClass × Target)) :=
    .mapError (.of_stays (Script.stays_proxyOf r))
  have hoption (t : Option Script.Term) :
      R.Obeys (liftM (Script.buildOption t) : Act Failure (Option ObjRef)) :=
    .mapError (.of_stays (Script.stays_buildOption t))
  cases a with
  | item o i =>
    exact .bind (hbuild o) fun r => .bind (hproxy r) fun p =>
      answered (.mapError (.of_stays (Proxy.stays_item _ _ i)))
  | assignItem o i v =>
    exact .bind (hbuild o) fun r => .bind (hproxy r) fun p => .bind (hoption v) fun v =>
      answered (.mapError (.of_stays (Proxy.stays_assignItem _ _ i v)))
  | iterate o =>
    exact .bind (hbuild o) fun r => .bind (hproxy r) fun p =>
      answered (.mapError (.of_stays (Proxy.stays_iterate _ _)))
  | getAttr o name =>
    refine .bind (hbuild o) fun r => .bind (hproxy r) fun p =>
      .bind (.mapError (.of_stays (Proxy.stays_getAttr? _ _ name))) fun found => ?_
    cases found <;> exact .pure
  | setAttr o v name =>
    exact .bind (hbuild o) fun r => .bind (hproxy r) fun p => .bind (hoption v) fun v =>
      answered (.mapError (.of_stays (Proxy.stays_setAttr _ _ name v)))
  | length o =>
    exact .bind (hbuild o) fun r => .bind (hproxy r) fun p =>
      answered (.mapError (.of_stays (Proxy.stays_length _ _)))
  | subscript o k =>
    exact .bind (hbuild o) fun r => .bind (hproxy r) fun p => .bind (hbuild k) fun k =>
      answered (.mapError (.of_stays (Proxy.stays_subscript _ _ k)))
  | call o given =>
    exact .bind (hbuild o) fun r => .bind (hproxy r) fun p =>
      .bind (.mapError (.of_stays (Script.stays_buildAll given))) fun given =>
      answered (.mapError (h.callProxy _ _ given))

theorem performRuntime (a : RuntimeAction) {good : Produced → Prop}
    (hregular : R.free ∨ (Action.runtime a).regular = true) :
    R.Obeys (Script.performRuntime engine a) good := by
  cases a with
  | construct c =>
    exact .bind (.of_stays Script.stays_demandStarted) fun _ =>
      answered (.of_stays (Script.stays_construct c))
  | weaken o =>
    exact .bind .get fun _ => .bind (.of_stays (Script.stays_build o)) fun _ => answered .get
  | isInitialized | name | history | locks | linked => exact answered .get
  | probe =>
    refine .bind (.of_stays (.attempt Session.stays_bind)) fun bound => ?_
    cases bound <;> exact .pure
  | items o =>
    exact .bind (.of_stays (Script.stays_build o)) fun r =>
      .bind (.of_stays (Proxy.stays_anyItems r)) fun _ => answered .get
  | pairs o =>
    exact .bind (.of_stays (Script.stays_build o)) fun r =>
      .bind (.of_stays (Bridge.stays_pairsOf r)) fun _ => answered .get
  | run code => exact answered (h.run (hregular.resolve_right (by simp [Action.regular])) code)
  | eval code => exact answered (h.eval (hregular.resolve_right (by simp [Action.regular])) code)
  | install name =>
    exact .of_stays (.bind Script.stays_demandStarted fun _ => .bind (.alloc trivial) fun r =>
      .bind (.modify (fun _ => rfl) fun _ => rfl) fun _ => .pure)
  | link library =>
    refine .bind (.of_stays (.attempt (Script.stays_link library))) fun bound => ?_
    cases bound <;> exact .pure

theorem performSession (a : SessionAction) {good : Produced → Prop}
    (hregular : R.free ∨ (Action.session a).regular = true) :
    R.Obeys (Script.performSession engine a) good := by
  cases a with
  | execute code range => exact answered (h.execute code range)
  | evaluate code => exact answered (h.evaluate code)
  | command line => exact answered (h.exCommand line)
  | source text => exact answered (h.source text)
  | runFile path range => exact answered (h.runFile path range)
  | ensureReady => exact answered h.ready
  | probe => exact answered (.of_stays Session.stays_probe)
  | lifecycle | mode | liveProxies => exact answered .get
  | shutdown => exact answered (h.shutdown (hregular.resolve_right (by simp [Action.regular])))
  | sameEditor => exact .pure

omit h

/-- A statement that is recorded keeps to what it does, and a breakdown is seen in its outcome. -/
theorem recorded {a : Act Failure Answer} (ha : R.Obeys a fun x => x.unbroken = true)
    (reported : Bool) :
    R.Obeys (Script.recorded reported a : Act ε Entry) fun e => e.unbroken = true := by
  intro b hb
  obtain ⟨halways, new, hlogs, hcalm⟩ := ha { b with logs := [] } (R.relogged hb)
  obtain ⟨b', hstays, hrecorded⟩ := Script.recorded_apply (ε := ε) reported a b (R.ordinary halways)
  rw [hrecorded]
  refine ⟨R.relogged (R.stays halways hstays), [], (List.append_nil _).symm, fun hb hunbroken => ?_⟩
  refine R.relogged_calm (R.stays_calm (hcalm (R.relogged_calm hb) ?_) hstays)
  have hnew : b'.logs = new := hstays.logs.trans hlogs
  have hentry := hunbroken.1
  rw [hnew, Entry.unbroken, Bool.and_eq_true] at hentry
  generalize a { b with logs := [] } = outcome at hentry ⊢
  cases outcome with
  | ok x b₁ => exact hentry
  | error stop b₁ =>
    cases stop with
    | error f => exact hentry.2
    | crash => cases hentry.1

mutual

theorem perform (h : R.Serves engine) : (action : Action) → (R.free ∨ action.regular = true) →
    R.Obeys (Script.perform engine action) fun p => p.unbroken = true
  | .object a, _ => by
    rw [Script.perform]
    exact .mapError (h.performObject a)
  | .slot a, _ => by
    rw [Script.perform]
    exact h.performSlot a
  | .runtime a, hregular => by
    rw [Script.perform]
    exact .mapError (h.performRuntime a hregular)
  | .conversion a, _ => by
    rw [Script.perform]
    exact .of_stays (Script.stays_performConversion a)
  | .session a, hregular => by
    rw [Script.perform]
    exact .mapError (h.performSession a hregular)
  | .service a, _ => by
    rw [Script.perform]
    exact .of_stays (Script.stays_performService a)
  | .editor a, _ => by
    rw [Script.perform]
    exact .of_stays (Script.stays_performEditor a)
  | .value a, _ => by
    rw [Script.perform]
    exact .of_stays (.mapError (Script.stays_performValue a))
  | .lend exclusive body, hregular => by
    rw [Script.perform]
    refine .bind .get fun b => .bind (.of_stays (.modify (fun _ => rfl) fun _ => rfl)) fun _ => ?_
    refine .followed (runAll h body (hregular.imp_right fun h' => by rwa [Action.regular] at h'))
      (fun entries => .of_stays (.bind (.modify (fun _ => rfl) fun _ => rfl) fun _ => .pure)) ?_
    exact fun entries b new hunbroken => hunbroken.1
  | .giveBack _, _ => by
    rw [Script.perform]
    exact .pure
  | .throw _, _ => by
    rw [Script.perform]
    exact .pure
  | .started a, hregular => by
    rw [Script.perform]
    refine .bind (.attempt h.ready) fun _ =>
      .bind (.of_stays (.modify (fun _ => rfl) fun _ => rfl)) fun _ => ?_
    exact perform h a (hregular.imp_right fun h' => by rwa [Action.regular] at h')
  | .saved path code a, hregular => by
    rw [Script.perform]
    refine .bind (.of_stays (.modify (fun _ => rfl) fun _ => rfl)) fun _ => ?_
    exact perform h a (hregular.imp_right fun h' => by rwa [Action.regular] at h')

/-- Whatever a statement does keeps to what source texts keep to. -/
theorem runStep (h : R.Serves engine) : (s : Step) → (R.free ∨ s.regular = true) →
    R.Obeys (Script.runStep engine s) fun e => e.unbroken = true
  | .mk action name _ reported, hregular => by
    rw [Script.runStep]
    have hperform := perform h action (hregular.imp_right fun h' => by rwa [Step.regular] at h')
    refine recorded ?_ reported
    cases name with
    | none =>
      refine .followed hperform (fun p => .bind .get fun _ => .pure) fun p b new hunbroken => ?_
      exact Produced.unbroken_of_answered (.pure ()) hunbroken
    | some name =>
      refine .followed hperform (fun p => .bind (.of_stays (Script.stays_keep p name)) fun _ =>
        .bind .get fun _ => .pure) fun p b new hunbroken => ?_
      exact Produced.unbroken_of_answered (Script.unfailing_keep p name) hunbroken

theorem runAll (h : R.Serves engine) : (steps : List Step) →
    (R.free ∨ Script.regularSteps steps = true) →
    R.Obeys (Script.runAll engine steps) fun es => Script.unbrokenEntries es = true
  | [], _ => by
    rw [Script.runAll]
    exact .pure
  | s :: rest, hregular => by
    have hregular : (R.free ∨ s.regular = true) ∧ (R.free ∨ Script.regularSteps rest = true) := by
      rw [Script.regularSteps, Bool.and_eq_true] at hregular
      exact or_and_left.mp hregular
    rw [Script.runAll]
    refine .followed (runStep h s hregular.1) (fun entry =>
      .followed (runAll h rest hregular.2) (fun _ => .pure) ?_) ?_
    · exact fun entries b new hunbroken => (Script.unbroken_of_cons hunbroken.1).2
    · intro entry b new hunbroken
      obtain ⟨entries, hgood⟩ := hunbroken.exists_result (Script.unfailing_runAll engine rest)
      exact (Script.unbroken_of_cons hgood).1

end

/-! ### Scripts -/

/-- The statements of a script keep to what source texts keep to. -/
theorem runBody (h : R.Serves engine) (steps : List Step)
    (hregular : R.free ∨ Script.regularSteps steps = true) :
    R.Obeys (Script.runBody engine steps) fun p => Script.unbrokenEntries p.1 = true := by
  induction steps with
  | nil => exact .pure
  | cons s rest ih =>
    have hregular : (R.free ∨ s.regular = true) ∧ (R.free ∨ Script.regularSteps rest = true) := by
      rw [Script.regularSteps, Bool.and_eq_true] at hregular
      exact or_and_left.mp hregular
    obtain ⟨action, name, raises, reported⟩ := s
    cases action with
    | giveBack v =>
      refine .bind (.of_stays (.attempt (Script.stays_build v))) fun built => ?_
      cases built with
      | ok r => exact .pure
      | error e => exact .bind .get fun _ => .pure
    | throw e => exact .pure
    | _ =>
      refine .followed (h.runStep _ hregular.1) (fun entry => ?_) fun entry b new hunbroken => ?_
      · obtain ⟨outcome, scripts⟩ := entry
        dsimp only
        split
        · exact .pure
        · exact .followed (ih hregular.2) (fun _ => .pure) fun p b new hunbroken =>
            (Script.unbroken_of_cons hunbroken.1).2
      · obtain ⟨outcome, scripts⟩ := entry
        have hrest (h : Unbroken (fun p : List Entry × Script.Ending =>
            Script.unbrokenEntries p.1 = true) new ((Script.runBody engine rest >>= fun p =>
              pure (.mk outcome scripts :: p.1, p.2) : Act Failure _) b)) :
            (Entry.mk outcome scripts).unbroken = true := by
          obtain ⟨p, hgood⟩ := h.exists_result (Script.unfailing_runBody engine rest)
          exact (Script.unbroken_of_cons hgood).1
        dsimp only at hunbroken
        cases hfailure : outcome.toForeign? with
        | none =>
          rw [hfailure] at hunbroken
          exact hrest hunbroken
        | some e =>
          rw [hfailure] at hunbroken
          cases raises with
          | true => exact (Script.unbroken_of_cons hunbroken.1).1
          | false => exact hrest hunbroken

end Serves

end Regime

end ScriptBridge
