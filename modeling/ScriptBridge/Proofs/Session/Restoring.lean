import ScriptBridge.Proofs.Handoff.Nesting
import ScriptBridge.Proofs.Session.Obeying

/-!
# What was in force comes back

Scripts nest by entry points that they call. Each entry undoes what it changed before it returns: the
guard of the handoff however the source text ends, the range of the command unless a script breaks
down inside it. So the handoff, apart from the log of the lock, and the range are kept by the whole
tree of calls. The induction is on how deep scripts can nest.
-/

namespace ScriptBridge

open Foreign (ObjRef Object)
open Script (Failure)
open ScriptBridge.Computation

/-- The handoff without the log of the lock. -/
def Handoff.inForce (h : Handoff) : Handoff := { h with locks := [] }

/-- An entry that is not refused makes the script side current under the plain locale. -/
theorem Handoff.enter_of_free {h : Handoff} (hfree : ¬ (h.mode = .singleCall ∧ 0 < h.depth)) :
    h.enter = .ok (⟨h.side, (forceLocale h.locale).2⟩,
      { h with
        depth := h.depth + 1, side := .foreign, locale := (forceLocale h.locale).1
        locks := h.locks ++ [.acquire h.mode] }) := by
  unfold enter
  rw [if_neg hfree]

/-- An entry is refused, or leaving it brings back what was in force. -/
theorem Handoff.enter_cases (h : Handoff) : h.enter = .error .recursive ∨
    ∃ g h', h.enter = .ok (g, h') ∧
      ∀ h'' : Handoff, h''.inForce = h'.inForce → (h''.leave g).inForce = h.inForce := by
  by_cases hrefused : h.mode = .singleCall ∧ 0 < h.depth
  · exact .inl (if_pos hrefused)
  · obtain ⟨hforced, hrestored⟩ := Trace.forceLocale_spec h.locale
    refine .inr ⟨_, _, enter_of_free hrefused, fun h'' heq => ?_⟩
    obtain ⟨hmode, hdepth, -, hlocale, -⟩ := Handoff.mk.inj heq
    simp only [leave, inForce, hmode, hdepth, hlocale, hforced, hrestored, Nat.add_sub_cancel]

/-- The regime of a session at one place in the tree of calls: the handoff stays in force, and so does
the range of the command unless a statement breaks down. -/
def Regime.at (h : Handoff) (range : Int64 × Int64) : Regime where
  always b := b.Ordinary ∧ b.handoff.inForce = h.inForce
  calm b := b.range = range
  free := True
  ordinary hb := hb.1
  stays hb h := ⟨h.ordinary, h.handoff ▸ hb.2⟩
  stays_calm hb h := h.range.trans hb
  relogged hb := ⟨⟨hb.1.scripted, hb.1.objects⟩, hb.2⟩
  relogged_calm hb := hb

/-- A regime that does not look at whether the interpreter runs, nor at operations on its lock. -/
structure Regime.Lenient (R : Regime) : Prop where
  always : ∀ {b lifecycle disabledReason locks}, R.always b →
    R.always { b with lifecycle, disabledReason, handoff := { b.handoff with locks } }
  calm : ∀ {b lifecycle disabledReason locks}, R.calm b →
    R.calm { b with lifecycle, disabledReason, handoff := { b.handoff with locks } }

theorem Regime.lenient_at (h : Handoff) (range : Int64 × Int64) : (Regime.at h range).Lenient :=
  ⟨fun hb => ⟨⟨hb.1.scripted, hb.1.objects⟩, hb.2⟩, fun hb => hb⟩

namespace Session

variable {ε δ α β : Type} {h : Handoff} {range : Int64 × Int64} {b : Bridge} {R : Regime}

/-! ### Starting and stopping -/

section

variable (hR : R.Lenient)

include hR

theorem lenient_lockEvent (event : LockEvent) : R.Obeys (lockEvent event : Act ε Unit) :=
  fun _ hb => ⟨hR.always hb, [], (List.append_nil _).symm, fun hb _ => hR.calm hb⟩

theorem lenient_disable (reason : String) : R.Obeys (disable reason) :=
  fun _ hb => ⟨hR.always hb, [], (List.append_nil _).symm, fun hb _ => hR.calm hb⟩

theorem lenient_lifecycle (lifecycle : Script.Lifecycle) :
    R.Obeys (modify fun b => { b with lifecycle } : Act ε PUnit) :=
  fun _ hb => ⟨hR.always hb, [], (List.append_nil _).symm, fun hb _ => hR.calm hb⟩

omit hR

theorem stays_newModule (name : String) (members : List (String × ObjRef)) :
    (newModule name members).Stays := by
  have hnew : (Bridge.alloc (.module name members) : Act ProxyError ObjRef).Stays := .alloc trivial
  refine .bind_get fun b hb => ?_
  rw [hb.scripted]
  exact hnew b hb

theorem stays_install : install.Stays := by
  have hmembers (b : Bridge) : Act.Stays
      ((("error", Object.type .error) :: newMembers b).mapM fun m => do
        return (m.1, ← Bridge.alloc m.2) : Act ProxyError (List (String × ObjRef))) :=
    .mapM_of_mem fun m hm => .bind (.alloc (plain_members hm).1.1.ordinary) fun _ => .pure
  exact .bind .readEditor fun _ => .bind .get fun b => .bind (hmembers b) fun _ =>
    .bind (stays_newModule _ _) fun _ => .bind .wrap fun _ => .bind .wrap fun _ =>
    .modify (fun _ => rfl) fun _ => rfl

include hR

theorem lenient_start : R.Obeys start := by
  refine .bind (.of_stays (.attempt stays_bind)) fun bound => ?_
  cases bound with
  | error e => exact .bind (lenient_disable hR _) fun _ => .fail
  | ok _ =>
    refine .bind (.of_stays (.modify (fun _ => rfl) fun _ => rfl)) fun _ =>
      .bind (.of_stays (.attempt stays_install)) fun installed =>
      .bind (lenient_lockEvent hR _) fun _ => ?_
    cases installed with
    | ok _ => exact lenient_lifecycle hR .ready
    | error e => exact .bind (lenient_disable hR _) fun _ => .fail

/-- However it ends, making the interpreter ready only starts it. -/
theorem lenient_ensureReady : R.Obeys ensureReady := by
  refine .bind .get fun b => ?_
  split
  · exact .pure
  iterate 2 exact .fail
  · exact lenient_start hR

omit hR

theorem stays_clearRegistry (hb : b.Ordinary) : b.Stays b.clearRegistry := by
  have hfold (es : List (Host.Entity × ObjRef)) {b : Bridge} (hb : b.Ordinary) :
      b.Stays (es.foldl (fun b e => b.invalidate e.1) b) := by
    induction es generalizing b with
    | nil => exact .refl hb
    | cons e rest ih =>
      have hfirst := Bridge.stays_invalidate hb e.1
      exact hfirst.trans (ih hfirst.ordinary)
  have hall := hfold b.liveEntries hb
  exact hall.trans (.of_objects hall.ordinary rfl rfl)

theorem stays_stop (hb : b.Ordinary) : b.Stays (stop b) := by
  have hstop : stop b = { b with interpreter := { b.interpreter with
      initialized := false, modules := [], stdout := none, stderr := none } } := by
    simp only [stop, hb.scripted]
  exact hstop ▸ .of_objects hb rfl rfl

include hR

theorem lenient_shutdown : R.Obeys (shutdown : Act ε Unit) := by
  have hend (l : Script.Lifecycle) : R.Obeys (do
      if l ≠ .disabled then modify fun b => { b with lifecycle := .finalized } : Act ε Unit) := by
    split
    · exact lenient_lifecycle hR .finalized
    · exact .pure
  have hclear : (modify Bridge.clearRegistry : Act ε PUnit).Stays := fun _ => stays_clearRegistry
  have hstop : (modify stop : Act ε PUnit).Stays := fun _ => stays_stop
  refine .bind .get fun b => ?_
  dsimp only
  split
  · exact .bind (.of_stays hclear) fun _ => .bind (lenient_lockEvent hR _) fun _ =>
      .bind (.of_stays hstop) fun _ => hend b.lifecycle
  · exact hend b.lifecycle

end

/-! ### Running -/

/-- The result of what entered, as it is handed on once the entry is left. -/
def handedOn (g : Guard) (held : List ObjRef) : EStateM.Result (Stop ε) Bridge α →
    EStateM.Result (Stop δ) Bridge (Except HandoffError (Except ε α))
  | .ok x b => .ok (.ok (.ok x)) { b with handoff := b.handoff.leave g, held }
  | .error (.error e) b => .ok (.ok (.error e)) { b with handoff := b.handoff.leave g, held }
  | .error .crash b => .error .crash { b with handoff := b.handoff.leave g, held }

theorem final_handedOn (g : Guard) (held : List ObjRef)
    (outcome : EStateM.Result (Stop ε) Bridge α) :
    final (handedOn (δ := δ) g held outcome) =
      { final outcome with handoff := (final outcome).handoff.leave g, held } := by
  cases outcome with
  | ok x b => rfl
  | error stop b => cases stop <;> rfl

theorem inside_of_refused {e : HandoffError} (h : b.handoff.enter = .error e) (a : Act ε α) :
    (inside a : Act δ (Except HandoffError (Except ε α))) b = .ok (.error e) b := by
  unfold inside
  rw [bind_apply, get_apply]
  dsimp only
  rw [h]
  rfl

theorem inside_of_entered {g : Guard} {entered : Handoff} (h : b.handoff.enter = .ok (g, entered))
    (a : Act ε α) : (inside a : Act δ (Except HandoffError (Except ε α))) b =
      handedOn g b.held (a { b with handoff := entered }) := by
  unfold inside
  rw [bind_apply, get_apply]
  dsimp only
  rw [h]
  simp only [bind_apply, modify_apply, Act.attempt, Act.ensuring, Bridge.confine]
  cases a { b with handoff := entered } with
  | ok x b' => rfl
  | error stop b' => cases stop <;> rfl

/-- An entry that was made is undone, however the computation inside it ends. -/
theorem at_inside {a : Act ε α} (ha : ∀ h, (Regime.at h range).Obeys a) :
    (Regime.at h range).Obeys (inside a : Act δ (Except HandoffError (Except ε α))) := by
  intro b hb
  obtain hrefused | ⟨g, entered, hentered, hleave⟩ := b.handoff.enter_cases
  · rw [inside_of_refused hrefused]
    exact .of_stays hb (.refl hb.1)
  rw [inside_of_entered hentered]
  have hinner := ha entered { b with handoff := entered } ⟨⟨hb.1.scripted, hb.1.objects⟩, rfl⟩
  generalize a { b with handoff := entered } = outcome at hinner ⊢
  obtain ⟨⟨hordinary, hforce⟩, new, hlogs, hcalm⟩ := hinner
  have hafter := final_handedOn (δ := δ) g b.held outcome
  refine ⟨?_, new, ?_, fun hb hunbroken => ?_⟩
  · rw [hafter]
    exact ⟨⟨hordinary.scripted, hordinary.objects⟩, (hleave _ hforce).trans hb.2⟩
  · rw [hafter]
    exact hlogs
  · rw [hafter]
    refine hcalm hb ?_
    cases outcome with
    | ok x b' => exact ⟨trivial, hunbroken.2⟩
    | error stop b' =>
      cases stop with
      | error e => exact hunbroken.2
      | crash => exact hunbroken.elim

theorem unfailing_inside (a : Act ε α) :
    (inside a : Act δ (Except HandoffError (Except ε α))).Unfailing := by
  refine .bind .get fun b => ?_
  split
  · exact .pure _
  · exact .bind (.modify _) fun _ => .bind (Script.unfailing_attempt _) fun _ => .pure _

/-- Another range is in force during a computation that does not fail. -/
theorem at_ranged {a : Act ε α} {f : α → Act ε β} (ha : ∀ range, (Regime.at h range).Obeys a)
    (hreturns : a.Unfailing) (hf : ∀ x, (f x).Stays) (given : Bridge → Int64 × Int64)
    (hb : (Regime.at h range).always b) :
    (Regime.at h range).Reaches b ((do
      modify fun b => { b with range := given b }
      let x ← a
      modify fun b' => { b' with range := b.range }
      f x : Act ε β) b) := by
  have hinner := ha (given b) { b with range := given b } ⟨⟨hb.1.scripted, hb.1.objects⟩, hb.2⟩
  simp only [bind_apply, modify_apply]
  cases hresult : a { b with range := given b } with
  | ok x b' =>
    rw [hresult] at hinner
    obtain ⟨⟨hordinary, hforce⟩, new, hlogs, -⟩ := hinner
    have hback : ({ b' with range := b.range } : Bridge).Ordinary :=
      ⟨hordinary.scripted, hordinary.objects⟩
    have hrest := hf x _ hback
    refine ⟨(Regime.at h range).stays ⟨hback, hforce⟩ hrest, new, ?_, fun hcalm _ => ?_⟩
    · exact hrest.logs.trans hlogs
    · exact hrest.range.trans hcalm
  | error stop b' =>
    cases stop with
    | error e => exact absurd hresult (hreturns _ e b')
    | crash =>
      -- The range is not put back, but a breakdown is not calm.
      rw [hresult] at hinner
      exact ⟨hinner.always, hinner.logs.imp fun new h => ⟨h.1, fun _ hbroken => hbroken.elim⟩⟩

/-- What is made of the result of a source text, once the interpreter is left, stays. -/
theorem stays_executed (result : Except HandoffError (Except ForeignError Unit)) : Act.Stays
    (match result with
    | .error e => Act.fail (.handoff e)
    | .ok outcome => do
      Proxy.flush
      match outcome with
      | .ok () => pure ()
      | .error e => Act.fail (.execute e) : Act BridgeError Unit) := by
  cases result with
  | error e => exact .fail
  | ok outcome =>
    refine .bind Proxy.stays_flush fun _ => ?_
    cases outcome with
    | ok x => exact .pure
    | error e => exact .fail

theorem stays_evaluated (result : Except HandoffError (Except BridgeError Host.Value)) : Act.Stays
    (match result with
    | .error e => Act.fail (.handoff e)
    | .ok outcome => do
      Proxy.flush
      match outcome with
      | .ok .null => pure (.number 0)
      | .ok v => pure v
      | .error e => Act.fail e : Act BridgeError Host.Value) := by
  cases result with
  | error e => exact .fail
  | ok outcome =>
    refine .bind Proxy.stays_flush fun _ => ?_
    split
    iterate 2 exact .pure
    · exact .fail

theorem at_execute {engine : Engine} {code : String}
    (hrun : ∀ h range, (Regime.at h range).Obeys (engine.run code))
    (given : Option (Int64 × Int64)) : (Regime.at h range).Obeys (execute engine code given) :=
  .bind (lenient_ensureReady (Regime.lenient_at _ _)) fun _ => .bind_get fun _ hb =>
    at_ranged (fun _ => at_inside fun _ => hrun _ _) (unfailing_inside _) stays_executed
      (linesFor · given) hb

theorem at_evaluate {engine : Engine} {code : String}
    (heval : ∀ h range, (Regime.at h range).Obeys (engine.eval code)) :
    (Regime.at h range).Obeys (evaluate engine code) := by
  have hconverted (h : Handoff) : (Regime.at h range).Obeys (evalAndConvert engine code) :=
    .bind (.mapError (heval h range)) fun r => .of_stays (.mapError (Convert.stays_toHost r))
  exact .bind (lenient_ensureReady (Regime.lenient_at _ _)) fun _ =>
    .bind (at_inside hconverted) fun result => .of_stays (stays_evaluated result)

end Session

/-! ### Engines -/

namespace Regime.Serves

variable {R : Regime} {engine : Engine}

/-- A script is noted once its statements have ended, after those that ran meanwhile. -/
theorem runScript (h : R.Serves engine) (code : String) (steps : List Script.Step)
    (hregular : R.free ∨ Script.regularSteps steps = true) :
    R.Obeys (Script.runScript engine code steps) := by
  refine .confine fun b hb => ?_
  have hbody := (h.runBody steps hregular).mapError (f := Failure.toForeign) b hb
  rw [bind_apply]
  generalize (Script.runBody engine steps).mapError Failure.toForeign b = outcome at hbody ⊢
  obtain ⟨halways, new, hlogs, hcalm⟩ := hbody
  cases outcome with
  | ok p b' =>
    obtain ⟨entries, ending⟩ := p
    have hnoted {a : Act ForeignError ObjRef} (ha : a.Stays) :
        R.Reaches b (a { b' with logs := b'.logs ++ [.mk code entries] }) := by
      have halways : R.always { b' with logs := b'.logs ++ [.mk code entries] } := R.relogged halways
      have hrest := ha _ (R.ordinary halways)
      refine ⟨R.stays halways hrest, new ++ [.mk code entries], ?_, fun hb hunbroken => ?_⟩
      · rw [hrest.logs, ← List.append_assoc, ← hlogs]
        rfl
      · have hunbroken := hunbroken.logs
        simp only [Script.unbrokenLogs_append, Script.unbrokenLogs, Script.ScriptLog.unbroken,
          Bool.and_true, Bool.and_eq_true] at hunbroken
        exact R.stays_calm (R.relogged_calm (hcalm hb ⟨hunbroken.2, hunbroken.1⟩)) hrest
    cases ending with
    | done => exact hnoted (a := Bridge.alloc .null) (.alloc trivial)
    | value r => exact hnoted .pure
    | failed e => exact hnoted .fail
  | error stop b' =>
    refine ⟨halways, new, hlogs, fun hb hunbroken => hcalm hb ?_⟩
    cases stop with
    | error e => exact hunbroken
    | crash => exact hunbroken.elim

theorem runKnown (h : R.Serves engine) (code : String) (script : Script.Content)
    (hregular : R.free ∨ script.regular = true) :
    R.Obeys (Script.runKnown engine code script) := by
  cases script with
  | body steps => exact .bind .get fun b => .guard (h.runScript code steps hregular)
  | value v => exact .of_stays (Script.stays_build v)

end Regime.Serves

namespace Session

variable {ε : Type} {h : Handoff} {range : Int64 × Int64} {engine : Engine}

theorem at_noteSource (code : String) :
    (Regime.at h range).Obeys (Script.noteSource code : Act ε Unit) :=
  fun _ hb => ⟨⟨⟨hb.1.scripted, hb.1.objects⟩, hb.2⟩, [], (List.append_nil _).symm, fun hb _ => hb⟩

theorem at_runScripted (hengine : (Regime.at h range).Serves engine) (code : String) :
    (Regime.at h range).Obeys (Script.runScripted engine code) := by
  refine .bind (at_noteSource code) fun _ => .bind .get fun b => ?_
  split
  · exact .bind (hengine.runKnown code _ (.inl trivial)) fun _ => .pure
  · exact .fail

theorem at_evalScripted (hengine : (Regime.at h range).Serves engine) (code : String) :
    (Regime.at h range).Obeys (Script.evalScripted engine code) := by
  refine .bind (at_noteSource code) fun _ => .bind .get fun b => ?_
  split
  · exact hengine.runKnown code _ (.inl trivial)
  · exact .of_stays (.alloc (Script.plain_literal ‹_›).1.1.ordinary)
  · exact .fail

/-- The session with an engine that keeps to the regime at every place. -/
theorem serves_of_engine (hrun : ∀ h range code, (Regime.at h range).Obeys (engine.run code))
    (heval : ∀ h range code, (Regime.at h range).Obeys (engine.eval code)) (h : Handoff)
    (range : Int64 × Int64) : (Regime.at h range).Serves engine where
  ready := lenient_ensureReady (Regime.lenient_at h range)
  shutdown _ := lenient_shutdown (Regime.lenient_at h range)
  execute _ given := at_execute (fun _ _ => hrun _ _ _) given
  evaluate _ := at_evaluate fun _ _ => heval _ _ _
  run _ := hrun h range
  eval _ := heval h range

/-- An interpreter keeps to the regime if the one of the level below does. -/
theorem serves_engineOver {inner : Engine} (hinner : ∀ h range, (Regime.at h range).Serves inner) :
    ∀ h range, (Regime.at h range).Serves (Script.engineOver inner) := by
  refine serves_of_engine (fun h range code => .bind_get fun b hb => ?_)
    (fun h range code => .bind_get fun b hb => ?_)
  · rw [hb.1.scripted]
    exact at_runScripted (hinner h range) code b hb
  · rw [hb.1.scripted]
    exact at_evalScripted (hinner h range) code b hb

/-- However deep scripts can nest, all that is run keeps to the regime of the place where it runs. -/
theorem serves_engine (depth : Nat) :
    ∀ h range, (Regime.at h range).Serves (Script.engine depth) := by
  -- A script runs at another place than its caller: the hypothesis is about all places.
  induction depth with
  | zero => exact serves_of_engine (fun _ _ _ => .crash) fun _ _ _ => .crash
  | succ depth ih => exact serves_engineOver ih

end Session

end ScriptBridge
