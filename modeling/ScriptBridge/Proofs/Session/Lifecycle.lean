import ScriptBridge.Proofs.Bridge.Ages
import ScriptBridge.Proofs.Session.SingleCall

/-!
# Starting and stopping

What a start and a stop come to, at each stage of the life of a session. An entry gives the lock
back that it takes. So whatever runs, however deep scripts nest, a session only grows older in it.
-/

namespace ScriptBridge

open Foreign (ObjRef Object)
open ScriptBridge.Computation

namespace Session

variable {ε δ α : Type} {b b' : Bridge} {engine : Engine}

/-! ### Starting -/

/-- A computation that returns a result, whatever the bridge is like. -/
def Returns (a : Act ε α) : Prop := ∀ b, ∃ x b', a b = .ok x b'

theorem Returns.pure (x : α) : Returns (Pure.pure x : Act ε α) := fun b => ⟨x, b, rfl⟩

theorem Returns.alloc (x : Object) : Returns (Bridge.alloc x : Act ε ObjRef) :=
  fun _ => ⟨_, _, rfl⟩

theorem Returns.bind {β : Type} {a : Act ε α} {f : α → Act ε β} (ha : Returns a)
    (hf : ∀ x, Returns (f x)) : Returns (a >>= f) := by
  intro b
  obtain ⟨x, b', h⟩ := ha b
  rw [bind_apply, h]
  exact hf x b'

theorem Returns.mapM {γ : Type} {f : γ → Act ε α} (hf : ∀ x, Returns (f x)) (xs : List γ) :
    Returns (xs.mapM f) :=
  of_mapM (P := Returns) .pure .bind hf xs

theorem returns_newModule (name : String) (members : List (String × ObjRef)) :
    Returns (newModule name members) := by
  refine .bind (fun b => ⟨b, b, rfl⟩) fun b => ?_
  split
  · exact .alloc _
  · exact .bind (.mapM (fun _ => .bind (.alloc _) fun _ => .pure _) _) fun _ =>
      .bind (.mapM (fun _ => .bind (.alloc _) fun _ => .pure _) _) fun _ =>
      .bind (.alloc _) fun _ => .bind (.alloc _) fun _ =>
      .bind (fun b => ⟨_, _, rfl⟩) fun _ => .pure _

/-- Installing the module succeeds if it can look at the editor. -/
theorem install_of_lent (hloan : b.loan ≠ .exclusive) : ∃ b', install b = .ok () b' := by
  have hread : Bridge.readEditor b = .ok b.editor b := by
    unfold Bridge.readEditor
    rw [bind_apply, get_apply]
    dsimp only
    rw [if_neg hloan]
    rfl
  have hreturns {a : Act ProxyError Unit} (ha : Returns a) : ∃ b', a b = .ok () b' := by
    obtain ⟨_, b', h⟩ := ha b
    exact ⟨b', h⟩
  unfold install
  rw [bind_apply, hread]
  dsimp only
  exact hreturns <| .bind (fun b => ⟨b, b, rfl⟩) fun b =>
    .bind (.mapM (fun _ => .bind (.alloc _) fun _ => .pure _) _) fun _ =>
    .bind (returns_newModule _ _) fun _ => .bind (.alloc _) fun _ => .bind (.alloc _) fun _ =>
    fun b => ⟨_, _, rfl⟩

theorem install_of_exclusive (hloan : b.loan = .exclusive) :
    install b = .error (.error (.host busyText)) b := by
  unfold install Bridge.readEditor
  rw [bind_apply, bind_apply, get_apply]
  dsimp only
  rw [if_pos hloan]
  rfl

end Session

/-- What a disabled session remembers of the failure that disabled it. Where the library is missing
it is the reason alone, since the same words are put in front of it again. -/
def BridgeError.reason : BridgeError → String
  | .link e => e.message
  | e => e.message

/-- Why the scripted interpreter cannot be started, if it cannot. -/
def Bridge.obstacle? (b : Bridge) : Option BridgeError :=
  if b.interpreter.failing then some (.link (.libraryNotFound "stub" "disabled"))
  else if b.loan = .exclusive then some (.init busyText)
  else none

namespace Session

variable {ε δ α : Type} {b b' : Bridge} {engine : Engine}

theorem bind_of_scripted (hkind : b.interpreter.kind = .scripted) : Session.bind b =
    if b.interpreter.failing then .error (.error (.libraryNotFound "stub" "disabled")) b
    else .ok () b := by
  unfold Session.bind
  simp only [bind_apply, get_apply, hkind]
  split <;> rfl

/-- What a start comes to. -/
inductive Startup (b : Bridge) : EStateM.Result (Stop BridgeError) Bridge Unit → Prop where
  | ok {b' : Bridge} (hfree : b.obstacle? = none) (hready : b'.lifecycle = .ready)
    (hages : b.Ages b') : Startup b (.ok () b')
  | error {b' : Bridge} {e : BridgeError} (hobstacle : b.obstacle? = some e)
    (hdisabled : b'.lifecycle = .disabled) (hreason : b'.disabledReason = e.reason)
    (hages : b.Ages b') : Startup b (.error (.error e) b')

/-- What the log of the lock shows of a start. -/
theorem ages_of_started (hl : b.lifecycle = .uninitialized) (hb' : b'.Ordinary)
    (hmoves : b.lifecycle.Moves b'.lifecycle)
    (hlocks : b'.handoff.locks = b.handoff.locks ++ [.initialRelease])
    (hstarts : b'.lifecycle.starts = 0) (hstops : b'.lifecycle.stops ≤ 1) : b.Ages b' := by
  refine ⟨hb', .inr hmoves, [.initialRelease], 0, hlocks, ?_, rfl, ?_⟩
  · rw [hl, hstarts]
    decide
  · rw [hl, Nat.zero_add]
    exact hstops

theorem attempt_of_ok {a : Act ε α} {x : α} (h : a b = .ok x b') :
    (Act.attempt a : Act δ (Except ε α)) b = .ok (.ok x) b' := by
  unfold Act.attempt
  rw [h]

theorem attempt_of_error {a : Act ε α} {e : ε} (h : a b = .error (.error e) b') :
    (Act.attempt a : Act δ (Except ε α)) b = .ok (.error e) b' := by
  unfold Act.attempt
  rw [h]

/-- A start that was not tried before. -/
theorem startup (hb : b.Ordinary) (hl : b.lifecycle = .uninitialized) : Startup b (start b) := by
  have hbind := bind_of_scripted hb.scripted
  unfold start
  rw [bind_apply]
  by_cases hfailing : b.interpreter.failing = true
  · rw [if_pos hfailing] at hbind
    rw [attempt_of_error hbind]
    have hobstacle : b.obstacle? = some (.link (.libraryNotFound "stub" "disabled")) :=
      if_pos hfailing
    exact .error hobstacle rfl rfl (.of_moves ⟨hb.scripted, hb.objects⟩ (hl ▸ .disable) rfl)
  · rw [if_neg hfailing] at hbind
    rw [attempt_of_ok hbind]
    dsimp only
    rw [bind_apply, modify_apply]
    dsimp only
    let ready : Bridge := { b with interpreter := { b.interpreter with initialized := true } }
    have hready : ready.Ordinary := ⟨hb.scripted, hb.objects⟩
    change Startup b ((Act.attempt install >>= _) ready)
    rw [bind_apply]
    by_cases hloan : b.loan = .exclusive
    · have hobstacle : b.obstacle? = some (.init busyText) := by
        rw [Bridge.obstacle?, if_neg hfailing, if_pos hloan]
      rw [attempt_of_error (install_of_exclusive (b := ready) hloan)]
      refine .error hobstacle rfl rfl ?_
      exact ages_of_started hl ⟨hb.scripted, hb.objects⟩ (hl ▸ .disable) rfl rfl (Nat.zero_le _)
    · have hobstacle : b.obstacle? = none := by
        rw [Bridge.obstacle?, if_neg hfailing, if_neg hloan]
      obtain ⟨b', hinstalled⟩ := install_of_lent (b := ready) hloan
      have hstays := stays_install ready hready
      rw [Act.StaysFrom, hinstalled] at hstays
      rw [attempt_of_ok hinstalled]
      refine .ok hobstacle rfl ?_
      exact ages_of_started hl ⟨hstays.ordinary.scripted, hstays.ordinary.objects⟩
        (hl ▸ .start) (congrArg (·.locks ++ [.initialRelease]) hstays.handoff) rfl (Nat.le_refl _)

/-! ### Later starts -/

theorem ages_ensureReady : ensureReady.Ages := by
  intro b hb
  unfold ensureReady
  rw [bind_apply, get_apply]
  dsimp only
  cases hl : b.lifecycle with
  | ready | disabled | finalized => exact .refl hb
  | uninitialized =>
    have hstartup := startup hb hl
    dsimp only
    generalize start b = outcome at hstartup ⊢
    cases hstartup with
    | ok _ _ hages => exact hages
    | error _ _ _ hages => exact hages

/-! ### Stopping -/

/-- A session that is disabled stays so. -/
theorem shutdown_of_disabled (hl : b.lifecycle = .disabled) :
    (shutdown : Act ε Unit) b = .ok () b := by
  unfold shutdown
  rw [bind_apply, get_apply]
  dsimp only
  rw [if_neg (by simp [hl]), if_neg (not_not.mpr hl)]
  rfl

/-- What is not running need not be stopped. -/
theorem shutdown_of_idle (hl : b.lifecycle = .uninitialized ∨ b.lifecycle = .finalized) :
    (shutdown : Act ε Unit) b = .ok () { b with lifecycle := .finalized } := by
  have hready : b.lifecycle ≠ .ready := by rintro h; simp [h] at hl
  have hdisabled : b.lifecycle ≠ .disabled := by rintro h; simp [h] at hl
  unfold shutdown
  rw [bind_apply, get_apply]
  dsimp only
  rw [if_neg (by simp [hready]), if_pos hdisabled]
  rfl

/-- What is running is stopped, if it was started, and shut down in any case. -/
theorem shutdown_of_ready (hb : b.Ordinary) (hl : b.lifecycle = .ready) :
    ∃ b', (shutdown : Act ε Unit) b = .ok () b' ∧ b'.lifecycle = .finalized ∧ b.Ages b' := by
  have hdisabled : b.lifecycle ≠ .disabled := by
    rw [hl]
    decide
  unfold shutdown
  rw [bind_apply, get_apply]
  dsimp only
  by_cases hinitialized : b.interpreter.initialized = true
  · rw [if_pos (by simp [hl, hinitialized]), if_pos hdisabled]
    let taken : Bridge := { b.clearRegistry with handoff := { b.clearRegistry.handoff with
      locks := b.clearRegistry.handoff.locks ++ [.acquire b.handoff.mode] } }
    have hcleared := stays_clearRegistry hb
    have hstopped : taken.Stays (stop taken) :=
      stays_stop ⟨hcleared.ordinary.scripted, hcleared.ordinary.objects⟩
    refine ⟨_, rfl, rfl, ?_⟩
    refine ⟨⟨hstopped.ordinary.scripted, hstopped.ordinary.objects⟩, .inr (hl ▸ .stop),
      [.acquire b.handoff.mode], 1, ?_, ?_, rfl, ?_⟩
    · exact (congrArg Handoff.locks hstopped.handoff).trans
        (congrArg (·.locks ++ [.acquire b.handoff.mode]) hcleared.handoff)
    · exact Nat.zero_le _
    · rw [hl]
      exact Nat.le_refl _
  · rw [if_neg (by simp [hinitialized]), if_pos hdisabled]
    exact ⟨_, rfl, rfl, .of_moves ⟨hb.scripted, hb.objects⟩ (hl ▸ .stop) rfl⟩

/-- What a shutdown comes to. -/
inductive Shutdown (b : Bridge) : Bridge → Prop where
  | disabled (hl : b.lifecycle = .disabled) : Shutdown b b
  | idle (hl : b.lifecycle = .uninitialized ∨ b.lifecycle = .finalized) :
    Shutdown b { b with lifecycle := .finalized }
  | running {b' : Bridge} (hl : b.lifecycle = .ready) (hfinalized : b'.lifecycle = .finalized)
    (hages : b.Ages b') : Shutdown b b'

theorem shutdown_spec (hb : b.Ordinary) :
    ∃ b', (shutdown : Act ε Unit) b = .ok () b' ∧ Shutdown b b' := by
  cases hl : b.lifecycle with
  | ready =>
    obtain ⟨b', hb', hfinalized, hages⟩ := shutdown_of_ready (ε := ε) hb hl
    exact ⟨b', hb', .running hl hfinalized hages⟩
  | disabled => exact ⟨b, shutdown_of_disabled hl, .disabled hl⟩
  | uninitialized => exact ⟨_, shutdown_of_idle (.inl hl), .idle (.inl hl)⟩
  | finalized => exact ⟨_, shutdown_of_idle (.inr hl), .idle (.inr hl)⟩

theorem Shutdown.ages (h : Shutdown b b') (hb : b.Ordinary) : b.Ages b' := by
  cases h with
  | disabled => exact .refl hb
  | running _ _ hages => exact hages
  | idle hl =>
    obtain hl | hl := hl
    · exact .of_moves ⟨hb.scripted, hb.objects⟩ (hl ▸ .skip) rfl
    · exact .of_eq ⟨hb.scripted, hb.objects⟩ hl.symm rfl

/-- A session that was shut down is disabled or finalized. -/
theorem Shutdown.lifecycle (h : Shutdown b b') :
    b'.lifecycle = .disabled ∨ b'.lifecycle = .finalized := by
  cases h with
  | disabled hl => exact .inl hl
  | idle => exact .inr rfl
  | running _ hfinalized => exact .inr hfinalized

theorem ages_shutdown : (shutdown : Act ε Unit).Ages := by
  intro b hb
  obtain ⟨b', hb', hshutdown⟩ := shutdown_spec (ε := ε) hb
  rw [hb']
  exact hshutdown.ages hb

/-! ### Running -/

/-- What an entry takes is given back when it is left. -/
theorem ages_inside {a : Act ε α} (ha : a.Ages) :
    (inside a : Act δ (Except HandoffError (Except ε α))).Ages := by
  intro b hb
  by_cases hfree : b.handoff.mode = .singleCall ∧ 0 < b.handoff.depth
  · rw [inside_of_refused (if_pos hfree)]
    exact .refl hb
  · obtain ⟨g, entered, hentered, htaken⟩ : ∃ g entered, b.handoff.enter = .ok (g, entered) ∧
        entered.locks = b.handoff.locks ++ [.acquire b.handoff.mode] :=
      ⟨_, _, Handoff.enter_of_free hfree, rfl⟩
    rw [inside_of_entered hentered, final_handedOn]
    have hinner := ha { b with handoff := entered } ⟨hb.scripted, hb.objects⟩
    exact hinner.entry rfl htaken ⟨hinner.ordinary.scripted, hinner.ordinary.objects⟩ rfl rfl

/-- Other ranges, logs and histories are no other stage of life. -/
theorem ages_execute {code : String} (hrun : (engine.run code).Ages)
    (range : Option (Int64 × Int64)) : (execute engine code range).Ages :=
  .bind ages_ensureReady fun _ => .bind (.of_stays .get) fun _ =>
    .bind (.modify fun _ hb => .of_eq ⟨hb.scripted, hb.objects⟩ rfl rfl) fun _ =>
    .bind (ages_inside hrun) fun result =>
    .bind (.modify fun _ hb => .of_eq ⟨hb.scripted, hb.objects⟩ rfl rfl) fun _ =>
    .of_stays (stays_executed result)

theorem ages_evaluate {code : String} (heval : (engine.eval code).Ages) :
    (evaluate engine code).Ages := by
  have hconverted : (evalAndConvert engine code).Ages :=
    .bind (.mapError heval) fun r => .of_stays (.mapError (Convert.stays_toHost r))
  exact .bind ages_ensureReady fun _ => .bind (ages_inside hconverted) fun result =>
    .of_stays (stays_evaluated result)

end Session

/-! ### Whatever runs -/

/-- The regime of what comes after a state of a session. -/
def Regime.since (b : Bridge) : Regime where
  always := b.Ages
  calm _ := True
  free := True
  ordinary h := h.ordinary
  stays h hstays := h.trans (.of_stays hstays)
  stays_calm _ _ := trivial
  relogged h := h.trans (.of_eq ⟨h.ordinary.scripted, h.ordinary.objects⟩ rfl rfl)
  relogged_calm _ := trivial

theorem Regime.Obeys.ages {ε α : Type} {a : Act ε α} {good : α → Prop}
    (ha : ∀ b, (Regime.since b).Obeys a good) : a.Ages :=
  fun b hb => (ha b b (.refl hb)).always

/-- That the scripts which ran were noted is known from another regime. -/
theorem Act.Ages.obeys {ε α : Type} {a : Act ε α} (hages : a.Ages)
    (hat : ∀ h range, (Regime.at h range).Obeys a) (b : Bridge) : (Regime.since b).Obeys a := by
  intro b' hb'
  obtain ⟨-, new, hlogs, -⟩ := hat b'.handoff b'.range b' ⟨hb'.ordinary, rfl⟩
  exact ⟨hb'.trans (hages b' hb'.ordinary), new, hlogs, fun _ _ => trivial⟩

namespace Session

variable {engine : Engine}

/-- The session with an interpreter in which a session only grows older. -/
theorem serves_since_of_engine (hat : ∀ h range, (Regime.at h range).Serves engine)
    (hrun : ∀ code, (engine.run code).Ages) (heval : ∀ code, (engine.eval code).Ages) (b : Bridge) :
    (Regime.since b).Serves engine where
  ready := ages_ensureReady.obeys (fun h range => (hat h range).ready) b
  shutdown _ := ages_shutdown.obeys (fun h range => (hat h range).shutdown trivial) b
  execute code given :=
    (ages_execute (hrun code) given).obeys (fun h range => (hat h range).execute code given) b
  evaluate code := (ages_evaluate (heval code)).obeys (fun h range => (hat h range).evaluate code) b
  run _ code := (hrun code).obeys (fun h range => (hat h range).run trivial code) b
  eval _ code := (heval code).obeys (fun h range => (hat h range).eval trivial code) b

theorem ages_noteSource {ε : Type} (code : String) : (Script.noteSource code : Act ε Unit).Ages :=
  .modify fun _ hb => .of_eq ⟨hb.scripted, hb.objects⟩ rfl rfl

section

variable {inner : Engine} (hinner : ∀ b, (Regime.since b).Serves inner)

include hinner

theorem ages_runKnown (code : String) (script : Script.Content) :
    (Script.runKnown inner code script).Ages :=
  Regime.Obeys.ages fun b => (hinner b).runKnown code script (.inl trivial)

theorem ages_runScripted (code : String) : (Script.runScripted inner code).Ages := by
  refine .bind (ages_noteSource code) fun _ => .bind (.of_stays .get) fun b => ?_
  split
  · exact .bind (ages_runKnown hinner code _) fun _ => .of_stays .pure
  · exact .of_stays .fail

theorem ages_evalScripted (code : String) : (Script.evalScripted inner code).Ages := by
  refine .bind (ages_noteSource code) fun _ => .bind (.of_stays .get) fun b => ?_
  split
  · exact ages_runKnown hinner code _
  · exact .of_stays (.alloc (Script.plain_literal ‹_›).1.1.ordinary)
  · exact .of_stays .fail

end

/-- However deep scripts can nest, a session only grows older in them. -/
theorem serves_since (depth : Nat) : ∀ b, (Regime.since b).Serves (Script.engine depth) := by
  induction depth with
  | zero =>
    exact serves_since_of_engine (serves_engine 0) (fun _ => .of_stays .crash)
      fun _ => .of_stays .crash
  | succ depth ih =>
    refine serves_since_of_engine (serves_engine (depth + 1)) (fun code => .bind_get fun b hb => ?_)
      fun code => .bind_get fun b hb => ?_
    · rw [hb.scripted]
      exact ages_runScripted ih code b hb
    · rw [hb.scripted]
      exact ages_evalScripted ih code b hb

theorem ages_performSession (depth : Nat) (a : Script.SessionAction) :
    (Script.performSession (Script.engine depth) a).Ages := by
  have hobeys (b : Bridge) :
      (Regime.since b).Obeys (Script.performSession (Script.engine depth) a) :=
    (serves_since depth b).performSession a (.inl trivial)
  exact Regime.Obeys.ages hobeys

theorem ages_runBody (depth : Nat) (steps : List Script.Step) :
    (Script.runBody (Script.engine depth) steps).Ages :=
  Regime.Obeys.ages fun b => (serves_since depth b).runBody steps (.inl trivial)

end Session

end ScriptBridge
