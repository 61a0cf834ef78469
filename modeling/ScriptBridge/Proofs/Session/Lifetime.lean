import ScriptBridge.Proofs.Session.Course
import ScriptBridge.Proofs.Session.Readiness
import ScriptBridge.Proofs.Session.Reason

/-!
# The life of a session

Calls of the entry points follow one another, from outside and from inside scripts. The first one
that needs the interpreter starts it. If it cannot be started, the session is disabled: it remembers
the failure, and answers every later call with it. After it was shut down the session declines as
well. Either way nothing runs any more, and nothing changes.
-/

namespace ScriptBridge

open ScriptBridge.Computation

namespace Session

variable {b b' : Bridge}

/-- A step in the life of a session. -/
inductive Turn (b : Bridge) : Bridge → Prop where
  /-- A call of an entry point, from outside or by a script. -/
  | call (depth : Nat) (a : Script.SessionAction) :
    Turn b (final (Script.performSession (Script.engine depth) a b))
  /-- Something in which the session has no part: the editor is edited, say, or lent out. -/
  | elsewhere {b' : Bridge} (hb' : b'.Ordinary) (hlifecycle : b'.lifecycle = b.lifecycle)
    (hreason : b'.disabledReason = b.disabledReason)
    (hlocks : b'.handoff.locks = b.handoff.locks) : Turn b b'

/-- One state of a session comes after another one, by calls and by what happens between them. -/
def Life : Bridge → Bridge → Prop := Relation.ReflTransGen Turn

/-- The interpreter cannot be started, for a reason. -/
def Fails (b : Bridge) (e : BridgeError) : Prop := ∃ b', start b = .error (.error e) b'

/-- The session fails to run and to evaluate anything, whatever its interpreter would do, and it
changes nothing. -/
def Declines (b : Bridge) (e : BridgeError) : Prop := ∀ engine code range,
  execute engine code range b = .error (.error e) b ∧ evaluate engine code b = .error (.error e) b

/-- What holds of a session for the rest of its life. -/
structure Lives (b : Bridge) : Prop where
  /-- It is started and stopped as often as is left, and no stage of life comes back. -/
  ages : ∀ b', Life b b' → b.Ages b'
  /-- Only a session that was never started is started, and it is not such a session any more. -/
  starts : (b.lifecycle ≠ .uninitialized → final (ensureReady b) = b) ∧
    (final (ensureReady b)).lifecycle ≠ .uninitialized
  /-- Only a session that is ready is stopped, and it is not ready any more. -/
  stops : (b.lifecycle ≠ .ready →
      (final ((Session.shutdown : Act BridgeError Unit) b)).interpreter = b.interpreter) ∧
    (final ((Session.shutdown : Act BridgeError Unit) b)).lifecycle ≠ .ready
  /-- The session grows older inside scripts, too. -/
  inside : ∀ depth steps, b.Ages (final (Script.runBody (Script.engine depth) steps b))
  /-- A call starts source texts only while the session is ready, and so do the calls of scripts. -/
  ready : ∀ depth a, Script.performSession (Script.strict depth) a b =
    Script.performSession (Script.engine depth) a b
  /-- If the start fails, the call that needs it gives the failure, and disables the session. -/
  fails : b.lifecycle = .uninitialized → ∀ e, Fails b e → ∃ b', b'.lifecycle = .disabled ∧
    b'.disabledReason = e.reason ∧ ∀ engine code range,
      execute engine code range b = .error (.error e) b' ∧
      evaluate engine code b = .error (.error e) b'
  /-- Whatever disabled the session, the failed start is what it tells. -/
  first : b.lifecycle = .uninitialized → ∀ b', Life b b' → b'.lifecycle = .disabled →
    ∃ b₀ e, Life b b₀ ∧ Life b₀ b' ∧ b₀.lifecycle = .uninitialized ∧ Fails b₀ e ∧
      Declines b' (.disabled e.reason)
  disabled : b.lifecycle = .disabled → ∀ b', Life b b' → Declines b' (.disabled b.disabledReason)
  finalized : b.lifecycle = .finalized → ∀ b', Life b b' → Declines b' .finalized
  /-- After the session was shut down once, shutting it down changes nothing. -/
  shutdown : ∀ b', Life (final ((Session.shutdown : Act BridgeError Unit) b)) b' →
    (Session.shutdown : Act BridgeError Unit) b' = .ok () b'

/-! ### Turns -/

theorem Turn.ages (h : Turn b b') (hb : b.Ordinary) : b.Ages b' := by
  cases h with
  | call depth a => exact ages_performSession depth a b hb
  | elsewhere hb' hlifecycle _ hlocks => exact .of_eq hb' hlifecycle hlocks

/-- The session grows older for the rest of its life. -/
theorem Life.ages (h : Life b b') (hb : b.Ordinary) : b.Ages b' := by
  induction h with
  | refl => exact .refl hb
  | tail _ hturn ih => exact ih.trans (hturn.ages ih.ordinary)

/-- What a session tells after a turn if it is disabled then. -/
theorem Turn.tells (h : Turn b b') (hb : b.Ordinary) {reason? : Option String}
    (htells : Tells reason? b) (hdisabled : b'.lifecycle = .disabled) :
    some b'.disabledReason = reason? := by
  have hafter (htells : Tells reason? b') : some b'.disabledReason = reason? := by
    cases htells with
    | disabled _ hreason => exact hreason
    | waiting hl _ => simp [hdisabled] at hl
    | started hl => simp [hdisabled] at hl
  cases h with
  | call depth a =>
    exact hafter (faithful_performSession (serves_since depth) a reason? b hb htells).2
  | elsewhere _ hlifecycle hreason _ =>
    have hbefore := hlifecycle.symm.trans hdisabled
    cases htells with
    | disabled _ h => exact hreason ▸ h
    | waiting hl _ => simp [hbefore] at hl
    | started hl => simp [hbefore] at hl

/-- A session that is disabled remembers the same for the rest of its life. -/
theorem Life.remembers (h : Life b b') (hb : b.Ordinary) (hl : b.lifecycle = .disabled) :
    b'.disabledReason = b.disabledReason := by
  induction h with
  | refl => rfl
  | @tail b₁ b₂ hlife hturn ih =>
    have hages := Life.ages hlife hb
    have hdisabled := hages.disabled hl
    have htells := hturn.tells hages.ordinary (.disabled hdisabled rfl)
      ((hturn.ages hages.ordinary).disabled hdisabled)
    exact (Option.some.inj htells).trans ih

/-- A session that was not started yet is disabled by a start that fails. -/
theorem Life.first (h : Life b b') (hb : b.Ordinary) (hl : b.lifecycle = .uninitialized)
    (hdisabled : b'.lifecycle = .disabled) : ∃ b₀ e, Life b b₀ ∧ Life b₀ b' ∧
      b₀.lifecycle = .uninitialized ∧ Fails b₀ e ∧ b'.disabledReason = e.reason := by
  induction h with
  | refl => simp [hl] at hdisabled
  | @tail b₁ b₂ hlife hturn ih =>
    have hages := Life.ages hlife hb
    have hturned := hturn.ages hages.ordinary
    cases hstage : b₁.lifecycle with
    | ready => exact absurd (hturned.ready hstage) (by simp [hdisabled])
    | finalized => exact absurd (hturned.finalized hstage) (by simp [hdisabled])
    | disabled =>
      obtain ⟨b₀, e, hbefore, hafter, hfirst, hfails, hreason⟩ := ih hstage
      have hsame := Life.remembers (.single hturn) hages.ordinary hstage
      exact ⟨b₀, e, hbefore, hafter.tail hturn, hfirst, hfails, hsame.trans hreason⟩
    | uninitialized =>
      have htells := hturn.tells hages.ordinary (.waiting hstage rfl) hdisabled
      obtain ⟨e, hobstacle, hreason⟩ := Option.map_eq_some_iff.mp htells.symm
      refine ⟨b₁, e, hlife, .single hturn, hstage, ?_, hreason.symm⟩
      have hstartup := startup hages.ordinary hstage
      generalize hresult : start b₁ = outcome at hstartup
      cases hstartup with
      | ok hfree => simp [hfree] at hobstacle
      | error hobstacle' =>
        obtain rfl := Option.some.inj (hobstacle'.symm.trans hobstacle)
        exact ⟨_, hresult⟩

/-! ### Calls that fail -/

/-- Running and evaluating fail as making the interpreter ready fails. -/
theorem fail_of_ensureReady {e : BridgeError} (h : ensureReady b = .error (.error e) b')
    (engine : Engine) (code : String) (range : Option (Int64 × Int64)) :
    execute engine code range b = .error (.error e) b' ∧
      evaluate engine code b = .error (.error e) b' :=
  ⟨bind_of_error h _, bind_of_error h _⟩

theorem Fails.disables {e : BridgeError} (h : Fails b e) (hb : b.Ordinary)
    (hl : b.lifecycle = .uninitialized) : ∃ b', b'.lifecycle = .disabled ∧
      b'.disabledReason = e.reason ∧ ensureReady b = .error (.error e) b' := by
  obtain ⟨b', hb'⟩ := h
  have hstartup := startup hb hl
  rw [hb'] at hstartup
  cases hstartup with
  | error _ hdisabled hreason =>
    exact ⟨b', hdisabled, hreason, (ensureReady_of_uninitialized hl).trans hb'⟩

/-- Only the first start is tried. -/
theorem ensureReady_starts (hb : b.Ordinary) :
    (b.lifecycle ≠ .uninitialized → final (ensureReady b) = b) ∧
      (final (ensureReady b)).lifecycle ≠ .uninitialized := by
  cases hl : b.lifecycle with
  | ready =>
    rw [ensureReady_of_ready hl]
    exact ⟨fun _ => rfl, by simp [hl]⟩
  | disabled =>
    rw [ensureReady_of_disabled hl]
    exact ⟨fun _ => rfl, by simp [hl]⟩
  | finalized =>
    rw [ensureReady_of_finalized hl]
    exact ⟨fun _ => rfl, by simp [hl]⟩
  | uninitialized =>
    refine ⟨fun h => absurd rfl h, ?_⟩
    have hstartup := startup hb hl
    rw [ensureReady_of_uninitialized hl]
    generalize start b = outcome at hstartup ⊢
    cases hstartup with
    | ok _ hready _ => simp [hready]
    | error _ hdisabled _ _ => simp [hdisabled]

/-- Only what is running is stopped. -/
theorem shutdown_stops (hb : b.Ordinary) :
    (b.lifecycle ≠ .ready →
      (final ((Session.shutdown : Act BridgeError Unit) b)).interpreter = b.interpreter) ∧
    (final ((Session.shutdown : Act BridgeError Unit) b)).lifecycle ≠ .ready := by
  obtain ⟨b', hb', hshutdown⟩ := shutdown_spec (ε := BridgeError) hb
  rw [hb', final_ok]
  constructor
  · intro hl
    cases hshutdown with
    | disabled | idle => rfl
    | running hready => exact absurd hready hl
  · intro hready
    obtain hl | hl := hshutdown.lifecycle <;> simp [hready] at hl

/-- For the rest of its life, shutting the session down once more has no effect. -/
theorem shutdown_again (hb : b.Ordinary)
    (h : Life (final ((Session.shutdown : Act BridgeError Unit) b)) b') :
    (Session.shutdown : Act BridgeError Unit) b' = .ok () b' := by
  obtain ⟨b₁, hb₁, hshutdown⟩ := shutdown_spec (ε := BridgeError) hb
  rw [hb₁] at h
  have hages := Life.ages h (hshutdown.ages hb).ordinary
  obtain hl | hl := hshutdown.lifecycle
  · exact shutdown_of_disabled (hages.disabled hl)
  · have hfinalized := hages.finalized hl
    rw [shutdown_of_idle (.inr hfinalized), ← hfinalized]

/-- A session is started at most once and stopped at most once, its stages of life never come back,
and scripts start only while it is ready. A failed start disables it. Once it is disabled or shut
down, all that it is to run fails without changing anything, and a second shutdown has no effect. -/
theorem lives_once {b : Bridge} (hb : b.Ordinary) : Lives b where
  ages _ h := h.ages hb
  starts := ensureReady_starts hb
  stops := shutdown_stops hb
  inside depth steps := ages_runBody depth steps b hb
  ready depth a := congrFun (performSession_strict depth a) b
  fails hl e hfails := by
    obtain ⟨b', hdisabled, hreason, hready⟩ := hfails.disables hb hl
    exact ⟨b', hdisabled, hreason, fail_of_ensureReady hready⟩
  first hl b' hlife hdisabled := by
    obtain ⟨b₀, e, hbefore, hafter, hfirst, hfails, hreason⟩ := hlife.first hb hl hdisabled
    refine ⟨b₀, e, hbefore, hafter, hfirst, hfails, ?_⟩
    exact hreason ▸ fail_of_ensureReady (ensureReady_of_disabled hdisabled)
  disabled hl b' hlife := by
    have hready := ensureReady_of_disabled ((hlife.ages hb).disabled hl)
    rw [hlife.remembers hb hl] at hready
    exact fail_of_ensureReady hready
  finalized hl b' hlife :=
    fail_of_ensureReady (ensureReady_of_finalized ((hlife.ages hb).finalized hl))
  shutdown b' hlife := shutdown_again hb hlife

/-- A session whose interpreter cannot be started. -/
def hopeless : Bridge := { Bridge.fresh with interpreter := { kind := .scripted, failing := true } }

/-- A session with a script that shuts it down, and goes on. -/
def fleeting : Bridge := { Bridge.fresh with
  interpreter := {
    kind := .scripted
    scripts := [("end", .body [.mk (.session .shutdown) none false false,
      .mk (.session (.execute "end" none)) none false true])] } }

theorem lives_once_fleeting :
    (hopeless.Ordinary ∧ Lives hopeless ∧ ∃ b', Life hopeless b' ∧ b'.lifecycle = .disabled ∧
      Declines b' (.disabled "could not load library stub: disabled")) ∧
    (fleeting.Ordinary ∧ Lives fleeting ∧ ∃ b', Life fleeting b' ∧
      b'.handoff.locks =
        [.initialRelease, .acquire .reentrant, .acquire .reentrant, .release .reentrant] ∧
      b'.editor.messages = [.error "interpreter has been shut down"] ∧
      Declines b' .finalized) := by
  have hhopeless : hopeless.Ordinary := ⟨rfl, fun _ => trivial⟩
  have hfleeting : fleeting.Ordinary := ⟨rfl, fun _ => trivial⟩
  have hfails : Life hopeless _ := .single (.call 2 (.evaluate "1"))
  have hends : Life fleeting _ := .single (.call 2 (.execute "end" none))
  refine ⟨⟨hhopeless, lives_once hhopeless, _, hfails, rfl, ?_⟩,
    hfleeting, lives_once hfleeting, _, hends, by decide +kernel, by decide +kernel, ?_⟩
  · exact (lives_once (hfails.ages hhopeless).ordinary).disabled rfl _ .refl
  · have hfinalized : (final (Script.performSession (Script.engine 2) (.execute "end" none)
        fleeting)).lifecycle = .finalized := by decide +kernel
    exact (lives_once (hends.ages hfleeting).ordinary).finalized hfinalized _ .refl

end Session

end ScriptBridge
