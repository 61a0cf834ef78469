import ScriptBridge.Proofs.Session.SingleCall

/-!
# Calls that are let in

The handoff refuses no call from outside of scripts, nor any call in reentrant mode. In single-call
mode a call from outside starts one source text for each of its commands at most, since the scripts
that run in it start none; and it leaves the session as open as it was.
-/

namespace ScriptBridge

open Foreign (ObjRef Object)
open ScriptBridge.Computation

/-! ### Failures that do not happen -/

/-- A computation that never fails in one way. -/
def Act.Avoids {ε α : Type} (bad : ε) (a : Act ε α) : Prop := ∀ b b', a b ≠ .error (.error bad) b'

namespace Act.Avoids

variable {ε δ α β γ : Type} {bad : ε}

theorem of_unfailing {a : Act ε α} (ha : a.Unfailing) : a.Avoids bad := fun b b' => ha b bad b'

theorem fail {e : ε} (h : e ≠ bad) : (Act.fail e : Act ε α).Avoids bad := by
  rintro b b' heq
  cases heq
  exact h rfl

theorem bind {a : Act ε α} {f : α → Act ε β} (ha : a.Avoids bad) (hf : ∀ x, (f x).Avoids bad) :
    (a >>= f).Avoids bad := by
  intro b b'
  rw [bind_apply]
  cases h : a b with
  | ok x b₁ => exact hf x b₁ b'
  | error stop b₁ =>
    rintro heq
    cases heq
    exact ha b b' h

theorem fail_bind {e : ε} {f : β → Act ε α} (h : e ≠ bad) : (Act.fail e >>= f).Avoids bad := by
  rintro b b' heq
  cases heq
  exact h rfl

/-- A check in front of a computation. -/
theorem guard {c : Prop} [Decidable c] {e : ε} {f : Unit → Act ε α} (he : e ≠ bad)
    (hf : (f ()).Avoids bad) : (if c then Act.fail e >>= f else f ()).Avoids bad := by
  split
  · exact fail_bind he
  · exact hf

theorem mapError {a : Act δ α} {f : δ → ε} (hf : ∀ e, f e ≠ bad) : (a.mapError f).Avoids bad := by
  intro b b'
  unfold Act.mapError
  cases a b with
  | ok x b₁ => nofun
  | error stop b₁ =>
    rintro heq
    cases stop with
    | error e =>
      cases heq
      exact hf e rfl
    | crash => cases heq

theorem ofExcept {x : Except ε α} (hx : ∀ e, x = .error e → e ≠ bad) :
    (Act.ofExcept x).Avoids bad := by
  cases x with
  | ok y => exact .of_unfailing (.pure y)
  | error e => exact .fail (hx e rfl)

end Act.Avoids

namespace Proxy

theorem unfailing_flush {ε : Type} : (flush : Act ε Unit).Unfailing := by
  refine .bind .get fun b => .bind (.set _) fun _ => .bind (.forIn fun s => ?_) fun _ => .pure _
  split
  · exact .bind (.modify _) fun _ => .pure _
  · exact .pure _

end Proxy

namespace Session

/-- The failure of a call that is refused. -/
abbrev recursion : BridgeError := .handoff .recursive

/-- A failure that is none of starting the interpreter. -/
structure Unrelated (e : BridgeError) : Prop where
  link : ∀ reason, .link reason ≠ e
  init : ∀ reason, .init reason ≠ e
  disabled : ∀ reason, .disabled reason ≠ e
  finalized : .finalized ≠ e

theorem avoids_ensureReady {bad : BridgeError} (hbad : Unrelated bad) :
    ensureReady.Avoids bad := by
  have hdisable (reason : String) : (disable reason).Avoids bad :=
    .of_unfailing (.modify _)
  have hstart : start.Avoids bad := by
    refine .bind (.of_unfailing (Script.unfailing_attempt _)) fun bound => ?_
    cases bound with
    | error e => exact .bind (hdisable _) fun _ => .fail (hbad.link e)
    | ok _ =>
      refine .bind (.of_unfailing (.modify _)) fun _ =>
        .bind (.of_unfailing (Script.unfailing_attempt _)) fun installed =>
        .bind (.of_unfailing (.modify _)) fun _ => ?_
      cases installed with
      | ok _ => exact .of_unfailing (.modify _)
      | error e => exact .bind (hdisable _) fun _ => .fail (hbad.init _)
  refine .bind (.of_unfailing .get) fun b => ?_
  split
  · exact .of_unfailing (.pure _)
  · exact .fail (hbad.disabled _)
  · exact .fail hbad.finalized
  · exact hstart

/-- Starting the interpreter is no entry. -/
theorem unrelated_recursion : Unrelated recursion := ⟨nofun, nofun, nofun, nofun⟩

theorem avoids_resolve (r : Command.LineRange) : (resolve r).Avoids recursion := by
  refine .bind (.of_unfailing .get) fun b => .guard nofun ?_
  split
  · exact .of_unfailing (.pure _)
  · exact .fail nofun

theorem avoids_demandEditor : demandEditor.Avoids recursion := by
  refine .bind (.of_unfailing .get) fun b => ?_
  split
  · exact .fail nofun
  · exact .of_unfailing (.pure _)

theorem avoids_hostCommand (line : String) : (hostCommand line).Avoids recursion :=
  .bind avoids_demandEditor fun _ => .bind (.of_unfailing .get) fun _ => .mapError nofun

end Session

/-! ### Calls that enter -/

/-- A bridge that a call can enter. -/
structure Bridge.Open (b : Bridge) : Prop where
  ordinary : b.Ordinary
  free : ¬ (b.handoff.mode = .singleCall ∧ 0 < b.handoff.depth)

section

variable {ε δ α β : Type} {b b' : Bridge}

theorem Bridge.Open.of_inForce (h : b.Open) (hb' : b'.Ordinary)
    (heq : b'.handoff.inForce = b.handoff.inForce) : b'.Open := by
  obtain ⟨hmode, hdepth, -⟩ := Handoff.mk.inj heq
  exact ⟨hb', hmode ▸ hdepth ▸ h.free⟩

theorem Bridge.Open.of_stays (h : b.Open) (hstays : b.Stays b') : b'.Open :=
  h.of_inForce hstays.ordinary (congrArg Handoff.inForce hstays.handoff)

/-- What keeps to the regime of every place leaves a bridge open. -/
theorem Bridge.Open.of_obeys (h : b.Open) {a : Act ε α} {good : α → Prop}
    (ha : (Regime.at b.handoff b.range).Obeys a good) : (final (a b)).Open :=
  have hafter := (ha b ⟨h.ordinary, rfl⟩).always
  h.of_inForce hafter.1 hafter.2

/-- What enters is run, and only its own failure is handed on. -/
theorem Session.inside_of_open (h : b.Open) {a : Act ε α}
    {r : Except HandoffError (Except ε α)} (hr : (inside a : Act δ _) b = .ok r b') :
    (∃ x, r = .ok (.ok x)) ∨
      ∃ e b₀ b₁, r = .ok (.error e) ∧ a b₀ = .error (.error e) b₁ := by
  obtain ⟨g, entered, hentered⟩ : ∃ g entered, b.handoff.enter = .ok (g, entered) :=
    ⟨_, _, Handoff.enter_of_free h.free⟩
  rw [inside_of_entered hentered] at hr
  cases hrun : a { b with handoff := entered } with
  | ok x b₁ =>
    rw [hrun] at hr
    cases hr
    exact .inl ⟨x, rfl⟩
  | error stop b₁ =>
    rw [hrun] at hr
    cases stop with
    | error e =>
      cases hr
      exact .inr ⟨e, _, b₁, rfl, hrun⟩
    | crash => cases hr

end

/-- A computation that is not refused where a call can enter. -/
def Act.Admitted {α : Type} (a : Act BridgeError α) : Prop :=
  ∀ b b', b.Open → a b ≠ Session.refused b'

namespace Act.Admitted

variable {α β : Type}

theorem of_avoids {a : Act BridgeError α} (ha : a.Avoids Session.recursion) : a.Admitted :=
  fun b b' _ => ha b b'

/-- What comes in front leaves the bridge open. -/
theorem bind {a : Act BridgeError α} {f : α → Act BridgeError β}
    (hopen : ∀ b, b.Open → (final (a b)).Open) (ha : a.Admitted) (hf : ∀ x, (f x).Admitted) :
    (a >>= f).Admitted := by
  intro b b' hb
  have hafter := hopen b hb
  rw [bind_apply]
  cases h : a b with
  | ok x b₁ =>
    rw [h] at hafter
    exact hf x b₁ b' hafter
  | error stop b₁ =>
    rintro heq
    cases heq
    exact ha b b' hb h

/-- What comes after it cannot be refused, wherever it runs. -/
theorem bind_avoids {a : Act BridgeError α} {f : α → Act BridgeError β} (ha : a.Admitted)
    (hf : ∀ x, (f x).Avoids Session.recursion) : (a >>= f).Admitted := by
  intro b b' hb
  rw [bind_apply]
  cases h : a b with
  | ok x b₁ => exact hf x b₁ b'
  | error stop b₁ =>
    rintro heq
    cases heq
    exact ha b b' hb h

theorem bind_stays {a : Act BridgeError α} {f : α → Act BridgeError β} (hstays : a.Stays)
    (ha : a.Avoids Session.recursion) (hf : ∀ x, (f x).Admitted) : (a >>= f).Admitted :=
  bind (fun b hb => hb.of_stays (hstays b hb.ordinary)) (.of_avoids ha) hf

/-- A check in front of a computation. -/
theorem guard {c : Prop} [Decidable c] {e : BridgeError} {f : Unit → Act BridgeError α}
    (he : e ≠ Session.recursion) (hf : (f ()).Admitted) :
    (if c then Act.fail e >>= f else f ()).Admitted := by
  split
  · exact .of_avoids (.fail_bind he)
  · exact hf

end Act.Admitted

namespace Session

variable {engine : Engine}

theorem admitted_after_ready {α : Type} {f : Unit → Act BridgeError α} (hf : (f ()).Admitted) :
    (ensureReady >>= f).Admitted :=
  .bind (fun _ hb => hb.of_obeys (lenient_ensureReady (Regime.lenient_at _ _)))
    (.of_avoids (avoids_ensureReady unrelated_recursion)) fun _ => hf

/-- A source text that can be run is not refused, whatever the interpreter does with it. -/
theorem admitted_execute (engine : Engine) (code : String) (range : Option (Int64 × Int64)) :
    (execute engine code range).Admitted := by
  refine admitted_after_ready fun b b' hb => ?_
  have hgiven : ({ b with range := linesFor b range } : Bridge).Open :=
    ⟨⟨hb.ordinary.scripted, hb.ordinary.objects⟩, hb.free⟩
  simp only [bind_apply, get_apply, modify_apply]
  cases hinside : (inside (engine.run code) : Act BridgeError _)
      { b with range := linesFor b range } with
  | ok r b₁ =>
    have hflush : Proxy.flush.Avoids recursion := .of_unfailing Proxy.unfailing_flush
    obtain ⟨x, rfl⟩ | ⟨e, -, -, rfl, -⟩ := inside_of_open hgiven hinside
    · exact Act.Avoids.bind hflush (fun _ => .of_unfailing (.pure ())) _ b'
    · refine Act.Avoids.bind hflush (fun _ => ?_) _ b'
      exact .fail nofun
  | error stop b₁ =>
    cases stop with
    | error e => exact absurd hinside (unfailing_inside _ _ e b₁)
    | crash => nofun

theorem admitted_evaluate (engine : Engine) (code : String) :
    (evaluate engine code).Admitted := by
  refine admitted_after_ready fun b b' hb => ?_
  rw [bind_apply]
  cases hinside : (inside (evalAndConvert engine code) : Act BridgeError _) b with
  | ok r b₁ =>
    have hflush : Proxy.flush.Avoids recursion := .of_unfailing Proxy.unfailing_flush
    obtain ⟨x, rfl⟩ | ⟨e, b₀, b₂, rfl, he⟩ := inside_of_open hb hinside
    · refine Act.Avoids.bind hflush (fun _ => ?_) _ b'
      cases x <;> exact .of_unfailing (.pure _)
    · have hconverts : (evalAndConvert engine code).Avoids recursion :=
        .bind (.mapError nofun) fun _ => .mapError nofun
      refine Act.Avoids.bind hflush (fun _ => .fail ?_) _ b'
      rintro rfl
      exact hconverts _ _ he
  | error stop b₁ =>
    cases stop with
    | error e => exact absurd hinside (unfailing_inside _ _ e b₁)
    | crash => nofun

/-! ### Command lines -/

theorem avoids_lines (range : Option Command.LineRange) :
    (range.mapM resolve).Avoids recursion := by
  cases range with
  | none => exact .of_unfailing (.pure none)
  | some r => exact .bind (avoids_resolve r) fun _ => .of_unfailing (.pure _)

theorem admitted_runFile (engine : Engine) (path : String) (range : Option (Int64 × Int64)) :
    (runFile engine path range).Admitted := by
  have hstatement (e : BridgeError) (h : Command.fileStatement path = .error e) :
      e ≠ recursion := by
    rintro rfl
    unfold Command.fileStatement at h
    dsimp only at h
    split at h <;> cases h
  unfold runFile
  exact .guard nofun (.bind_stays .ofExcept (.ofExcept hstatement) fun code =>
    admitted_execute engine code range)

theorem admitted_runInput (engine : Engine) (input : Command.Input) :
    (runInput engine input).Admitted := by
  refine .bind_stays (stays_lines _) (avoids_lines _) fun range => ?_
  split
  · exact admitted_execute engine _ range
  · exact admitted_runFile engine _ range
  · exact .bind_avoids (admitted_evaluate engine _) fun _ => .bind avoids_demandEditor fun _ =>
      .bind (.of_unfailing .get) fun _ => .of_unfailing (.modify _)
  · exact .of_avoids (avoids_hostCommand _)

/-- No command line is refused where a call can enter. -/
theorem admitted_exCommand (engine : Engine) (text : String) :
    (exCommand engine text).Admitted := by
  have hparsed (e : BridgeError) (h : (Command.Line.parse text).mapError .parse = .error e) :
      e ≠ recursion := by
    rintro rfl
    cases hline : Command.Line.parse text <;> rw [hline] at h <;> cases h
  exact .bind_stays .ofExcept (.ofExcept hparsed) fun line => admitted_runInput engine _

end Session

end ScriptBridge
