import ScriptBridge.Bridge.Command
import ScriptBridge.Proofs.Script.Stays

/-!
# What is kept while scripts run

A regime names what is kept while statements run, whatever they do, and what is kept as long as none
of them breaks down. A breakdown inside a script is a statement's outcome like any other, so it is
found in the log of the script. Whether source texts keep to a regime is a parameter here; everything
that runs them does then.
-/

namespace ScriptBridge

open Foreign (ObjRef Object)
open Script (Answer Outcome Entry ScriptLog Produced Failure)
open ScriptBridge.Computation

/-! ### Logs without breakdowns -/

namespace Script

mutual

/-- Whether no statement of an answer broke down. -/
def Answer.unbroken : Answer → Bool
  | .entries es => unbrokenEntries es
  | _ => true

/-- Whether a statement ended without a breakdown, of its own or of statements in its answer. -/
def Outcome.unbroken : Outcome → Bool
  | .answer a => a.unbroken
  | .failure _ | .absentKey .. => true
  | .crash => false

/-- Whether neither a statement nor one that ran under it broke down. -/
def Entry.unbroken : Entry → Bool
  | .mk outcome scripts => outcome.unbroken && unbrokenLogs scripts

/-- Whether no statement of a list broke down. -/
def unbrokenEntries : List Entry → Bool
  | [] => true
  | e :: rest => e.unbroken && unbrokenEntries rest

/-- Whether no statement of a script broke down. -/
def ScriptLog.unbroken : ScriptLog → Bool
  | .mk _ entries => unbrokenEntries entries

/-- Whether no statement of any script broke down. -/
def unbrokenLogs : List ScriptLog → Bool
  | [] => true
  | log :: rest => log.unbroken && unbrokenLogs rest

end

theorem unbrokenLogs_append (xs ys : List ScriptLog) :
    unbrokenLogs (xs ++ ys) = (unbrokenLogs xs && unbrokenLogs ys) := by
  induction xs with
  | nil => simp [unbrokenLogs]
  | cons log rest ih => simp [unbrokenLogs, ih, Bool.and_assoc]

theorem unbroken_of_cons {e : Entry} {rest : List Entry}
    (h : unbrokenEntries (e :: rest) = true) :
    e.unbroken = true ∧ unbrokenEntries rest = true := by
  rwa [unbrokenEntries, Bool.and_eq_true] at h

/-- Whether what a statement produces is no answer with a breakdown. -/
def Produced.unbroken : Produced → Bool
  | .object _ | .value _ => true
  | .shown _ a | .answer a => a.unbroken

theorem Produced.unbroken_of_toAnswer {b : Bridge} {p : Produced}
    (h : (p.toAnswer b).unbroken = true) : p.unbroken = true := by
  cases p with
  | object r | value v => rfl
  | shown v a | answer a => exact h

mutual

/-- Whether a statement runs source texts only through the session, which it does not shut down. -/
def Action.regular : Action → Bool
  | .runtime (.run _) | .runtime (.eval _) | .session .shutdown => false
  | .lend _ body => regularSteps body
  | .started a | .saved _ _ a => a.regular
  | _ => true

/-- Whether a statement with its modifiers does. -/
def Step.regular : Step → Bool
  | .mk action _ _ _ => action.regular

/-- Whether several statements do. -/
def regularSteps : List Step → Bool
  | [] => true
  | s :: rest => s.regular && regularSteps rest

end

/-- Whether a script does. -/
def Content.regular : Content → Bool
  | .body steps => regularSteps steps
  | .value _ => true

end Script

/-! ### Regimes -/

/-- What is kept while scripts run. -/
structure Regime where
  /-- What is kept however a computation ends. -/
  always : Bridge → Prop
  /-- What is kept unless a statement breaks down. -/
  calm : Bridge → Prop
  /-- Whether scripts may run source texts past the session, and shut it down. -/
  free : Prop
  ordinary : ∀ {b}, always b → b.Ordinary
  stays : ∀ {b b'}, always b → b.Stays b' → always b'
  stays_calm : ∀ {b b'}, calm b → b.Stays b' → calm b'
  /-- The logs, and what is in use, do not matter. -/
  relogged : ∀ {b logs held}, always b → always { b with logs, held }
  relogged_calm : ∀ {b logs held}, calm b → calm { b with logs, held }

namespace Regime

variable {R : Regime} {ε δ α β γ : Type} {good : α → Prop} {b b' : Bridge}

/-- A computation returned, with a result of which something holds, and no statement of the scripts
that ran in it broke down. -/
def Unbroken (good : α → Prop) (new : List ScriptLog) :
    EStateM.Result (Stop ε) Bridge α → Prop
  | .ok x _ => good x ∧ Script.unbrokenLogs new = true
  | .error (.error _) _ => Script.unbrokenLogs new = true
  | .error .crash _ => False

theorem Unbroken.logs {new : List ScriptLog} {outcome : EStateM.Result (Stop ε) Bridge α}
    (h : Unbroken good new outcome) : Script.unbrokenLogs new = true := by
  cases outcome with
  | ok x b => exact h.2
  | error stop b =>
    cases stop with
    | error e => exact h
    | crash => exact h.elim

theorem Unbroken.of_append {new new' : List ScriptLog}
    {outcome : EStateM.Result (Stop ε) Bridge α} (h : Unbroken good (new ++ new') outcome) :
    Script.unbrokenLogs new = true ∧ Unbroken good new' outcome := by
  have hlogs := h.logs
  rw [Script.unbrokenLogs_append, Bool.and_eq_true] at hlogs
  refine ⟨hlogs.1, ?_⟩
  cases outcome with
  | ok x b => exact ⟨h.1, hlogs.2⟩
  | error stop b =>
    cases stop with
    | error e => exact hlogs.2
    | crash => exact h

/-- An outcome that a bridge reaches within a regime. -/
structure Reaches (R : Regime) (b : Bridge) (outcome : EStateM.Result (Stop ε) Bridge α)
    (good : α → Prop := fun _ => True) : Prop where
  always : R.always (final outcome)
  /-- Scripts that ran were noted. -/
  logs : ∃ new, (final outcome).logs = b.logs ++ new ∧
    (R.calm b → Unbroken good new outcome → R.calm (final outcome))

/-- A computation that keeps to a regime. -/
def Obeys (R : Regime) (a : Act ε α) (good : α → Prop := fun _ => True) : Prop :=
  ∀ b, R.always b → R.Reaches b (a b) good

/-! ### Outcomes -/

/-- An outcome within the frame. -/
theorem Reaches.of_stays {outcome : EStateM.Result (Stop ε) Bridge α} (hb : R.always b)
    (h : b.Stays (final outcome)) : R.Reaches b outcome good :=
  ⟨R.stays hb h, [], by rw [h.logs, List.append_nil], fun hcalm _ => R.stays_calm hcalm h⟩

namespace Obeys

/-! ### Sequences -/

theorem of_stays {a : Act ε α} (ha : a.Stays) : R.Obeys a good :=
  fun b hb => .of_stays hb (ha b (R.ordinary hb))

theorem pure {x : α} : R.Obeys (Pure.pure x : Act ε α) good := .of_stays .pure

theorem fail {e : ε} : R.Obeys (Act.fail e : Act ε α) good := .of_stays .fail

theorem get : R.Obeys (MonadState.get : Act ε Bridge) := .of_stays .get

theorem crash : R.Obeys (Act.crash : Act ε α) good := .of_stays .crash

/-- One computation after another one. That the second one is unbroken has to tell what holds of the
result of the first one. -/
theorem followed {a : Act ε α} {f : α → Act ε β} {first : α → Prop} {good : β → Prop}
    (ha : R.Obeys a first) (hf : ∀ x, R.Obeys (f x) good)
    (hfirst : ∀ x b new, Unbroken good new (f x b) → first x) : R.Obeys (a >>= f) good := by
  intro b hb
  have hreaches := ha b hb
  rw [bind_apply]
  generalize a b = outcome at hreaches
  obtain ⟨halways, new, hlogs, hcalm⟩ := hreaches
  cases outcome with
  | ok x b' =>
    obtain ⟨halways', new', hlogs', hcalm'⟩ := hf x b' halways
    refine ⟨halways', new ++ new', ?_, fun hb hunbroken => ?_⟩
    · rw [hlogs', ← List.append_assoc]
      exact congrArg (· ++ new') hlogs
    · have hunbroken : Unbroken good (new ++ new') (f x b') := hunbroken
      obtain ⟨hnew, hrest⟩ := hunbroken.of_append
      exact hcalm' (hcalm hb ⟨hfirst x b' new' hrest, hnew⟩) hrest
  | error stop b' =>
    refine ⟨halways, new, hlogs, fun hb hunbroken => hcalm hb ?_⟩
    cases stop with
    | error e => exact hunbroken
    | crash => exact hunbroken.elim

theorem bind {a : Act ε α} {f : α → Act ε β} {good : β → Prop} (ha : R.Obeys a)
    (hf : ∀ x, R.Obeys (f x) good) : R.Obeys (a >>= f) good :=
  .followed ha hf fun _ _ _ _ => trivial

/-- A computation that starts by reading the bridge. -/
theorem bind_get {f : Bridge → Act ε α} (hf : ∀ b, R.always b → R.Reaches b (f b b) good) :
    R.Obeys (MonadState.get >>= f) good := hf

/-- A computation that starts by reading an object. -/
theorem bind_object {r : ObjRef} {f : Object → Act ε α}
    (hf : ∀ b, R.always b → R.Reaches b (f (b.objects.get r) b) good) :
    R.Obeys (Bridge.object r >>= f) good := hf

/-- The interpreter is the scripted one. -/
theorem bind_kind {f : Foreign.InterpreterKind → Act ε α} (hf : R.Obeys (f .scripted) good) :
    R.Obeys (Script.kind >>= f) good := by
  intro b hb
  have hreaches := hf b hb
  rw [← (R.ordinary hb).scripted] at hreaches
  exact hreaches

/-- A check in front of a computation. -/
theorem guard {c : Prop} [Decidable c] {e : ε} {f : Unit → Act ε α} (hf : R.Obeys (f ()) good) :
    R.Obeys (if c then Act.fail e >>= f else f ()) good := by
  split
  · exact .of_stays .fail_bind
  · exact hf

theorem mapError {a : Act ε α} {f : ε → δ} (ha : R.Obeys a good) :
    R.Obeys (a.mapError f) good := by
  intro b hb
  obtain ⟨halways, new, hlogs, hcalm⟩ := ha b hb
  unfold Act.mapError
  generalize a b = outcome at halways hlogs hcalm
  cases outcome with
  | ok x b' => exact ⟨halways, new, hlogs, hcalm⟩
  | error stop b' => cases stop <;> exact ⟨halways, new, hlogs, hcalm⟩

theorem attempt {a : Act ε α} (ha : R.Obeys a) :
    R.Obeys (Act.attempt a : Act δ (Except ε α)) := by
  intro b hb
  obtain ⟨halways, new, hlogs, hcalm⟩ := ha b hb
  unfold Act.attempt
  generalize a b = outcome at halways hlogs hcalm
  cases outcome with
  | ok x b' => exact ⟨halways, new, hlogs, hcalm⟩
  | error stop b' =>
    cases stop with
    | error e => exact ⟨halways, new, hlogs, fun hb hunbroken => hcalm hb hunbroken.2⟩
    | crash => exact ⟨halways, new, hlogs, hcalm⟩

/-- Of what a computation used only a part stays in use. -/
theorem confine {a : Act ε α} {kept : α → List ObjRef} (ha : R.Obeys a good) :
    R.Obeys (Bridge.confine kept a) good := by
  intro b hb
  obtain ⟨halways, new, hlogs, hcalm⟩ := ha b hb
  unfold Bridge.confine
  generalize a b = outcome at halways hlogs hcalm
  cases outcome with
  | ok x b' =>
    exact ⟨R.relogged halways, new, hlogs, fun hb h => R.relogged_calm (hcalm hb h)⟩
  | error stop b' =>
    refine ⟨R.relogged halways, new, hlogs, fun hb h => R.relogged_calm (hcalm hb ?_)⟩
    cases stop with
    | error e => exact h
    | crash => exact h.elim

end Obeys

end Regime

/-! ### Computations without failures -/

/-- A computation that does not fail, though it may break down. -/
def Act.Unfailing {ε α : Type} (a : Act ε α) : Prop := ∀ b e b', a b ≠ .error (.error e) b'

namespace Act.Unfailing

variable {ε α β : Type}

theorem pure (x : α) : (Pure.pure x : Act ε α).Unfailing := fun _ _ _ => nofun

theorem get : (MonadState.get : Act ε Bridge).Unfailing := fun _ _ _ => nofun

theorem modify (f : Bridge → Bridge) : (modify f : Act ε PUnit).Unfailing := fun _ _ _ => nofun

theorem set (b : Bridge) : (set b : Act ε PUnit).Unfailing := fun _ _ _ => nofun

theorem bind {a : Act ε α} {f : α → Act ε β} (ha : a.Unfailing) (hf : ∀ x, (f x).Unfailing) :
    (a >>= f).Unfailing := by
  intro b e b'
  rw [bind_apply]
  cases h : a b with
  | ok x b₁ => exact hf x b₁ e b'
  | error stop b₁ =>
    rintro heq
    cases heq
    exact ha b e b' h

/-- A loop without results. -/
theorem forIn {γ : Type} {xs : List γ} {f : γ → PUnit → Act ε (ForInStep PUnit)}
    (hf : ∀ x, (f x ⟨⟩).Unfailing) : (ForIn.forIn xs PUnit.unit f).Unfailing := by
  induction xs with
  | nil =>
    rw [List.forIn_nil]
    exact .pure _
  | cons x xs ih =>
    rw [List.forIn_cons]
    refine .bind (hf x) fun step => ?_
    cases step with
    | done _ => exact .pure _
    | yield _ => exact ih

end Act.Unfailing

/-- A computation that cannot fail has returned a result if nothing broke down. -/
theorem Regime.Unbroken.result {ε α : Type} {a : Act ε α} (ha : a.Unfailing) {good : α → Prop}
    {new : List ScriptLog} {b : Bridge} (h : Unbroken good new (a b)) :
    ∃ x b', a b = .ok x b' ∧ good x := by
  cases hresult : a b with
  | ok x b' =>
    rw [hresult] at h
    exact ⟨x, b', rfl, h.1⟩
  | error stop b' =>
    cases stop with
    | error e => exact absurd hresult (ha b e b')
    | crash =>
      rw [hresult] at h
      exact h.elim

/-- The same for a computation whose result is made from that of another one. -/
theorem Regime.Unbroken.exists_result {ε α β : Type} {a : Act ε α} (ha : a.Unfailing) {f : α → β}
    {good : β → Prop} {new : List ScriptLog} {b : Bridge}
    (h : Unbroken good new ((a >>= fun x => pure (f x)) b)) : ∃ x, good (f x) := by
  obtain ⟨y, b', hy, hgood⟩ := h.result (.bind ha fun _ => .pure _)
  rw [bind_apply] at hy
  cases hfirst : a b with
  | ok x b₁ =>
    rw [hfirst] at hy
    cases hy
    exact ⟨x, hgood⟩
  | error stop b₁ =>
    rw [hfirst] at hy
    cases hy

end ScriptBridge
