import ScriptBridge.Proofs.Session.Lifecycle

/-!
# What a disabled session remembers

The first start decides: if it fails, its failure is what the session remembers, and nothing that is
called later changes this. A call may do other things before it needs the interpreter, as a command
script does, but none of them changes whether the start will fail, and why.
-/

namespace ScriptBridge

open Foreign (ObjRef Object)
open ScriptBridge.Computation

namespace Session

variable {ε δ α β : Type} {b b' : Bridge} {engine : Engine} {reason? : Option String}

/-! ### What a session remembers of a failure -/

/-- What decides whether the interpreter can be started, and what is remembered if it cannot. -/
def prospect (b : Bridge) : Script.Lifecycle × String × Bool × Loan :=
  (b.lifecycle, b.disabledReason, b.interpreter.failing, b.loan)

/-- A session that gives a reason if it is disabled, or if the next start disables it. -/
inductive Tells (reason? : Option String) (b : Bridge) : Prop where
  | waiting (hl : b.lifecycle = .uninitialized)
    (hreason : b.obstacle?.map BridgeError.reason = reason?)
  | disabled (hl : b.lifecycle = .disabled) (hreason : some b.disabledReason = reason?)
  | started (hl : b.lifecycle = .ready ∨ b.lifecycle = .finalized)

theorem Tells.of_prospect (h : Tells reason? b) (heq : prospect b' = prospect b) :
    Tells reason? b' := by
  obtain ⟨hlifecycle, hrest⟩ := Prod.mk.inj heq
  obtain ⟨hreason, hrest⟩ := Prod.mk.inj hrest
  obtain ⟨hfailing, hloan⟩ := Prod.mk.inj hrest
  cases h with
  | waiting hl h =>
    refine .waiting (hlifecycle.trans hl) ?_
    rw [Bridge.obstacle?, hfailing, hloan]
    exact h
  | disabled hl h => exact .disabled (hlifecycle.trans hl) (hreason ▸ h)
  | started hl => exact .started (hlifecycle ▸ hl)

/-- A computation after which the session gives the same reason. -/
def Faithful (a : Act ε α) : Prop := ∀ reason? (b : Bridge), b.Ordinary → Tells reason? b →
  (final (a b)).Ordinary ∧ Tells reason? (final (a b))

namespace Faithful

theorem of_prospect {a : Act ε α} (ha : a.Stays)
    (hkeeps : ∀ b : Bridge, b.Ordinary → prospect (final (a b)) = prospect b) : Faithful a :=
  fun _ b hb h => ⟨(ha b hb).ordinary, h.of_prospect (hkeeps b hb)⟩

theorem of_keeps {a : Act ε α} (ha : a.Stays) (hkeeps : a.Keeps prospect) : Faithful a :=
  .of_prospect ha fun b _ => hkeeps b

theorem pure {x : α} : Faithful (Pure.pure x : Act ε α) := .of_keeps .pure (.pure x)

theorem fail {e : ε} : Faithful (Act.fail e : Act ε α) := .of_keeps .fail (.fail e)

theorem get : Faithful (MonadState.get : Act ε Bridge) := .of_keeps .get .get

theorem bind {a : Act ε α} {f : α → Act ε β} (ha : Faithful a) (hf : ∀ x, Faithful (f x)) :
    Faithful (a >>= f) := by
  intro reason? b hb h
  have hfirst := ha reason? b hb h
  rw [bind_apply]
  cases hresult : a b with
  | ok x b' =>
    rw [hresult] at hfirst
    exact hf x reason? b' hfirst.1 hfirst.2
  | error stop b' =>
    rw [hresult] at hfirst
    exact hfirst

theorem guard {c : Prop} [Decidable c] {e : ε} {f : Unit → Act ε α} (hf : Faithful (f ())) :
    Faithful (if c then Act.fail e >>= f else f ()) := by
  split
  · exact .bind .fail fun _ => hf
  · exact hf

theorem attempt {a : Act ε α} (ha : Faithful a) :
    Faithful (Act.attempt a : Act δ (Except ε α)) := by
  intro reason? b hb h
  rw [final_attempt]
  exact ha reason? b hb h

end Faithful

/-! ### Calls are faithful -/

/-- An operation of the host does not reach into the session. -/
theorem keeps_host (a : Host.Eval α) : (Bridge.host a).Keeps prospect := by
  have hinvalidate (b : Bridge) (key : Host.Entity) : prospect (b.invalidate key) = prospect b := by
    unfold Bridge.invalidate
    split <;> rfl
  have hall (keys : List Host.Entity) (b : Bridge) :
      prospect (keys.foldl Bridge.invalidate b) = prospect b := by
    induction keys generalizing b with
    | nil => rfl
    | cons key rest ih => exact (ih _).trans (hinvalidate b key)
  intro b
  unfold Bridge.host
  cases a b.editor <;> exact hall _ _

theorem faithful_lines (range : Option Command.LineRange) : Faithful (range.mapM resolve) := by
  have hresolve (r : Command.LineRange) : (resolve r).Keeps prospect := by
    refine .bind .get fun b => .guard ?_
    split
    · exact .pure _
    · exact .fail _
  refine .of_keeps (stays_lines range) ?_
  cases range with
  | none => exact .pure _
  | some r =>
    have hlines : (resolve r >>= fun x => Pure.pure (some x)).Keeps prospect :=
      .bind (hresolve r) fun _ => .pure _
    exact hlines

theorem keeps_demandEditor : demandEditor.Keeps prospect := by
  refine .bind .get fun b => ?_
  split
  · exact .fail _
  · exact .pure _

theorem faithful_hostCommand (line : String) : Faithful (hostCommand line) :=
  .of_keeps (stays_hostCommand line)
    (.bind keeps_demandEditor fun _ => .bind .get fun _ => .mapError (keeps_host _) _)

theorem faithful_say (m : Host.Message) : Faithful (Bridge.say m : Act ε Unit) :=
  .of_keeps .say (.modify fun b => by split <;> rfl)

theorem faithful_probe : Faithful (probe : Act ε Bool) := by
  refine .of_prospect stays_probe fun b hb => congrArg prospect ?_
  unfold probe
  rw [bind_apply, get_apply]
  dsimp only
  cases b.lifecycle with
  | ready | disabled | finalized => rfl
  | uninitialized =>
    dsimp only
    rw [bind_apply]
    have hbind := bind_of_scripted hb.scripted
    by_cases hfailing : b.interpreter.failing = true
    · rw [attempt_of_error (hbind.trans (if_pos hfailing))]
      rfl
    · rw [attempt_of_ok (hbind.trans (if_neg hfailing))]
      rfl

/-- Nothing starts in a disabled session, and nothing changes. -/
theorem ensureReady_of_disabled (hl : b.lifecycle = .disabled) :
    ensureReady b = .error (.error (.disabled b.disabledReason)) b := by
  unfold ensureReady
  rw [bind_apply, get_apply]
  dsimp only
  rw [hl]
  rfl

/-- Nor in a session that was shut down. -/
theorem ensureReady_of_finalized (hl : b.lifecycle = .finalized) :
    ensureReady b = .error (.error .finalized) b := by
  unfold ensureReady
  rw [bind_apply, get_apply]
  dsimp only
  rw [hl]
  rfl

theorem ensureReady_of_uninitialized (hl : b.lifecycle = .uninitialized) :
    ensureReady b = start b := by
  unfold ensureReady
  rw [bind_apply, get_apply]
  dsimp only
  rw [hl]

theorem bind_of_error {a : Act ε α} {e : ε} (h : a b = .error (.error e) b') (f : α → Act ε β) :
    (a >>= f) b = .error (.error e) b' := by
  rw [bind_apply, h]

/-- Once a session is ready it is never disabled, so only the start itself can be what is
remembered. -/
theorem faithful_after_ready {f : Unit → Act BridgeError α} (hages : (ensureReady >>= f).Ages) :
    Faithful (ensureReady >>= f) := by
  intro reason? b hb h
  refine ⟨(hages b hb).ordinary, ?_⟩
  cases h with
  | started hl =>
    exact .started (hl.elim (hages b hb).ready fun hl => .inr ((hages b hb).finalized hl))
  | disabled hl hreason =>
    rw [bind_of_error (ensureReady_of_disabled hl)]
    exact .disabled hl hreason
  | waiting hl hreason =>
    have hstartup := startup hb hl
    rw [← ensureReady_of_uninitialized hl] at hstartup
    generalize hresult : ensureReady b = outcome at hstartup
    cases hstartup with
    | @ok b' hfree hready hages' =>
      -- The rest is the same as if the session had been ready before.
      have hrest := hages b' hages'.ordinary
      rw [bind_apply, ensureReady_of_ready hready] at hrest
      rw [bind_apply, hresult]
      exact .started (hrest.ready hready)
    | error hobstacle hdisabled htold =>
      rw [bind_of_error hresult]
      rw [hobstacle] at hreason
      exact .disabled hdisabled (htold ▸ hreason)

theorem faithful_shutdown : Faithful (shutdown : Act ε Unit) := by
  intro reason? b hb h
  refine ⟨(ages_shutdown b hb).ordinary, ?_⟩
  obtain ⟨b', hb', hshutdown⟩ := shutdown_spec (ε := ε) hb
  rw [hb']
  cases hshutdown with
  | disabled => exact h
  | idle => exact .started (.inr rfl)
  | running _ hfinalized => exact .started (.inr hfinalized)

section

variable (h : ∀ b, (Regime.since b).Serves engine)

include h

theorem faithful_execute (code : String) (range : Option (Int64 × Int64)) :
    Faithful (execute engine code range) :=
  faithful_after_ready (Regime.Obeys.ages fun b => (h b).execute code range)

theorem faithful_evaluate (code : String) : Faithful (evaluate engine code) :=
  faithful_after_ready (Regime.Obeys.ages fun b => (h b).evaluate code)

omit h in
theorem faithful_ofExcept (x : Except ε α) : Faithful (Act.ofExcept x) := by
  cases x with
  | ok y => exact .pure
  | error e => exact .fail

theorem faithful_runFile (path : String) (range : Option (Int64 × Int64)) :
    Faithful (runFile engine path range) := by
  unfold runFile
  exact .guard (.bind (faithful_ofExcept _) fun code => faithful_execute h code range)

theorem faithful_runInput (input : Command.Input) : Faithful (runInput engine input) := by
  refine .bind (faithful_lines _) fun range => ?_
  split
  · exact faithful_execute h _ range
  · exact faithful_runFile h _ range
  · exact .bind (faithful_evaluate h _) fun _ =>
      .bind (.of_keeps stays_demandEditor keeps_demandEditor) fun _ =>
      .bind .get fun _ => faithful_say _
  · exact faithful_hostCommand _

theorem faithful_exCommand (text : String) : Faithful (exCommand engine text) :=
  .bind (faithful_ofExcept _) fun _ => faithful_runInput h _

theorem faithful_runRead (input : Except ParseError (Option Command.Input)) :
    Faithful (runRead engine input : Act ε Nat) := by
  refine .bind (.attempt ?_) fun outcome => ?_
  · split
    · exact faithful_runInput h _
    · exact .pure
    · exact .fail
  · cases outcome with
    | ok _ => exact .pure
    | error e =>
      refine .bind ?_ fun _ => .pure
      unfold report
      split
      · exact .pure
      · exact faithful_say _

theorem faithful_sourceLines (reader : Command.Reader) (lines : List String) :
    Faithful (sourceLines engine reader lines : Act ε Nat) := by
  induction lines generalizing reader with
  | nil => exact faithful_runRead h _
  | cons line rest ih =>
    exact .bind (faithful_runRead h _) fun _ => .bind (ih _) fun _ => .pure

theorem faithful_performSession (a : Script.SessionAction) :
    Faithful (Script.performSession engine a) := by
  cases a with
  | execute code range => exact .bind (faithful_execute h code range) fun _ => .pure
  | evaluate code => exact .bind (faithful_evaluate h code) fun _ => .pure
  | command line => exact .bind (faithful_exCommand h line) fun _ => .pure
  | source text => exact .bind (faithful_sourceLines h none _) fun _ => .pure
  | runFile path range => exact .bind (faithful_runFile h path range) fun _ => .pure
  | ensureReady =>
    exact faithful_after_ready (.bind ages_ensureReady fun _ => .of_stays .pure)
  | probe => exact .bind faithful_probe fun _ => .pure
  | lifecycle | mode | liveProxies => exact .bind .get fun _ => .pure
  | shutdown => exact .bind faithful_shutdown fun _ => .pure
  | sameEditor => exact .pure

end

end Session

end ScriptBridge
