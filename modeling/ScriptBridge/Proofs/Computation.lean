/-!
# Stateful computations, applied

The result of each basic step of a computation with a state and a failure, when it is run in a
state. A failed step hands on the state in which it failed.
-/

namespace ScriptBridge.Computation

variable {ε σ α β : Type}

theorem pure_apply (x : α) (s : σ) : (pure x : EStateM ε σ α) s = .ok x s := rfl

theorem get_apply (s : σ) : (get : EStateM ε σ σ) s = .ok s s := rfl

theorem modify_apply (f : σ → σ) (s : σ) :
    (modify f : EStateM ε σ PUnit) s = .ok ⟨⟩ (f s) := rfl

theorem modifyGet_apply (f : σ → α × σ) (s : σ) :
    (modifyGet f : EStateM ε σ α) s = .ok (f s).1 (f s).2 := rfl

theorem throw_apply (e : ε) (s : σ) : (throw e : EStateM ε σ α) s = .error e s := rfl

theorem bind_apply (a : EStateM ε σ α) (f : α → EStateM ε σ β) (s : σ) :
    (a >>= f) s = match a s with | .ok x t => f x t | .error e t => .error e t := rfl

/-- A computation that has succeeded has gone through its first part. -/
theorem bind_ok {a : EStateM ε σ α} {f : α → EStateM ε σ β} {s t : σ} {y : β}
    (h : (a >>= f) s = .ok y t) : ∃ x s', a s = .ok x s' ∧ f x s' = .ok y t := by
  rw [bind_apply] at h
  cases ha : a s with
  | ok x s' =>
    rw [ha] at h
    exact ⟨x, s', rfl, h⟩
  | error e s' =>
    rw [ha] at h
    cases h

/-- The state in which a computation ends, whether it succeeds or fails. -/
def final : EStateM.Result ε σ α → σ
  | .ok _ s => s
  | .error _ s => s

@[simp] theorem final_ok (x : α) (s : σ) : final (.ok x s : EStateM.Result ε σ α) = s := rfl

@[simp] theorem final_error (e : ε) (s : σ) : final (.error e s : EStateM.Result ε σ α) = s := rfl

/-- An outcome with its state replaced by another one. -/
def onState {τ : Type} (f : σ → τ) : EStateM.Result ε σ α → EStateM.Result ε τ α
  | .ok x s => .ok x (f s)
  | .error e s => .error e (f s)

@[simp] theorem final_onState {τ : Type} (f : σ → τ) (r : EStateM.Result ε σ α) :
    final (onState f r) = f (final r) := by
  cases r <;> rfl

/-- What holds of doing nothing, and of one step after another if it holds of both, holds of a
sequence if it holds for each item. -/
theorem of_mapM {P : {β : Type} → EStateM ε σ β → Prop} {γ : Type} {f : γ → EStateM ε σ α}
    (hpure : ∀ {β : Type} (x : β), P (pure x : EStateM ε σ β))
    (hbind : ∀ {β δ : Type} {a : EStateM ε σ β} {g : β → EStateM ε σ δ}, P a → (∀ x, P (g x)) →
      P (a >>= g))
    (hf : ∀ x, P (f x)) (xs : List γ) : P (xs.mapM f) := by
  induction xs with
  | nil =>
    rw [List.mapM_nil]
    exact hpure _
  | cons x xs ih =>
    rw [List.mapM_cons]
    exact hbind (hf x) fun _ => hbind ih fun _ => hpure _

/-- A computation that fails in a state. -/
def Stops (a : EStateM ε σ α) (s : σ) : Prop := ∃ e t, a s = .error e t

namespace Stops

variable {a : EStateM ε σ α} {f : α → EStateM ε σ β} {s t : σ}

theorem throw {e : ε} : Stops (MonadExcept.throw e : EStateM ε σ α) s := ⟨e, s, rfl⟩

theorem not_pure {x : α} : ¬Stops (Pure.pure x : EStateM ε σ α) s := by
  rintro ⟨e, t, h⟩
  cases h

/-- What comes next does not happen. -/
theorem bind (ha : Stops a s) : Stops (a >>= f) s := by
  obtain ⟨e, t, h⟩ := ha
  exact ⟨e, t, by rw [bind_apply, h]⟩

/-- What comes first succeeds. -/
theorem next {x : α} (ha : a s = .ok x t) (hf : Stops (f x) t) : Stops (a >>= f) s := by
  obtain ⟨e, u, h⟩ := hf
  exact ⟨e, u, by rw [bind_apply, ha]; exact h⟩

/-- What comes first changes nothing. -/
theorem after (ha : final (a s) = s) (hf : ∀ x, Stops (f x) s) : Stops (a >>= f) s := by
  cases h : a s with
  | ok x t =>
    rw [h] at ha
    subst ha
    exact .next h (hf x)
  | error e t => exact .bind ⟨e, t, h⟩

/-- A sequence fails in its first part or after it. -/
theorem cases (h : Stops (a >>= f) s) : Stops a s ∨ ∃ x t, a s = .ok x t ∧ Stops (f x) t := by
  obtain ⟨e, u, h⟩ := h
  rw [bind_apply] at h
  cases ha : a s with
  | ok x t =>
    rw [ha] at h
    exact .inr ⟨x, t, rfl, e, u, h⟩
  | error e' t => exact .inl ⟨e', t, ha⟩

end Stops

end ScriptBridge.Computation
