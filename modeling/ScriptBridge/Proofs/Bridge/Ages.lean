import ScriptBridge.Proofs.Bridge.Stays

/-!
# Starts and stops

A session has at most one start and one stop in front of it, and fewer at the later stages of its
life. The log of the interpreter lock shows both: a start gives away the lock that the interpreter
has from the first, and a stop takes the lock for good. Whatever runs, scripts and their calls
included, the starts and stops that it adds to the log are taken from those that are left.
-/

namespace ScriptBridge

open Script (Lifecycle)
open ScriptBridge.Computation

/-! ### Stages of life -/

namespace Script.Lifecycle

/-- One stage of life comes after another one. -/
inductive Moves : Lifecycle → Lifecycle → Prop where
  | start : Moves .uninitialized .ready
  | disable : Moves .uninitialized .disabled
  /-- A session can be shut down without ever having been started. -/
  | skip : Moves .uninitialized .finalized
  | stop : Moves .ready .finalized

theorem Moves.trans {l l' l'' : Lifecycle} (h : l.Moves l') (h' : l'.Moves l'') : l.Moves l'' := by
  cases h <;> cases h'
  exact .skip

/-- How many starts are left. -/
def starts : Lifecycle → Nat
  | .uninitialized => 1
  | .ready | .disabled | .finalized => 0

/-- How many stops are left. -/
def stops : Lifecycle → Nat
  | .uninitialized | .ready => 1
  | .disabled | .finalized => 0

/-- Nothing is won back. -/
theorem Moves.left {l l' : Lifecycle} (h : l.Moves l') :
    l'.starts ≤ l.starts ∧ l'.stops ≤ l.stops := by
  cases h <;> decide

end Script.Lifecycle

/-- Whether an operation takes the interpreter lock. -/
def LockEvent.takes : LockEvent → Bool
  | .acquire _ => true
  | .release _ | .initialRelease => false

/-- Whether an operation gives the lock back that an entry has taken. -/
def LockEvent.gives : LockEvent → Bool
  | .release _ => true
  | .acquire _ | .initialRelease => false

/-- A session grows older. -/
structure Bridge.Ages (b b' : Bridge) : Prop where
  ordinary : b'.Ordinary
  lifecycle : b'.lifecycle = b.lifecycle ∨ b.lifecycle.Moves b'.lifecycle
  /-- The log of the lock goes on. The starts and the stops that it shows are among those that were
  left. -/
  locks : ∃ new stops, b'.handoff.locks = b.handoff.locks ++ new ∧
    new.count .initialRelease + b'.lifecycle.starts ≤ b.lifecycle.starts ∧
    new.countP LockEvent.takes = new.countP LockEvent.gives + stops ∧
    stops + b'.lifecycle.stops ≤ b.lifecycle.stops

namespace Bridge.Ages

variable {b b' b'' : Bridge}

/-- At the same stage of life, with the same log. -/
theorem of_eq (hb' : b'.Ordinary) (hlifecycle : b'.lifecycle = b.lifecycle)
    (hlocks : b'.handoff.locks = b.handoff.locks) : b.Ages b' := by
  refine ⟨hb', .inl hlifecycle, [], 0, by rw [hlocks, List.append_nil], ?_, rfl, ?_⟩
  · exact Nat.le_of_eq (by rw [hlifecycle, List.count_nil, Nat.zero_add])
  · exact Nat.le_of_eq (by rw [hlifecycle, Nat.zero_add])

/-- At another stage of life, with the same log. -/
theorem of_moves (hb' : b'.Ordinary) (hmoves : b.lifecycle.Moves b'.lifecycle)
    (hlocks : b'.handoff.locks = b.handoff.locks) : b.Ages b' := by
  obtain ⟨hstarts, hstops⟩ := hmoves.left
  refine ⟨hb', .inr hmoves, [], 0, by rw [hlocks, List.append_nil], ?_, rfl, ?_⟩
  · rw [List.count_nil, Nat.zero_add]
    exact hstarts
  · rw [Nat.zero_add]
    exact hstops

theorem of_stays (h : b.Stays b') : b.Ages b' :=
  .of_eq h.ordinary h.lifecycle (congrArg Handoff.locks h.handoff)

theorem refl (hb : b.Ordinary) : b.Ages b := .of_eq hb rfl rfl

theorem trans (h : b.Ages b') (h' : b'.Ages b'') : b.Ages b'' := by
  obtain ⟨new, stops, hlocks, hstarts, hbalance, hstops⟩ := h.locks
  obtain ⟨new', stops', hlocks', hstarts', hbalance', hstops'⟩ := h'.locks
  refine ⟨h'.ordinary, ?_, new ++ new', stops + stops', ?_, ?_, ?_, ?_⟩
  · obtain heq | hmoves := h.lifecycle
    · exact heq ▸ h'.lifecycle
    · exact h'.lifecycle.elim (fun heq => .inr (heq ▸ hmoves)) fun h' => .inr (hmoves.trans h')
  · rw [hlocks', hlocks, List.append_assoc]
  · rw [List.count_append]
    omega
  · rw [List.countP_append, List.countP_append]
    omega
  · omega

/-- Inside an entry that takes the lock and gives it back. -/
theorem entry {inner inner' : Bridge} {mode mode' : HandoffMode} (h : inner.Ages inner')
    (hentered : inner.lifecycle = b.lifecycle)
    (htaken : inner.handoff.locks = b.handoff.locks ++ [.acquire mode])
    (hb' : b'.Ordinary) (hleft : b'.lifecycle = inner'.lifecycle)
    (hgiven : b'.handoff.locks = inner'.handoff.locks ++ [.release mode']) : b.Ages b' := by
  obtain ⟨new, stops, hlocks, hstarts, hbalance, hstops⟩ := h.locks
  refine ⟨hb', ?_, .acquire mode :: (new ++ [.release mode']), stops, ?_, ?_, ?_, ?_⟩
  · rw [hleft, ← hentered]
    exact h.lifecycle
  · rw [hgiven, hlocks, htaken]
    simp
  · rw [hleft, ← hentered]
    simpa using hstarts
  · simp only [List.countP_cons, List.countP_append, List.countP_nil, LockEvent.takes,
      LockEvent.gives, hbalance]
    simp
    omega
  · rw [hleft, ← hentered]
    exact hstops

/-- A disabled session stays disabled. -/
theorem disabled (h : b.Ages b') (hb : b.lifecycle = .disabled) : b'.lifecycle = .disabled := by
  obtain heq | hmoves := h.lifecycle
  · exact heq.trans hb
  · rw [hb] at hmoves
    cases hmoves

/-- A session that was shut down stays so. -/
theorem finalized (h : b.Ages b') (hb : b.lifecycle = .finalized) : b'.lifecycle = .finalized := by
  obtain heq | hmoves := h.lifecycle
  · exact heq.trans hb
  · rw [hb] at hmoves
    cases hmoves

/-- A session that was started is not disabled any more. -/
theorem ready (h : b.Ages b') (hb : b.lifecycle = .ready) :
    b'.lifecycle = .ready ∨ b'.lifecycle = .finalized := by
  obtain heq | hmoves := h.lifecycle
  · exact .inl (heq.trans hb)
  · rw [hb] at hmoves
    generalize b'.lifecycle = l at hmoves ⊢
    cases hmoves
    exact .inr rfl

end Bridge.Ages

/-- A computation in which a session only grows older. -/
def Act.Ages {ε α : Type} (a : Act ε α) : Prop := ∀ b : Bridge, b.Ordinary → b.Ages (final (a b))

namespace Act.Ages

variable {ε δ α β : Type}

theorem of_stays {a : Act ε α} (ha : a.Stays) : a.Ages := fun b hb => .of_stays (ha b hb)

theorem modify {f : Bridge → Bridge} (hf : ∀ b : Bridge, b.Ordinary → b.Ages (f b)) :
    (modify f : Act ε PUnit).Ages := hf

theorem bind {a : Act ε α} {f : α → Act ε β} (ha : a.Ages) (hf : ∀ x, (f x).Ages) :
    (a >>= f).Ages := by
  intro b hb
  have hfirst := ha b hb
  rw [bind_apply]
  cases h : a b with
  | ok x b' =>
    rw [h] at hfirst
    exact hfirst.trans (hf x b' hfirst.ordinary)
  | error e b' =>
    rw [h] at hfirst
    exact hfirst

/-- A computation that starts by reading the bridge. -/
theorem bind_get {f : Bridge → Act ε α}
    (hf : ∀ b : Bridge, b.Ordinary → b.Ages (final (f b b))) : (MonadState.get >>= f).Ages := hf

theorem mapError {a : Act ε α} {f : ε → δ} (ha : a.Ages) : (a.mapError f).Ages := by
  intro b hb
  rw [final_mapError]
  exact ha b hb

end Act.Ages

end ScriptBridge
