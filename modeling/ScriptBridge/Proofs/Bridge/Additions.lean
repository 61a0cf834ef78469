import ScriptBridge.Proofs.Bridge.Mild
import ScriptBridge.Proofs.Bridge.Move
import ScriptBridge.Proofs.Convert.Copying
import ScriptBridge.Proofs.Convert.Strict

/-!
# What computations add

A mild computation may make objects and containers. It changes none of those that were there
before, and nothing else. This holds for both kinds of interpreters, and however the computation
ends.
-/

namespace ScriptBridge

open Foreign (ObjRef Object)
open ScriptBridge.Computation

/-- New objects and new containers are there, and objects may be in use. All else is as before. -/
structure Bridge.Adds (b b' : Bridge) : Prop where
  eq : b' = { b with
    objects := b'.objects, held := b'.held, editor := { b.editor with store := b'.editor.store } }
  objects : b.objects.Extends b'.objects
  ends : b'.objects.ends = b.objects.ends
  store : b.editor.store.Grown b'.editor.store

namespace Bridge.Adds

variable {b b' b'' : Bridge}

theorem refl : b.Adds b := ⟨rfl, ⟨Nat.le_refl _, fun _ _ => rfl⟩, rfl, .refl⟩

theorem trans (h : b.Adds b') (h' : b'.Adds b'') : b.Adds b'' := by
  refine ⟨?_, h.objects.trans h'.objects, h'.ends.trans h.ends, h.store.trans h'.store⟩
  have heq := h'.eq
  rw [h.eq] at heq
  exact heq

theorem withNew (x : Object) : b.Adds (b.withNew x) :=
  ⟨rfl, (b.grown_withNew x).objects, rfl, .refl⟩

theorem inUse (held : List ObjRef) : b.Adds { b with held } :=
  ⟨rfl, ⟨Nat.le_refl _, fun _ _ => rfl⟩, rfl, .refl⟩

/-- More containers are there. -/
theorem of_store {s : Host.Store} (h : b.editor.store.Grown s) :
    b.Adds { b with editor := { b.editor with store := s } } :=
  ⟨rfl, ⟨Nat.le_refl _, fun _ _ => rfl⟩, rfl, h⟩

theorem handoff (h : b.Adds b') : b'.handoff = b.handoff := by rw [h.eq]

theorem loan (h : b.Adds b') : b'.loan = b.loan := by rw [h.eq]

theorem attached (h : b.Adds b') : b'.attached = b.attached := by rw [h.eq]

theorem functions (h : b.Adds b') : b'.functions = b.functions := by rw [h.eq]

theorem interpreter (h : b.Adds b') : b'.interpreter = b.interpreter := by rw [h.eq]

/-- The editor has changed in nothing but its containers. -/
theorem editor (h : b.Adds b') : b'.editor = { b.editor with store := b'.editor.store } :=
  congrArg (·.editor) h.eq

end Bridge.Adds

/-- A computation that adds to the bridge, and does nothing else to it. -/
def Act.Adds {ε α : Type} (a : Act ε α) : Prop := ∀ b : Bridge, b.Adds (final (a b))

namespace Act.Adds

variable {ε δ α β : Type}

theorem pure {x : α} : (Pure.pure x : Act ε α).Adds := fun _ => .refl

theorem fail {e : ε} : (Act.fail e : Act ε α).Adds := fun _ => .refl

theorem crash : (Act.crash : Act ε α).Adds := fun _ => .refl

theorem get : (MonadState.get : Act ε Bridge).Adds := fun _ => .refl

theorem bind {a : Act ε α} {f : α → Act ε β} (ha : a.Adds) (hf : ∀ x, (f x).Adds) :
    (a >>= f).Adds := by
  intro b
  have hfirst := ha b
  rw [bind_apply]
  cases h : a b with
  | ok x b' =>
    rw [h] at hfirst
    exact hfirst.trans (hf x b')
  | error e b' =>
    rw [h] at hfirst
    exact hfirst

theorem mapError {a : Act ε α} {f : ε → δ} (ha : a.Adds) : (a.mapError f).Adds := by
  intro b
  rw [final_mapError]
  exact ha b

theorem attempt {a : Act ε α} (ha : a.Adds) :
    Act.Adds (Act.attempt a : Act δ (Except ε α)) := by
  intro b
  rw [final_attempt]
  exact ha b

instance : Act.Mild @Act.Adds where
  pure := .pure
  fail := .fail
  bind := .bind
  read hf _ := .bind .get hf
  mapError := .mapError
  attempt := .attempt
  alloc := fun _ => .withNew _
  hold := fun _ => .inUse _
  newList := fun _ => .of_store (.newList _)
  newDict := fun _ => .of_store (.newDict _)

end Act.Adds

end ScriptBridge
