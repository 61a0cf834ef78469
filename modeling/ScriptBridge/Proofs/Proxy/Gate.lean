import ScriptBridge.Proofs.Bridge.Additions
import ScriptBridge.Proofs.Host.Operation
import ScriptBridge.Proxy.Call

/-!
# The gate in front of the editor

An operation on the editor that is refused has changed nothing. A script reaches these operations
through one gate, which asks whether a script runs. A computation is gated when it only adds to the
bridge up to the gate, and cannot fail behind it.
-/

namespace ScriptBridge

open Foreign (ObjRef)
open Host (Change)
open ScriptBridge.Computation

/-! ### Operations on the editor that are refused -/

namespace Host.Change

variable {α : Type}

/-- An operation on the editor that changes nothing when it is refused. -/
def Clean (c : Change α) : Prop := ∀ e err e', c e = .error err e' → e' = e

/-- An operation whose outcome is one edit or a refusal of it. -/
theorem clean_of_edits {c : Change α} (h : ∀ e, Edits e (c e)) : c.Clean := by
  intro e err e' hrefused
  have hedits := h e
  rw [hrefused] at hedits
  exact hedits

theorem clean_renameBuffer (id : Nat) (name : String) : (renameBuffer id name).Clean :=
  clean_of_edits fun _ => renameBuffer_edits id name

theorem clean_replaceLines (id lo hi : Nat) (new : List String) :
    (replaceLines id lo hi new).Clean :=
  clean_of_edits fun _ => replaceLines_edits id lo hi new

theorem clean_setCursor (id row col : Nat) : (setCursor id row col).Clean := by
  intro e err e' h
  rw [setCursor, bind_apply, window_eq] at h
  cases hw : e.window? id with
  | none =>
    rw [hw] at h
    cases h
    rfl
  | some w =>
    rw [hw] at h
    dsimp only at h
    rw [bind_apply, get_apply] at h
    dsimp only at h
    split at h
    · cases h
      rfl
    · cases h

theorem clean_setCurrentWindow (id : Nat) : (setCurrentWindow id).Clean := by
  intro e err e' h
  rw [setCurrentWindow, bind_apply, get_apply] at h
  dsimp only at h
  cases hw : e.windowTab? id with
  | none =>
    rw [hw] at h
    cases h
    rfl
  | some tab =>
    rw [hw] at h
    dsimp only at h
    rw [bind_apply, tab_eq] at h
    cases ht : e.tab? tab with
    | none =>
      rw [ht] at h
      cases h
      rfl
    | some t =>
      rw [ht] at h
      cases h

theorem clean_setCurrentTab (id : Nat) : (setCurrentTab id).Clean := by
  intro e err e' h
  rw [setCurrentTab, bind_apply, tab_eq] at h
  cases ht : e.tab? id with
  | none =>
    rw [ht] at h
    cases h
    rfl
  | some t =>
    rw [ht] at h
    cases h

theorem clean_setCurrentBuffer (id : Nat) : (setCurrentBuffer id).Clean :=
  clean_of_edits fun _ => setCurrentBuffer_edits id

/-- Changing a size of a window. -/
theorem clean_resize (id : Nat) (f : Window → Window) : Clean (do
    let _ ← window id
    modify fun e => e.mapWindow id f) := by
  intro e err e' h
  rw [bind_apply, window_eq] at h
  cases hw : e.window? id with
  | none =>
    rw [hw] at h
    cases h
    rfl
  | some w =>
    rw [hw] at h
    cases h

end Host.Change

/-! ### Computations that ask for the side -/

/-- How a write ends: it was made, and then a script runs, or nothing was written, or it failed.
Unless it was made it has only added something to the bridge. -/
inductive Act.GatedFrom {ε α : Type} (b : Bridge) (wrote : α → Bool) :
    EStateM.Result (Stop ε) Bridge α → Prop
  | written {x : α} {b' : Bridge} (hwrote : wrote x = true) (hside : b.handoff.side = .foreign) :
    GatedFrom b wrote (.ok x b')
  | idle {x : α} {b' : Bridge} (hwrote : wrote x = false) (hadds : b.Adds b') :
    GatedFrom b wrote (.ok x b')
  | failed {stop : Stop ε} {b' : Bridge} (hadds : b.Adds b') : GatedFrom b wrote (.error stop b')

/-- A computation that writes only for scripts, and only if it succeeds. What it returns may say
that nothing was written. -/
def Act.Gated {ε α : Type} (a : Act ε α) (wrote : α → Bool := fun _ => true) : Prop :=
  ∀ b, Act.GatedFrom b wrote (a b)

namespace Act.Gated

variable {ε δ α β : Type} {wrote : α → Bool}

theorem fail {e : ε} : (Act.fail e : Act ε α).Gated wrote := fun _ => .failed .refl

/-- Nothing is written. -/
theorem pure {x : α} (hx : wrote x = false) : (Pure.pure x : Act ε α).Gated wrote :=
  fun _ => .idle hx .refl

/-- What is looked at before a write. -/
theorem bind {a : Act ε β} {f : β → Act ε α} (ha : a.Adds) (hf : ∀ x, (f x).Gated wrote) :
    (a >>= f).Gated wrote := by
  intro b
  have hfirst := ha b
  rw [bind_apply]
  cases h : a b with
  | error stop b' =>
    rw [h] at hfirst
    exact .failed hfirst
  | ok x b' =>
    rw [h] at hfirst
    have hrest := hf x b'
    dsimp only
    generalize f x b' = outcome at hrest ⊢
    cases hrest with
    | written hwrote hside =>
      exact .written hwrote ((congrArg (·.side) hfirst.handoff).symm.trans hside)
    | idle hwrote hadds => exact .idle hwrote (hfirst.trans hadds)
    | failed hadds => exact .failed (hfirst.trans hadds)

/-- What comes after a write cannot fail. -/
theorem followed {a : Act ε β} {f : β → Act ε α} (ha : a.Gated)
    (hf : ∀ x b, ∃ y b', f x b = .ok y b' ∧ wrote y = true) : (a >>= f).Gated wrote := by
  intro b
  have hfirst := ha b
  rw [bind_apply]
  generalize a b = outcome at hfirst
  cases hfirst with
  | @written x b' _ hside =>
    obtain ⟨y, b'', hy, hwrote⟩ := hf x b'
    dsimp only
    rw [hy]
    exact .written hwrote hside
  | idle hwrote => cases hwrote
  | failed hadds => exact .failed hadds

/-- That nothing was written is a failure. -/
theorem checked {a : Act ε Bool} {e : ε} (ha : a.Gated id) :
    Act.Gated (do if !(← a) then Act.fail e : Act ε Unit) := by
  intro b
  have hfirst := ha b
  rw [bind_apply]
  generalize a b = outcome at hfirst
  cases hfirst with
  | @written x b' hwrote hside =>
    have hwrote : x = true := hwrote
    subst hwrote
    exact .written rfl hside
  | @idle x b' hwrote hadds =>
    have hwrote : x = false := hwrote
    subst hwrote
    exact .failed hadds
  | failed hadds => exact .failed hadds

/-- A check in front of a write. -/
theorem guard {c : Prop} [Decidable c] {e : ε} {f : Unit → Act ε α} (hf : (f ()).Gated wrote) :
    (if c then Act.fail e >>= f else f ()).Gated wrote := by
  split
  · exact .bind .fail fun _ => hf
  · exact hf

theorem mapError {a : Act ε α} {f : ε → δ} (ha : a.Gated wrote) :
    (a.mapError f).Gated wrote := by
  intro b
  have hfirst := ha b
  unfold Act.mapError
  generalize a b = outcome at hfirst
  cases hfirst with
  | written hwrote hside => exact .written hwrote hside
  | idle hwrote hadds => exact .idle hwrote hadds
  | failed hadds => exact .failed hadds

/-- A write of the editor. -/
theorem hostWrite {c : Change α} (hc : c.Clean) : (Bridge.hostWrite c).Gated := by
  intro b
  unfold Bridge.hostWrite
  rw [bind_apply, get_apply]
  dsimp only
  by_cases hside : b.handoff.side = .foreign
  · rw [if_neg (by simp [hside]), bind_apply]
    have hdemand := Mild.demandEditor (P := @Act.Adds) b
    cases hresult : Bridge.demandEditor b with
    | error stop b' =>
      rw [hresult] at hdemand
      exact .failed hdemand
    | ok x b' =>
      rw [hresult] at hdemand
      dsimp only
      unfold Act.mapError Bridge.change
      cases h : c b'.editor with
      | ok y e => exact .written rfl hside
      | error err e =>
        have hsame : b'.withEditor e = b' := by
          rw [hc b'.editor err e h]
          exact Bridge.withEditor_eq rfl
        dsimp only
        rw [hsame]
        exact .failed hdemand
  · rw [if_pos hside]
    exact .failed .refl

/-- A write of the editor that is all that is done. -/
theorem written {c : Change Unit} (hc : c.Clean) :
    Act.Gated (do
      Bridge.hostWrite c
      Pure.pure true : Act ProxyError Bool) id :=
  .followed (.hostWrite hc) fun _ b => ⟨true, b, rfl, rfl⟩

/-- A write as a script calls it. -/
theorem slot {a : Act ProxyError α} (ha : a.Gated) : (Proxy.slot a).Gated := by
  have hguarded : (Proxy.guarded a).Gated := by
    intro b
    have hfirst := ha b
    unfold Proxy.guarded
    generalize a b = outcome at hfirst
    cases hfirst with
    | written hwrote hside => exact .written hwrote hside
    | idle hwrote hadds => exact .idle hwrote hadds
    | @failed stop b' hadds => cases stop <;> exact .failed hadds
  refine .bind .get fun b => .guard ?_
  split
  · exact .mapError ha
  · exact hguarded

end Act.Gated

end ScriptBridge
