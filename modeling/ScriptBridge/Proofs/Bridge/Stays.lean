import ScriptBridge.Proofs.Bridge.Move
import ScriptBridge.Proofs.Bridge.Operations

/-!
# What operations leave as it is

The handoff, the range of the command that runs, the logs and the stage of life belong to the
session; the source texts that are known and the history belong to the interpreter. An operation on
objects, values or the editor leaves all of them as they are, whether it succeeds, fails or breaks
down.
-/

namespace ScriptBridge

open Foreign (ObjRef Object ProxyClass Target)
open Host (Editor Entity Store LockError)
open ScriptBridge.Computation

namespace Foreign

/-- Whether the scripted interpreter makes such objects. What a proxy stands for does not matter. -/
def Object.Ordinary : Object → Prop
  | .raised _ | .wrapper .. | .descriptor .. | .native .. | .iterator .. | .view .. => False
  | .function .. | .bound .. | .mirror _ | .known .. => False
  | _ => True

theorem Object.Scripted.ordinary {x : Object} (h : x.Scripted) : x.Ordinary := by
  cases x <;> trivial

end Foreign

namespace Bridge

/-- A bridge over the scripted interpreter, with objects that it makes. -/
structure Ordinary (b : Bridge) : Prop where
  scripted : b.interpreter.kind = .scripted
  objects : ∀ r, (b.objects.get r).Ordinary

theorem Sound.ordinary {b : Bridge} (hb : b.Sound) : b.Ordinary :=
  ⟨hb.scripted, fun r => (hb.objects r).ordinary⟩

/-- What belongs to the session and to the interpreter as a whole. -/
def frame (b : Bridge) : Handoff × (Int64 × Int64) × List Script.ScriptLog × Script.Lifecycle ×
    Foreign.InterpreterKind × List (String × Script.Content) × List String :=
  (b.handoff, b.range, b.logs, b.lifecycle, b.interpreter.kind, b.interpreter.scripts,
    b.interpreter.history)

/-- A later state with the same frame. -/
structure Stays (b b' : Bridge) : Prop where
  ordinary : b'.Ordinary
  frame : b'.frame = b.frame

variable {b b' b'' : Bridge}

namespace Stays

theorem refl (hb : b.Ordinary) : b.Stays b := ⟨hb, rfl⟩

theorem trans (h : b.Stays b') (h' : b'.Stays b'') : b.Stays b'' :=
  ⟨h'.ordinary, h'.frame.trans h.frame⟩

/-- The same objects, and the same frame. -/
theorem of_objects (hb : b.Ordinary) (hobjects : b'.objects = b.objects)
    (hframe : b'.frame = b.frame) : b.Stays b' := by
  refine ⟨⟨?_, fun r => hobjects ▸ hb.objects r⟩, hframe⟩
  exact (congrArg (·.2.2.2.2.1) hframe).trans hb.scripted

theorem handoff (h : b.Stays b') : b'.handoff = b.handoff := congrArg (·.1) h.frame

theorem range (h : b.Stays b') : b'.range = b.range := congrArg (·.2.1) h.frame

theorem logs (h : b.Stays b') : b'.logs = b.logs := congrArg (·.2.2.1) h.frame

theorem lifecycle (h : b.Stays b') : b'.lifecycle = b.lifecycle := congrArg (·.2.2.2.1) h.frame

theorem scripts (h : b.Stays b') : b'.interpreter.scripts = b.interpreter.scripts :=
  congrArg (·.2.2.2.2.2.1) h.frame

theorem history (h : b.Stays b') : b'.interpreter.history = b.interpreter.history :=
  congrArg (·.2.2.2.2.2.2) h.frame

end Stays

/-- A new object. -/
theorem stays_withNew (hb : b.Ordinary) {x : Object} (hx : x.Ordinary) : b.Stays (b.withNew x) := by
  refine ⟨⟨hb.scripted, fun r => ?_⟩, rfl⟩
  rw [get_withNew]
  split
  · exact hx
  · exact hb.objects r

theorem stays_setObject (hb : b.Ordinary) (r : ObjRef) {x : Object} (hx : x.Ordinary) :
    b.Stays { b with objects := b.objects.set r x } := by
  refine ⟨⟨hb.scripted, fun s => ?_⟩, rfl⟩
  rw [Foreign.Objects.get_set]
  split
  · exact hx
  · exact hb.objects s

theorem stays_invalidate (hb : b.Ordinary) (key : Entity) : b.Stays (b.invalidate key) := by
  unfold invalidate
  split
  · exact .refl hb
  · dsimp only
    split
    · rename_i r _ _ cls _ _
      have hproxy : (Object.proxy cls .invalid).Ordinary := trivial
      have hset := stays_setObject hb r hproxy
      exact hset.trans (.of_objects hset.ordinary rfl rfl)
    · exact .of_objects hb rfl rfl

/-- Whatever is destroyed by a change of the editor. -/
theorem stays_withEditor (hb : b.Ordinary) (e : Editor) : b.Stays (b.withEditor e) := by
  have hfold (keys : List Entity) {b : Bridge} (hb : b.Ordinary) :
      b.Stays (keys.foldl invalidate b) := by
    induction keys generalizing b with
    | nil => exact .refl hb
    | cons key rest ih =>
      exact (stays_invalidate hb key).trans (ih (stays_invalidate hb key).ordinary)
  have hfirst : b.Stays { b with editor := e } := .of_objects hb rfl rfl
  exact hfirst.trans (hfold _ hfirst.ordinary)

end Bridge

/-- A computation that from one bridge leaves the frame as it is. -/
def Act.StaysFrom {ε α : Type} (b : Bridge) (a : Act ε α) : Prop := b.Stays (final (a b))

/-- A computation that leaves the frame as it is, however it ends. -/
def Act.Stays {ε α : Type} (a : Act ε α) : Prop := ∀ b : Bridge, b.Ordinary → a.StaysFrom b

namespace Act.Stays

variable {ε δ α β γ : Type}

/-! ### Sequences -/

theorem pure {x : α} : (Pure.pure x : Act ε α).Stays := fun _ hb => .refl hb

theorem fail {e : ε} : (Act.fail e : Act ε α).Stays := fun _ hb => .refl hb

theorem crash : (Act.crash : Act ε α).Stays := fun _ hb => .refl hb

theorem get : (MonadState.get : Act ε Bridge).Stays := fun _ hb => .refl hb

theorem bind {a : Act ε α} {f : α → Act ε β} (ha : a.Stays) (hf : ∀ x, (f x).Stays) :
    (a >>= f).Stays := by
  intro b hb
  have hfirst := ha b hb
  unfold StaysFrom at hfirst ⊢
  rw [bind_apply]
  cases h : a b with
  | ok x b' =>
    rw [h] at hfirst
    exact hfirst.trans (hf x b' hfirst.ordinary)
  | error e b' =>
    rw [h] at hfirst
    exact hfirst

/-- A computation that starts by reading the bridge. -/
theorem bind_get {f : Bridge → Act ε α} (hf : ∀ b : Bridge, b.Ordinary → (f b).StaysFrom b) :
    (MonadState.get >>= f).Stays := hf

/-- A computation that starts by reading an object. -/
theorem bind_object {r : ObjRef} {f : Object → Act ε α}
    (hf : ∀ b : Bridge, b.Ordinary → (f (b.objects.get r)).StaysFrom b) :
    (Bridge.object r >>= f).Stays := hf

theorem fail_bind {e : ε} {f : β → Act ε α} : (Act.fail e >>= f).Stays := fun _ hb => .refl hb

/-- A check in front of a computation. -/
theorem guard {c : Prop} [Decidable c] {e : ε} {f : Unit → Act ε α} (hf : (f ()).Stays) :
    (if c then Act.fail e >>= f else f ()).Stays := by
  split
  · exact fail_bind
  · exact hf

theorem map {a : Act ε α} {f : α → β} (ha : a.Stays) : (f <$> a).Stays := by
  have h : (a >>= fun x => Pure.pure (f x)).Stays := .bind ha fun _ => .pure
  exact h

theorem mapError {a : Act ε α} {f : ε → δ} (ha : a.Stays) : (a.mapError f).Stays := by
  intro b hb
  rw [StaysFrom, final_mapError]
  exact ha b hb

theorem attempt {a : Act ε α} (ha : a.Stays) :
    Act.Stays (Act.attempt a : Act δ (Except ε α)) := by
  intro b hb
  rw [StaysFrom, final_attempt]
  exact ha b hb

theorem ofExcept {x : Except ε α} : (Act.ofExcept x).Stays := by
  cases x with
  | ok y => exact .pure
  | error e => exact .fail

theorem mapM_of_mem {f : γ → Act ε α} {xs : List γ} (hf : ∀ x ∈ xs, (f x).Stays) :
    (xs.mapM f).Stays := by
  induction xs with
  | nil =>
    rw [List.mapM_nil]
    exact .pure
  | cons x xs ih =>
    rw [List.mapM_cons]
    exact .bind (hf x List.mem_cons_self) fun _ =>
      .bind (ih fun y hy => hf y (List.mem_cons_of_mem _ hy)) fun _ => .pure

theorem mapM {f : γ → Act ε α} (hf : ∀ x, (f x).Stays) (xs : List γ) : (xs.mapM f).Stays :=
  .mapM_of_mem fun x _ => hf x

/-- A loop without results. -/
theorem forIn {xs : List γ} {f : γ → PUnit → Act ε (ForInStep PUnit)}
    (hf : ∀ x, (f x ⟨⟩).Stays) : (ForIn.forIn xs PUnit.unit f).Stays := by
  induction xs with
  | nil =>
    rw [List.forIn_nil]
    exact .pure
  | cons x xs ih =>
    rw [List.forIn_cons]
    refine .bind (hf x) fun step => ?_
    cases step with
    | done _ => exact .pure
    | yield _ => exact ih

/-! ### Objects -/

/-- A change that concerns neither objects nor the frame. -/
theorem modify {f : Bridge → Bridge} (hobjects : ∀ b, (f b).objects = b.objects)
    (hframe : ∀ b, (f b).frame = b.frame) : (modify f : Act ε PUnit).Stays :=
  fun b hb => .of_objects hb (hobjects b) (hframe b)

theorem alloc {x : Object} (hx : x.Ordinary) : (Bridge.alloc x : Act ε ObjRef).Stays :=
  fun _ hb => Bridge.stays_withNew hb hx

theorem setObject (r : ObjRef) {x : Object} (hx : x.Ordinary) :
    (Bridge.setObject r x : Act ε Unit).Stays :=
  fun _ hb => Bridge.stays_setObject hb r hx

theorem hold {r : ObjRef} : (Bridge.hold r : Act ε Unit).Stays :=
  .modify (fun _ => rfl) fun _ => rfl

theorem wrap {cls : ProxyClass} {t : Target} : (Bridge.wrap cls t : Act ε ObjRef).Stays :=
  .alloc trivial

theorem confine {a : Act ε α} {kept : α → List ObjRef} (ha : a.Stays) :
    (Bridge.confine kept a).Stays := by
  intro b hb
  have hfirst := ha b hb
  unfold StaysFrom at hfirst ⊢
  unfold Bridge.confine
  cases h : a b <;> rw [h] at hfirst <;>
    exact hfirst.trans (.of_objects hfirst.ordinary rfl rfl)

/-! ### The editor -/

theorem readEditor : Bridge.readEditor.Stays := by
  refine .bind .get fun b => ?_
  split
  · exact .fail
  · exact .pure

theorem demandEditor : Bridge.demandEditor.Stays := by
  refine .bind .get fun b => ?_
  split
  · exact .fail
  · exact .pure

theorem host {a : Host.Eval α} : (Bridge.host a).Stays := by
  intro b hb
  unfold StaysFrom Bridge.host
  cases a b.editor <;> exact Bridge.stays_withEditor hb _

theorem change {c : Host.Change α} : (Bridge.change c).Stays := by
  intro b hb
  unfold StaysFrom Bridge.change
  cases c b.editor <;> exact Bridge.stays_withEditor hb _

theorem serve {a : Host.Eval α} : (Bridge.serve a).Stays :=
  .bind demandEditor fun _ => .mapError .host

theorem hostWrite {c : Host.Change α} : (Bridge.hostWrite c).Stays :=
  .bind .get fun _ => .guard (.bind demandEditor fun _ => .mapError .change)

theorem store {f : Store → Except LockError Store} : (Bridge.store f).Stays := by
  refine .bind_get fun b hb => ?_
  cases f b.editor.store with
  | ok s => exact .of_objects hb rfl rfl
  | error e => exact .refl hb

theorem say {m : Host.Message} : (Bridge.say m : Act ε Unit).Stays := by
  refine .modify (fun b => ?_) fun b => ?_
  all_goals split <;> rfl

theorem newList {items : List Host.Value} : (Bridge.newList items : Act ε Host.ListRef).Stays :=
  fun _ hb => .of_objects hb rfl rfl

theorem newDict {entries : List (String × Host.Value)} {scope : Host.Scope} :
    (Bridge.newDict entries scope : Act ε Host.DictRef).Stays :=
  fun _ hb => .of_objects hb rfl rfl

/-- A request for the proxy of an entity. -/
theorem entity {key : Entity} : (Bridge.entity key).Stays := by
  refine .bind .readEditor fun e => .guard (.bind .get fun b => ?_)
  dsimp only
  split
  · exact .bind .hold fun _ => .pure
  · exact .bind .wrap fun _ => .bind (.modify (fun _ => rfl) fun _ => rfl) fun _ => .pure

end Act.Stays

end ScriptBridge
