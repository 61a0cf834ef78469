import ScriptBridge.Proofs.Bridge.Additions
import ScriptBridge.Proofs.Host.Locks

/-!
# The bridge and containers that are shut

A computation of the bridge spares a container if the container is the same after it, provided that
it was shut before. Computations are built up from ones that spare a container, and from ones that
fail while it is shut.
-/

namespace ScriptBridge

open Host (Value Store Editor LockError)
open ScriptBridge.Convert (Container)
open ScriptBridge.Computation

/-! ### Computations of the bridge -/

namespace Bridge

variable {c : Container} {b b' b'' : Bridge}

/-- The parts of the editor fit together, and the functions that the user defines leave a container
alone while it is shut. -/
structure Respects (b : Bridge) (c : Container) : Prop where
  wellFormed : b.editor.WellFormed
  functions : b.functions.Proceed (Editor.Spares c)

/-- A later state in which a container is the same, if it was shut. -/
structure Spares (c : Container) (b b' : Bridge) : Prop where
  respects : b'.Respects c
  container : c.Spared b.editor.store b'.editor.store

theorem Spares.refl (hb : b.Respects c) : Spares c b b := ⟨hb, .refl⟩

theorem Spares.trans (h : Spares c b b') (h' : Spares c b' b'') : Spares c b b'' :=
  ⟨h'.respects, h.container.trans h'.container⟩

theorem Adds.spares (h : b.Adds b') (hb : b.Respects c) : Spares c b b' := by
  refine ⟨⟨?_, ?_⟩, .of_grown h.store⟩
  · rw [h.editor]
    exact hb.wellFormed.withStore _
  · rw [h.functions]
    exact hb.functions

/-- Neither the editor nor the functions have changed. -/
theorem Spares.of_same (hb : b.Respects c) (heditor : b'.editor = b.editor)
    (hfunctions : b'.functions = b.functions) : Spares c b b' := by
  refine ⟨⟨?_, ?_⟩, ?_⟩
  · rw [heditor]
    exact hb.wellFormed
  · rw [hfunctions]
    exact hb.functions
  · rw [heditor]
    exact .refl

theorem foldl_invalidate_frame (keys : List Host.Entity) (b : Bridge) :
    (keys.foldl invalidate b).editor = b.editor ∧
      (keys.foldl invalidate b).functions = b.functions := by
  induction keys generalizing b with
  | nil => exact ⟨rfl, rfl⟩
  | cons key rest ih =>
    obtain ⟨heditor, hfunctions⟩ := ih (b.invalidate key)
    have hframe : (b.invalidate key).editor = b.editor ∧
        (b.invalidate key).functions = b.functions := by
      unfold invalidate
      split <;> exact ⟨rfl, rfl⟩
    exact ⟨heditor.trans hframe.1, hfunctions.trans hframe.2⟩

theorem withEditor_frame (b : Bridge) (e : Editor) :
    (b.withEditor e).editor = e ∧ (b.withEditor e).functions = b.functions :=
  foldl_invalidate_frame _ { b with editor := e }

theorem spares_withEditor (hb : b.Respects c) {e : Editor} (hwell : e.WellFormed)
    (h : Editor.Spares c b.editor e) : Spares c b (b.withEditor e) := by
  obtain ⟨heditor, hfunctions⟩ := b.withEditor_frame e
  refine ⟨⟨?_, ?_⟩, ?_⟩
  · rw [heditor]
    exact hwell
  · rw [hfunctions]
    exact hb.functions
  · rw [heditor]
    exact h

end Bridge

/-- A computation that leaves a container as it is if it is shut, however the computation ends. -/
def Act.Spares (c : Container) {ε α : Type} (a : Act ε α) : Prop :=
  ∀ b : Bridge, b.Respects c → Bridge.Spares c b (final (a b))

namespace Act.Spares

variable {ε δ α β : Type} {c : Container}

theorem of_adds {a : Act ε α} (ha : a.Adds) : a.Spares c := fun b hb => (ha b).spares hb

theorem pure {x : α} : (Pure.pure x : Act ε α).Spares c := .of_adds .pure

theorem fail {e : ε} : (Act.fail e : Act ε α).Spares c := .of_adds .fail

theorem get : (MonadState.get : Act ε Bridge).Spares c := .of_adds .get

theorem bind {a : Act ε α} {f : α → Act ε β} (ha : a.Spares c) (hf : ∀ x, (f x).Spares c) :
    (a >>= f).Spares c := by
  intro b hb
  have hfirst := ha b hb
  rw [bind_apply]
  cases h : a b with
  | ok x b' =>
    rw [h] at hfirst
    exact hfirst.trans (hf x b' hfirst.respects)
  | error stop b' =>
    rw [h] at hfirst
    exact hfirst

theorem mapError {a : Act ε α} {f : ε → δ} (ha : a.Spares c) : (a.mapError f).Spares c := by
  intro b hb
  rw [final_mapError]
  exact ha b hb

theorem attempt {a : Act ε α} (ha : a.Spares c) :
    Act.Spares c (Act.attempt a : Act δ (Except ε α)) := by
  intro b hb
  rw [final_attempt]
  exact ha b hb

/-- A change that does not concern the editor. -/
theorem modify {f : Bridge → Bridge} (heditor : ∀ b, (f b).editor = b.editor)
    (hfunctions : ∀ b, (f b).functions = b.functions) : (modify f : Act ε PUnit).Spares c :=
  fun b hb => .of_same hb (heditor b) (hfunctions b)

theorem store {f : Store → Except LockError Store} (hf : ∀ s s', f s = .ok s' → s.Write s') :
    (Bridge.store f).Spares c := by
  intro b hb
  simp only [Bridge.store, bind_apply, get_apply]
  cases h : f b.editor.store with
  | ok s => exact ⟨⟨hb.wellFormed.withStore s, hb.functions⟩, .of_write (hf _ _ h)⟩
  | error e => exact .refl hb

theorem say {m : Host.Message} : (Bridge.say m : Act ε Unit).Spares c := by
  intro b hb
  unfold Bridge.say
  rw [modify_apply]
  split
  · exact ⟨⟨⟨hb.wellFormed.texts, hb.wellFormed.layout, hb.wellFormed.shown⟩, hb.functions⟩, .refl⟩
  · exact .refl hb

instance : Act.Storing (Act.Spares c) where
  pure := .pure
  fail := .fail
  bind := .bind
  read hf _ := .bind .get hf
  mapError := .mapError
  attempt := .attempt
  alloc := .of_adds Mild.alloc
  hold := .of_adds Mild.hold
  newList := .of_adds Mild.newList
  newDict := .of_adds Mild.newDict
  store := .store
  say := .say

/-- What the host interpreter does. -/
theorem host {a : Host.Eval α} (ha : Host.Proceeds (Editor.Spares c) a) :
    (Bridge.host a).Spares c := by
  intro b hb
  obtain ⟨hwell, hspares⟩ := ha b.editor hb.wellFormed
  unfold Bridge.host
  cases h : a b.editor <;> rw [h] at hwell hspares <;>
    exact Bridge.spares_withEditor hb hwell hspares

theorem serve {a : Host.Eval α} (ha : Host.Proceeds (Editor.Spares c) a) :
    (Bridge.serve a).Spares c :=
  .bind Mild.demandEditor fun _ => .mapError (.host ha)

theorem hostWrite {w : Host.Change α} (hw : Host.Proceeds (Editor.Spares c) w) :
    (Bridge.hostWrite w).Spares c := by
  have hchange : (Bridge.change w).Spares c := by
    intro b hb
    obtain ⟨hwell, hspares⟩ := hw b.editor hb.wellFormed
    unfold Bridge.change
    cases h : w b.editor <;> rw [h] at hwell hspares <;>
      exact Bridge.spares_withEditor hb hwell hspares
  exact .bind .get fun _ => Mild.guard (.bind Mild.demandEditor fun _ => .mapError hchange)

/-- A request for the proxy of an entity. -/
theorem entity {key : Host.Entity} : (Bridge.entity key).Spares c := by
  refine .bind Mild.readEditor fun e => Mild.guard (.bind .get fun b => ?_)
  dsimp only
  split
  · exact .bind Mild.hold fun _ => .pure
  · exact .bind Mild.alloc fun _ =>
      .bind (.modify (fun _ => rfl) fun _ => rfl) fun _ => .pure

end Act.Spares

/-! ### Computations that can open a container -/

/-- A computation after which a shut container holds what it held, and is fixed if it was. -/
def Act.Guards {ε α : Type} (c : Container) (a : Act ε α) : Prop :=
  ∀ b : Bridge, b.Respects c → c.Guarded b.editor.store (final (a b)).editor.store

namespace Act

variable {ε δ α β : Type} {c : Container}

theorem Spares.guards {a : Act ε α} (ha : a.Spares c) : a.Guards c :=
  fun b hb => (ha b hb).container.guarded

namespace Guards

theorem fail {e : ε} : (Act.fail e : Act ε α).Guards c := Spares.fail.guards

/-- What comes first spares the container. -/
theorem after {a : Act ε α} {f : α → Act ε β} (ha : a.Spares c) (hf : ∀ x, (f x).Guards c) :
    (a >>= f).Guards c := by
  intro b hb
  have hfirst := ha b hb
  rw [bind_apply]
  cases h : a b with
  | ok x b' =>
    rw [h] at hfirst
    exact hfirst.container.followed (hf x b' hfirst.respects)
  | error stop b' =>
    rw [h] at hfirst
    exact hfirst.container.guarded

/-- What comes next changes nothing any more. -/
theorem followed {a : Act ε α} {f : α → Act ε β} (ha : a.Guards c)
    (hf : ∀ x b, final (f x b) = b) : (a >>= f).Guards c := by
  intro b hb
  have hfirst := ha b hb
  rw [bind_apply]
  cases h : a b with
  | ok x b' =>
    rw [h] at hfirst
    rw [hf]
    exact hfirst
  | error stop b' =>
    rw [h] at hfirst
    exact hfirst

theorem guard {p : Prop} [Decidable p] {e : ε} {f : Unit → Act ε α} (hf : (f ()).Guards c) :
    (if p then Act.fail e >>= f else f ()).Guards c := by
  split
  · exact .after .fail fun _ => hf
  · exact hf

theorem mapError {a : Act ε α} {f : ε → δ} (ha : a.Guards c) : (a.mapError f).Guards c := by
  intro b hb
  rw [final_mapError]
  exact ha b hb

theorem store {f : Store → Except LockError Store} (hf : ∀ s s', f s = .ok s' → s.Step s') :
    (Bridge.store f).Guards c := by
  intro b hb
  simp only [Bridge.store, bind_apply, get_apply]
  cases h : f b.editor.store with
  | ok s => exact .of_step (hf _ _ h)
  | error e => exact Container.Spared.refl.guarded

end Guards

end Act

/-! ### Computations that fail -/

theorem Computation.Stops.mapError {ε δ α : Type} {a : Act ε α} {b : Bridge} (h : Stops a b)
    {f : ε → δ} : Stops (a.mapError f) b := by
  obtain ⟨stop, b', h⟩ := h
  exact ⟨stop.map f, b', by rw [Act.mapError, h]⟩

theorem Bridge.stops_host {α : Type} {a : Host.Eval α} {b : Bridge} (h : Stops a b.editor) :
    Stops (Bridge.host a) b := by
  obtain ⟨stop, e, h⟩ := h
  exact ⟨stop, b.withEditor e, by rw [Bridge.host, h]⟩

theorem Bridge.stops_serve {α : Type} {a : Host.Eval α} {b : Bridge} (h : Stops a b.editor) :
    Stops (Bridge.serve a) b := by
  have hdemand : final (Bridge.demandEditor b) = b := by
    unfold Bridge.demandEditor
    rw [bind_apply, get_apply]
    dsimp only
    split <;> rfl
  exact .after hdemand fun _ => (stops_host h).mapError

/-- A computation that fails in every state of a kind. -/
def Act.StopsIn {ε α : Type} (p : Bridge → Prop) (a : Act ε α) : Prop :=
  ∀ b, p b → Stops a b

/-- States in which a container is shut. -/
def Bridge.IsShut (c : Container) (b : Bridge) : Prop := c.Shut b.editor.store

/-- States in which a container is fixed. -/
def Bridge.IsFixed (c : Container) (b : Bridge) : Prop := c.lock b.editor.store = .fixed

namespace Act

variable {ε δ α β : Type} {c : Container} {p : Bridge → Prop}

theorem Adds.isShut {a : Act ε α} (ha : a.Adds) {b : Bridge} (hb : b.IsShut c) :
    (final (a b)).IsShut c :=
  Container.Spared.shut (.of_grown (ha b).store) hb

theorem Adds.isShut_ok {a : Act ε α} (ha : a.Adds) {b b' : Bridge} (hb : b.IsShut c) {x : α}
    (h : a b = .ok x b') : b'.IsShut c := by
  have hlater := ha.isShut hb
  rw [h] at hlater
  exact hlater

theorem Adds.isFixed {a : Act ε α} (ha : a.Adds) {b : Bridge} (hb : b.IsFixed c) :
    (final (a b)).IsFixed c :=
  (Container.Spared.of_grown (ha b).store (.of_fixed hb)).1.trans hb

namespace StopsIn

theorem fail {e : ε} : (Act.fail e : Act ε α).StopsIn p := fun _ _ => .throw

/-- What comes first leaves the state one of its kind. -/
theorem bind {a : Act ε α} {f : α → Act ε β} (ha : ∀ b, p b → p (final (a b)))
    (hf : ∀ x, (f x).StopsIn p) : (a >>= f).StopsIn p := by
  intro b hb
  have hfirst := ha b hb
  cases h : a b with
  | ok x b' =>
    rw [h] at hfirst
    exact .next h (hf x b' hfirst)
  | error stop b' => exact .bind ⟨stop, b', h⟩

/-- What comes next does not happen. -/
theorem followed {a : Act ε α} (ha : a.StopsIn p) (f : α → Act ε β) : (a >>= f).StopsIn p :=
  fun b hb => (ha b hb).bind

theorem guard {q : Prop} [Decidable q] {e : ε} {f : Unit → Act ε α} (hf : (f ()).StopsIn p) :
    (if q then Act.fail e >>= f else f ()).StopsIn p := by
  split
  · exact .followed .fail _
  · exact hf

theorem mapError {a : Act ε α} {f : ε → δ} (ha : a.StopsIn p) : (a.mapError f).StopsIn p :=
  fun b hb => (ha b hb).mapError

end StopsIn

end Act

end ScriptBridge
