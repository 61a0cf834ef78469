import ScriptBridge.Proofs.Convert.Strict
import ScriptBridge.Proofs.Host.Entries
import ScriptBridge.Proofs.Host.Evaluation

/-!
# Containers that are shut

A container that is locked or fixed is shut. All changes of the containers go through the store,
which asks the lock of the container itself, so nothing changes what a shut container holds, and
nothing changes the lock of a fixed one. What the interpreter of the editor does by itself does not
touch locks either: a container that is shut before it is shut and the same after it.
-/

namespace ScriptBridge

open Host (Value Store Lock LockError Editor ListRef DictRef ListCell DictCell)
open ScriptBridge.Convert (Container)
open ScriptBridge.Computation

/-! ### Containers of the store -/

namespace Convert.Container

/-- The lock of a container. -/
def lock (s : Store) : Container → Lock
  | .list l => (s.list l).lock
  | .dict d => (s.dict d).lock

/-- The items or the entries of a container. -/
def contents (s : Store) : Container → List Value ⊕ List (String × Value)
  | .list l => .inl (s.list l).items
  | .dict d => .inr (s.dict d).entries

/-- A container is locked or fixed. -/
def Shut (s : Store) (c : Container) : Prop := c.lock s ≠ .unlocked

/-- A container has the lock and the contents that it had. -/
def Same (s s' : Store) (c : Container) : Prop :=
  c.lock s' = c.lock s ∧ c.contents s' = c.contents s

/-- A container is the same afterwards if it is shut. -/
def Spared (s s' : Store) (c : Container) : Prop := c.Shut s → c.Same s s'

variable {c : Container} {s s' s'' : Store} {l : ListRef} {d : DictRef}

theorem Shut.of_fixed (h : c.lock s = .fixed) : c.Shut s := by
  rw [Shut, h]
  exact Lock.noConfusion

/-- A name that stands for nothing names a container that can be changed. -/
theorem Shut.exists (h : c.Shut s) : c.Exists s := by
  by_contra hnot
  cases c with
  | list l =>
    refine h ?_
    rw [lock, Store.list, Array.getD_eq_getD_getElem?,
      Array.getElem?_eq_none (Nat.le_of_not_lt hnot)]
    rfl
  | dict d =>
    refine h ?_
    rw [lock, Store.dict, Array.getD_eq_getD_getElem?,
      Array.getElem?_eq_none (Nat.le_of_not_lt hnot)]
    rfl

theorem Same.refl : c.Same s s := ⟨rfl, rfl⟩

theorem Same.of_list (h : s'.list l = s.list l) : (Container.list l).Same s s' := by
  rw [Same, lock, lock, contents, contents, h]
  exact ⟨rfl, rfl⟩

theorem Same.of_dict (h : s'.dict d = s.dict d) : (Container.dict d).Same s s' := by
  rw [Same, lock, lock, contents, contents, h]
  exact ⟨rfl, rfl⟩

/-- Another list is changed. -/
theorem Same.setList (hne : c ≠ .list l) (cell : ListCell) : c.Same s (s.setList l cell) := by
  cases c with
  | dict d => exact .refl
  | list l' => exact .of_list (Store.list_setList_of_ne (fun h => hne (congrArg _ h)) cell)

/-- Another dictionary is changed. -/
theorem Same.setDict (hne : c ≠ .dict d) (cell : DictCell) : c.Same s (s.setDict d cell) := by
  cases c with
  | list l => exact .refl
  | dict d' => exact .of_dict (Store.dict_setDict_of_ne (fun h => hne (congrArg _ h)) cell)

namespace Spared

theorem refl : c.Spared s s := fun _ => .refl

theorem shut (h : c.Spared s s') (hshut : c.Shut s) : c.Shut s' := by
  rw [Shut, (h hshut).1]
  exact hshut

theorem trans (h : c.Spared s s') (h' : c.Spared s' s'') : c.Spared s s'' := by
  intro hshut
  obtain ⟨hlock, hcontents⟩ := h hshut
  obtain ⟨hlock', hcontents'⟩ := h' (h.shut hshut)
  exact ⟨hlock'.trans hlock, hcontents'.trans hcontents⟩

/-- The containers that are there stay as they are. -/
theorem of_grown (h : s.Grown s') : c.Spared s s' := by
  intro hshut
  have hexists := hshut.exists
  cases c with
  | list l => exact .of_list (h.list l hexists)
  | dict d => exact .of_dict (h.dict d hexists)

end Spared

/-! ### What the store refuses -/

theorem writeList_shut (h : (Container.list l).Shut s)
    (change : List Value → Except LockError (List Value)) :
    s.writeList l change = .error .listLocked := if_neg h

theorem writeDict_shut (h : (Container.dict d).Shut s)
    (change : List (String × Value) → List (String × Value)) :
    s.writeDict d change = .error .dictLocked := if_neg h

theorem lockList_fixed (h : (Container.list l).lock s = .fixed) (lock : Lock) :
    s.lockList l lock = .error .fixedList := if_pos h

theorem lockDict_fixed (h : (Container.dict d).lock s = .fixed) (lock : Lock) :
    s.lockDict d lock = .error .fixedDict := if_pos h

/-- A list that was changed was not shut. -/
theorem Spared.writeList {change : List Value → Except LockError (List Value)}
    (h : s.writeList l change = .ok s') : c.Spared s s' := by
  intro hshut
  have hne : c ≠ .list l := by
    rintro rfl
    rw [writeList_shut hshut] at h
    cases h
  obtain ⟨-, items, -, rfl⟩ := Store.writeList_eq_ok.mp h
  exact .setList hne _

/-- A dictionary that was changed was not shut. -/
theorem Spared.writeDict {change : List (String × Value) → List (String × Value)}
    (h : s.writeDict d change = .ok s') : c.Spared s s' := by
  intro hshut
  have hne : c ≠ .dict d := by
    rintro rfl
    rw [writeDict_shut hshut] at h
    cases h
  obtain ⟨-, rfl⟩ := Store.writeDict_eq_ok.mp h
  exact .setDict hne _

/-- A change that does not concern locks leaves a shut container as it is. -/
theorem Spared.of_write (h : s.Write s') : c.Spared s s' := by
  cases h with
  | newList items => exact .of_grown (.newList items)
  | newDict entries scope => exact .of_grown (.newDict entries scope)
  | writeList l change h => exact .writeList h
  | writeDict d change h => exact .writeDict h

/-! ### Changes of locks -/

theorem contents_relockList (lock : Lock) :
    c.contents (s.setList l { s.list l with lock }) = c.contents s := by
  by_cases hc : c = .list l
  · subst hc
    simp only [contents, Store.list, Store.setList, Array.getD_eq_getD_getElem?,
      Array.getElem?_setIfInBounds, if_true]
    split
    · rfl
    · rename_i hlt
      rw [Array.getElem?_eq_none (Nat.le_of_not_lt hlt)]
  · exact (Same.setList hc _).2

theorem contents_relockDict (lock : Lock) :
    c.contents (s.setDict d { s.dict d with lock }) = c.contents s := by
  by_cases hc : c = .dict d
  · subst hc
    simp only [contents, Store.dict, Store.setDict, Array.getD_eq_getD_getElem?,
      Array.getElem?_setIfInBounds, if_true]
    split
    · rfl
    · rename_i hlt
      rw [Array.getElem?_eq_none (Nat.le_of_not_lt hlt)]
  · exact (Same.setDict hc _).2

/-- What a shut container holds stays, whatever is done, and a fixed lock does. -/
structure Guarded (s s' : Store) (c : Container) : Prop where
  contents : c.Shut s → c.contents s' = c.contents s
  fixed : c.lock s = .fixed → c.lock s' = .fixed

theorem Spared.guarded (h : c.Spared s s') : c.Guarded s s' :=
  ⟨fun hshut => (h hshut).2, fun hfixed => (h (.of_fixed hfixed)).1.trans hfixed⟩

/-- A shut container is spared, and only then something can open it. -/
theorem Spared.followed (h : c.Spared s s') (h' : c.Guarded s' s'') : c.Guarded s s'' := by
  refine ⟨fun hshut => ?_, fun hfixed => ?_⟩
  · exact (h'.contents (h.shut hshut)).trans (h hshut).2
  · exact h'.fixed ((h (.of_fixed hfixed)).1.trans hfixed)

theorem Guarded.lockList {lock : Lock} (h : s.lockList l lock = .ok s') : c.Guarded s s' := by
  obtain ⟨hlock, rfl⟩ := Store.lockList_eq_ok.mp h
  refine ⟨fun _ => contents_relockList lock, fun hfixed => ?_⟩
  have hne : c ≠ .list l := by
    rintro rfl
    exact hlock hfixed
  exact (Same.setList hne _).1.trans hfixed

theorem Guarded.lockDict {lock : Lock} (h : s.lockDict d lock = .ok s') : c.Guarded s s' := by
  obtain ⟨hlock, rfl⟩ := Store.lockDict_eq_ok.mp h
  refine ⟨fun _ => contents_relockDict lock, fun hfixed => ?_⟩
  have hne : c ≠ .dict d := by
    rintro rfl
    exact hlock hfixed
  exact (Same.setDict hne _).1.trans hfixed

/-- Whatever host code does to a container, what a shut one holds stays, and so does a fixed
lock. -/
theorem Guarded.of_step (h : s.Step s') : c.Guarded s s' := by
  cases h with
  | newList items => exact (Spared.of_write (.newList items)).guarded
  | newDict entries scope => exact (Spared.of_write (.newDict entries scope)).guarded
  | writeList l change h => exact (Spared.writeList h).guarded
  | writeDict d change h => exact (Spared.writeDict h).guarded
  | lockList l lock h => exact .lockList h
  | lockDict d lock h => exact .lockDict h

end Convert.Container

/-! ### The host interpreter -/

namespace Host.Editor

variable {c : Container} {e e' : Editor}

/-- A later editor in which a container is the same, if it was shut. -/
def Spares (c : Container) (e e' : Editor) : Prop := c.Spared e.store e'.store

/-- An edit makes new variable scopes at most. -/
theorem Edit.writes (h : e.Edit e') : Relation.ReflTransGen Store.Write e.store e'.store := by
  cases h with
  | addBuffer name lines => exact .single (.newDict [] .default)
  | split => exact .single (.newDict [] .default)
  | tab => exact .tail (.single (.newDict [] .default)) (.newDict [] .default)
  | renameBuffer | lines | wipe | closeTab | closeWindow | cursor | currentWindow | currentTab
    | showBuffer | height | width => exact .refl

theorem Edit.spares (h : e.Edit e') : Spares c e e' := by
  have hwrites (s : Store) (hs : Relation.ReflTransGen Store.Write e.store s) :
      c.Spared e.store s := by
    induction hs with
    | refl => exact .refl
    | tail _ hwrite ih => exact ih.trans (.of_write hwrite)
  exact hwrites _ h.writes

/-- Moves of the editor change the containers step by step. -/
theorem Moves.steps (h : e.Moves e') : Relation.ReflTransGen Store.Step e.store e'.store := by
  induction h with
  | refl => exact .refl
  | tail _ hmove ih =>
    cases hmove with
    | edit hedit => exact ih.trans (hedit.writes.lift id fun _ _ => Store.Write.step)
    | store hstep => exact ih.tail hstep
    | say m => exact ih
    | taken => exact ih

instance : Progress (Spares c) where
  refl _ := .refl
  trans h h' := h.trans h'
  edit h := h.spares
  store h := .of_write h
  say _ _ := .refl

end Host.Editor

end ScriptBridge
