import Mathlib.Data.List.Forall2
import Mathlib.Data.List.Perm.Subperm
import Mathlib.Logic.Relation
import ScriptBridge.Convert.ToForeign

/-!
# Graphs of containers

The containers of the editor hold each other, and so do the objects of the interpreter. A
conversion follows these edges, and what it cannot convert is what leads it into a cycle.
-/

namespace ScriptBridge

open Relation (ReflTransGen TransGen)

section Cycles

variable {α : Type} {edge : α → α → Prop} {a b : α}

/-- Edges lead to something that reaches itself. -/
def LeadsToCycle (edge : α → α → Prop) (a : α) : Prop :=
  ∃ c, ReflTransGen edge a c ∧ TransGen edge c c

theorem LeadsToCycle.head (h : edge a b) (hb : LeadsToCycle edge b) : LeadsToCycle edge a := by
  obtain ⟨c, hreach, hcycle⟩ := hb
  exact ⟨c, .head h hreach, hcycle⟩

/-- What every way from a node ends at leads to no cycle. -/
theorem not_leadsToCycle_of_acc (h : Acc (fun x y => edge y x) a) : ¬LeadsToCycle edge a := by
  induction h with
  | intro a _ ih =>
    rintro ⟨c, hreach, hcycle⟩
    obtain ⟨d, had, hdc⟩ : ∃ d, edge a d ∧ ReflTransGen edge d c := by
      rcases hreach.cases_head with rfl | hhead
      · exact TransGen.head'_iff.mp hcycle
      · exact hhead
    exact ih d had ⟨c, hdc, hcycle⟩

end Cycles

namespace Convert

open Host (Value Store)

/-- What is in one of two lists that correspond has a counterpart in the other one. -/
theorem exists_of_mem {α β : Type} {R : α → β → Prop} {xs : List α} {ys : List β} {x : α}
    (h : List.Forall₂ R xs ys) (hx : x ∈ xs) : ∃ y ∈ ys, R x y := by
  induction h with
  | nil => cases hx
  | @cons a b as bs hab _ ih =>
    rcases List.mem_cons.mp hx with rfl | hx
    · exact ⟨b, List.mem_cons_self, hab⟩
    · obtain ⟨y, hy, hxy⟩ := ih hx
      exact ⟨y, List.mem_cons_of_mem _ hy, hxy⟩

namespace Container

/-- The container that a value names. -/
def ofValue? : Value → Option Container
  | .list l => some (.list l)
  | .dict d => some (.dict d)
  | _ => none

/-- What is in a container. -/
def values (s : Store) : Container → List Value
  | .list l => (s.list l).items
  | .dict d => (s.dict d).entries.map (·.2)

/-- A container holds another one. -/
def Holds (s : Store) (c c' : Container) : Prop := ∃ v ∈ c.values s, ofValue? v = some c'

/-- A container is in the store. -/
def Exists (s : Store) : Container → Prop
  | .list l => l.id < s.lists.size
  | .dict d => d.id < s.dicts.size

/-- All containers of a store. -/
def all (s : Store) : List Container :=
  (List.range s.lists.size).map (fun i => .list ⟨i⟩) ++
    (List.range s.dicts.size).map fun i => .dict ⟨i⟩

variable {s : Store} {c : Container} {v : Value}

theorem mem_all (h : c.Exists s) : c ∈ all s := by
  cases c with
  | list l => exact List.mem_append_left _ (List.mem_map.mpr ⟨l.id, List.mem_range.mpr h, rfl⟩)
  | dict d => exact List.mem_append_right _ (List.mem_map.mpr ⟨d.id, List.mem_range.mpr h, rfl⟩)

theorem length_all (s : Store) : (all s).length = s.lists.size + s.dicts.size := by
  simp [all]

/-- A name that stands for nothing names an empty container. -/
theorem exists_of_mem_values (h : v ∈ c.values s) : c.Exists s := by
  cases c with
  | list l =>
    by_contra hnot
    have hempty : s.list l = {} := by
      unfold Store.list
      rw [Array.getD_eq_getD_getElem?, Array.getElem?_eq_none (Nat.le_of_not_lt hnot)]
      rfl
    rw [values, hempty] at h
    cases h
  | dict d =>
    by_contra hnot
    have hempty : s.dict d = {} := by
      unfold Store.dict
      rw [Array.getD_eq_getD_getElem?, Array.getElem?_eq_none (Nat.le_of_not_lt hnot)]
      rfl
    rw [values, hempty] at h
    cases h

end Container

/-- A value leads through lists and dictionaries to one of them that reaches itself. -/
def Cyclic (s : Store) (v : Value) : Prop :=
  ∃ c, Container.ofValue? v = some c ∧ LeadsToCycle (Container.Holds s) c

/-- The containers in which a value lies, while it is copied. -/
structure OnPath (s : Store) (path : List Container) (v : Value) : Prop where
  nodup : path.Nodup
  exist : ∀ c ∈ path, c.Exists s
  leads : ∀ c ∈ path, ∀ c', Container.ofValue? v = some c' →
    TransGen (Container.Holds s) c c'

namespace OnPath

variable {s : Store} {path : List Container} {v u : Value} {c : Container}

theorem nil : OnPath s [] v := ⟨List.nodup_nil, nofun, nofun⟩

/-- A path is no longer than there are containers. -/
theorem length_le (h : OnPath s path v) : path.length ≤ s.lists.size + s.dicts.size := by
  have hsubset : path ⊆ Container.all s := fun c hc => Container.mem_all (h.exist c hc)
  rw [← Container.length_all]
  exact (h.nodup.subperm hsubset).length_le

/-- A container that comes again on a path is on a cycle. -/
theorem cyclic (h : OnPath s path v) (hv : Container.ofValue? v = some c) (hc : c ∈ path) :
    Cyclic s v :=
  ⟨c, hv, c, .refl, h.leads c hc c hv⟩

/-- What is in a container lies in it and in what the container lies in. -/
theorem push (h : OnPath s path v) (hv : Container.ofValue? v = some c) (hc : c ∉ path)
    (hu : u ∈ c.values s) : OnPath s (c :: path) u := by
  refine ⟨List.nodup_cons.mpr ⟨hc, h.nodup⟩, ?_, ?_⟩
  · intro c' hc'
    rcases List.mem_cons.mp hc' with rfl | hc'
    · exact Container.exists_of_mem_values hu
    · exact h.exist c' hc'
  · intro c₁ hc₁ c₂ hc₂
    have hedge : Container.Holds s c c₂ := ⟨u, hu, hc₂⟩
    rcases List.mem_cons.mp hc₁ with rfl | hc₁
    · exact .single hedge
    · exact .tail (h.leads c₁ hc₁ c hv) hedge

end OnPath

/-- What leads to a cycle from inside of a container leads there from the container. -/
theorem Cyclic.of_mem {s : Store} {v u : Value} {c : Container}
    (hv : Container.ofValue? v = some c) (hu : u ∈ c.values s) (h : Cyclic s u) : Cyclic s v := by
  obtain ⟨c', hc', hcycle⟩ := h
  exact ⟨c, hv, .head ⟨u, hu, hc'⟩ hcycle⟩

end Convert

end ScriptBridge
