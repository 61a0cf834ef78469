import Mathlib.Data.List.Nodup

/-!
# Lists with distinct keys

Finding, changing and removing the one element of a list that has a key.
-/

namespace ScriptBridge.Lookup

variable {α κ : Type} {key : α → κ} {k : κ} {a : α} {l : List α}

/-- Changing elements without changing their keys keeps the keys. -/
theorem map_key_map (f : α → α) (hf : ∀ a, key (f a) = key a) :
    (l.map f).map key = l.map key := by
  rw [List.map_map]
  exact List.map_congr_left fun a _ => hf a

variable [DecidableEq κ]

/-- An element is found under its key when it is the only one with that key. -/
theorem find?_eq_some_iff (hnodup : (l.map key).Nodup) :
    l.find? (key · == k) = some a ↔ a ∈ l ∧ key a = k := by
  constructor
  · intro h
    exact ⟨List.mem_of_find?_eq_some h, by simpa using List.find?_some h⟩
  · rintro ⟨ha, rfl⟩
    obtain ⟨b, hb⟩ : ∃ b, l.find? (key · == key a) = some b := by
      rw [← Option.isSome_iff_exists, List.find?_isSome]
      exact ⟨a, ha, by simp⟩
    have hkey : key b = key a := by simpa using List.find?_some hb
    rw [hb, List.inj_on_of_nodup_map hnodup (List.mem_of_find?_eq_some hb) ha hkey]

/-- A key is found exactly when it occurs. -/
theorem isSome_find?_iff : (l.find? (key · == k)).isSome ↔ k ∈ l.map key := by
  simp [List.find?_isSome]

/-- An element with another key is missing exactly if there is no other element. -/
theorem find?_ne_eq_none_iff (hnodup : (l.map key).Nodup) (ha : a ∈ l) (hk : key a = k) :
    l.find? (key · != k) = none ↔ l.length = 1 := by
  rw [List.find?_eq_none]
  constructor
  · intro hall
    have hreplicate : l.map key = List.replicate l.length k := by
      rw [List.eq_replicate_iff, List.length_map]
      exact ⟨rfl, by simpa using hall⟩
    rw [hreplicate, List.nodup_replicate] at hnodup
    have hpos := List.length_pos_of_mem ha
    omega
  · intro hone
    obtain ⟨b, rfl⟩ := List.length_eq_one_iff.mp hone
    rw [List.mem_singleton] at ha
    simp [← ha, hk]

/-- Changing the element with one key changes one place of the list. -/
theorem exists_split (hnodup : (l.map key).Nodup) (ha : a ∈ l) :
    ∃ before after, l = before ++ a :: after ∧
      ∀ f : α → α, (l.map fun b => if key b = key a then f b else b) =
        before ++ f a :: after := by
  obtain ⟨before, after, rfl⟩ := List.append_of_mem ha
  refine ⟨before, after, rfl, fun f => ?_⟩
  rw [List.map_append, List.map_cons, List.nodup_append] at hnodup
  obtain ⟨-, hafter, hbefore⟩ := hnodup
  have hb : ∀ b ∈ before, key b ≠ key a := fun b hb =>
    hbefore _ (List.mem_map_of_mem hb) _ List.mem_cons_self
  have hc : ∀ b ∈ after, key b ≠ key a := fun b hb heq =>
    (List.nodup_cons.mp hafter).1 (heq ▸ List.mem_map_of_mem hb)
  rw [List.map_append, List.map_cons, if_pos rfl]
  congr 1
  · exact (List.map_congr_left fun b h => if_neg (hb b h)).trans (List.map_id _)
  · congr 1
    exact (List.map_congr_left fun b h => if_neg (hc b h)).trans (List.map_id _)

/-- What is looked up in a list of pairs is one of them. -/
theorem mem_of_lookup {entries : List (κ × α)} (h : entries.lookup k = some a) :
    (k, a) ∈ entries := by
  obtain ⟨before, after, rfl, -⟩ := List.lookup_eq_some_iff.mp h
  simp

end ScriptBridge.Lookup
