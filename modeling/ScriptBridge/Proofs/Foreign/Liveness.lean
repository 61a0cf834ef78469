import Mathlib.Data.List.Basic
import ScriptBridge.Foreign.Object

/-!
# What liveness means

The objects that are alive are the greatest set in which each object is referred to by a root or by
an object of the set. The rounds that drop objects end with this set, since each round but the last
drops at least one.
-/

namespace ScriptBridge.Foreign.Objects

variable {o : Objects} {roots refs : List ObjRef} {marks : Array Bool} {r : ObjRef}

/-- An object carries a mark. -/
def Marked (marks : Array Bool) (r : ObjRef) : Prop := marks.getD r.id false = true

/-- A root, or an object with a mark, refers to an object. -/
def Referred (o : Objects) (roots : List ObjRef) (marked : ObjRef → Prop) (r : ObjRef) : Prop :=
  r.id < o.cells.size ∧ (r ∈ roots ∨ ∃ s, marked s ∧ r ∈ o.references s)

theorem size_mark : (mark marks refs).size = marks.size := by
  unfold mark
  induction refs generalizing marks with
  | nil => rfl
  | cons r refs ih => rw [List.foldl_cons, ih, Array.size_setIfInBounds]

theorem marked_lt_size (h : Marked marks r) : r.id < marks.size := by
  by_contra hlt
  simp [Marked, Array.getD, hlt] at h

theorem marked_setIfInBounds {s : ObjRef} :
    Marked (marks.setIfInBounds s.id true) r ↔ Marked marks r ∨ (r = s ∧ r.id < marks.size) := by
  unfold Marked
  simp only [Array.getD_eq_getD_getElem?, Array.getElem?_setIfInBounds]
  by_cases hrs : s.id = r.id
  · have : r = s := by cases r; cases s; simp_all
    subst this
    by_cases hlt : r.id < marks.size
    · simp [hlt]
    · simp [hlt]
  · have : r ≠ s := fun h => hrs (h ▸ rfl)
    simp [hrs, this]

theorem marked_mark :
    Marked (mark marks refs) r ↔ Marked marks r ∨ (r ∈ refs ∧ r.id < marks.size) := by
  unfold mark
  induction refs generalizing marks with
  | nil => simp
  | cons s refs ih =>
    rw [List.foldl_cons, ih, marked_setIfInBounds, Array.size_setIfInBounds, List.mem_cons,
      or_and_right, or_assoc]

/-- One round of marking, over some of the cells. -/
theorem marked_round {cells : List Nat} (start : Array Bool) :
    let round := cells.foldl
      (fun m i => if marks.getD i false then mark m (o.references ⟨i⟩) else m) start
    round.size = start.size ∧ (Marked round r ↔ Marked start r ∨
      (r.id < start.size ∧ ∃ i ∈ cells, Marked marks ⟨i⟩ ∧ r ∈ o.references ⟨i⟩)) := by
  induction cells generalizing start with
  | nil => simp
  | cons i cells ih =>
    rw [List.foldl_cons]
    by_cases hi : marks.getD i false = true
    · rw [if_pos hi]
      obtain ⟨hsize, hround⟩ := ih (mark start (o.references ⟨i⟩))
      have hmarked : Marked marks ⟨i⟩ := hi
      refine ⟨hsize.trans size_mark, hround.trans ?_⟩
      rw [marked_mark, size_mark, List.exists_mem_cons_iff]
      constructor
      · rintro ((h | ⟨href, hlt⟩) | ⟨hlt, h⟩)
        · exact .inl h
        · exact .inr ⟨hlt, .inl ⟨hmarked, href⟩⟩
        · exact .inr ⟨hlt, .inr h⟩
      · rintro (h | ⟨hlt, ⟨-, href⟩ | h⟩)
        · exact .inl (.inl h)
        · exact .inl (.inr ⟨href, hlt⟩)
        · exact .inr ⟨hlt, h⟩
    · rw [if_neg hi]
      obtain ⟨hsize, hround⟩ := ih start
      have hmarked : ¬ Marked marks ⟨i⟩ := hi
      refine ⟨hsize, hround.trans ?_⟩
      have hskip : ¬ (Marked marks ⟨i⟩ ∧ r ∈ o.references ⟨i⟩) := fun h => hmarked h.1
      rw [List.exists_mem_cons_iff, or_iff_right hskip]

theorem size_referred : (o.referred roots marks).size = o.cells.size := by
  unfold referred
  rw [(marked_round _ (r := ⟨0⟩)).1, size_mark, Array.size_replicate]

/-- A round marks what the roots and the marked objects refer to. -/
theorem marked_referred (hsize : marks.size = o.cells.size) :
    Marked (o.referred roots marks) r ↔ o.Referred roots (Marked marks) r := by
  have hnone : ¬ Marked (Array.replicate o.cells.size false) r := by
    unfold Marked
    rw [Array.getD_eq_getD_getElem?, Array.getElem?_replicate]
    split <;> simp
  unfold referred
  rw [(marked_round _).2, marked_mark, size_mark, Array.size_replicate]
  constructor
  · rintro ((h | ⟨hroot, hlt⟩) | ⟨hlt, i, -, hmarked, href⟩)
    · exact absurd h hnone
    · exact ⟨hlt, .inl hroot⟩
    · exact ⟨hlt, .inr ⟨_, hmarked, href⟩⟩
  · rintro ⟨hlt, hroot | ⟨s, hmarked, href⟩⟩
    · exact .inl (.inr ⟨hroot, hlt⟩)
    · have hs : s.id < o.cells.size := hsize ▸ marked_lt_size hmarked
      exact .inr ⟨hlt, s.id, List.mem_range.mpr hs, hmarked, href⟩

/-- Both of two arrays of one size carry a mark. -/
theorem marked_zipWith {other : Array Bool} (hsize : other.size = marks.size) :
    Marked (other.zipWith (· && ·) marks) r ↔ Marked other r ∧ Marked marks r := by
  unfold Marked
  simp only [Array.getD_eq_getD_getElem?, Array.getElem?_zipWith]
  by_cases hlt : r.id < marks.size
  · rw [Array.getElem?_eq_getElem (hsize ▸ hlt), Array.getElem?_eq_getElem hlt]
    simp
  · rw [Array.getElem?_eq_none (by omega), Array.getElem?_eq_none (by omega)]
    simp

/-- Intersecting drops a mark unless it changes nothing. -/
theorem count_zipWith_lt (l m : List Bool) (hlength : l.length = m.length) :
    (l.zipWith (· && ·) m).count true ≤ m.count true ∧
      ((l.zipWith (· && ·) m) = m ∨ (l.zipWith (· && ·) m).count true < m.count true) := by
  induction l generalizing m with
  | nil =>
    cases m with
    | nil => simp
    | cons y m => simp at hlength
  | cons x l ih =>
    cases m with
    | nil => simp at hlength
    | cons y m =>
      obtain ⟨hle, heq | hlt⟩ := ih m (by simpa using hlength)
      · rw [List.zipWith_cons_cons, heq]
        cases x <;> cases y <;> simp
      · rw [List.zipWith_cons_cons]
        cases x <;> cases y <;> simp <;> omega

/-- Dropping keeps each set in which every object is referred to. -/
theorem marked_keepReferred {kept : ObjRef → Prop} (hkept : ∀ r, kept r → o.Referred roots kept r)
    (n : Nat) (marks : Array Bool) (hsize : marks.size = o.cells.size)
    (hmarked : ∀ r, kept r → Marked marks r) (r : ObjRef) (hr : kept r) :
    Marked (o.keepReferred roots n marks) r := by
  induction n generalizing marks with
  | zero => exact hmarked r hr
  | succ n ih =>
    rw [keepReferred]
    split
    · exact hmarked r hr
    · refine ih _ (by simp [size_referred, hsize]) fun s hs => ?_
      rw [marked_zipWith (size_referred.trans hsize.symm), marked_referred hsize]
      obtain ⟨hlt, hreferred⟩ := hkept s hs
      refine ⟨⟨hlt, hreferred.imp_right ?_⟩, hmarked s hs⟩
      exact fun ⟨t, ht, href⟩ => ⟨t, hmarked t ht, href⟩

/-- With more rounds than marks, dropping ends with a set in which every object is referred to. -/
theorem referred_keepReferred (n : Nat) (marks : Array Bool) (hsize : marks.size = o.cells.size)
    (hcount : marks.toList.count true < n) {r : ObjRef}
    (hr : Marked (o.keepReferred roots n marks) r) :
    o.Referred roots (Marked (o.keepReferred roots n marks)) r := by
  induction n generalizing marks with
  | zero => omega
  | succ n ih =>
    rw [keepReferred] at hr ⊢
    split at hr
    · rename_i hsame
      rw [if_pos hsame]
      have hr' := hsame ▸ hr
      rw [marked_zipWith (size_referred.trans hsize.symm), marked_referred hsize] at hr'
      exact hr'.1
    · rename_i hchanged
      rw [if_neg hchanged]
      refine ih _ (by simp [size_referred, hsize]) ?_ hr
      have hlength : (o.referred roots marks).toList.length = marks.toList.length := by
        simp [size_referred, hsize]
      obtain ⟨-, hsame | hlt⟩ := count_zipWith_lt _ _ hlength
      · exact absurd (Array.toList_inj.mp (by simpa using hsame)) hchanged
      · rw [Array.toList_zipWith]
        omega

/-- An object is alive. -/
def Alive (o : Objects) (roots : List ObjRef) (r : ObjRef) : Prop := o.isAlive roots r = true

/-- What is alive is an object that a root refers to, or another object that is alive. -/
theorem Alive.referred (h : o.Alive roots r) : o.Referred roots (o.Alive roots) r := by
  refine referred_keepReferred (o.cells.size + 1) _ (Array.size_replicate ..) ?_ h
  rw [Array.toList_replicate, List.count_replicate_self]
  exact Nat.lt_succ_self _

/-- Every set in which each object is referred to is alive. -/
theorem alive_of_referred (kept : ObjRef → Prop) (hkept : ∀ r, kept r → o.Referred roots kept r)
    (hr : kept r) : o.Alive roots r := by
  refine marked_keepReferred hkept _ _ (Array.size_replicate ..) (fun s hs => ?_) r hr
  simp [Marked, (hkept s hs).1]

/-- A root is alive. -/
theorem alive_of_mem_roots (hlt : r.id < o.cells.size) (hr : r ∈ roots) : o.Alive roots r :=
  alive_of_referred (fun s => s = r ∨ o.Alive roots s)
    (by
      rintro s (rfl | hs)
      · exact ⟨hlt, .inl hr⟩
      · obtain ⟨hlt, hreferred⟩ := hs.referred
        exact ⟨hlt, hreferred.imp_right fun ⟨t, ht, href⟩ => ⟨t, .inr ht, href⟩⟩)
    (.inl rfl)

/-- What an object that is alive refers to is alive. -/
theorem Alive.of_mem_references {s : ObjRef} (hs : o.Alive roots s) (hlt : r.id < o.cells.size)
    (hr : r ∈ o.references s) : o.Alive roots r :=
  alive_of_referred (fun t => t = r ∨ o.Alive roots t)
    (by
      rintro t (rfl | ht)
      · exact ⟨hlt, .inr ⟨s, .inr hs, hr⟩⟩
      · obtain ⟨hlt, hreferred⟩ := ht.referred
        exact ⟨hlt, hreferred.imp_right fun ⟨u, hu, href⟩ => ⟨u, .inr hu, href⟩⟩)
    (.inl rfl)

/-- No object comes back to life: as long as roots and objects only get references to objects that
are alive, an object that is alive later was alive before. -/
theorem Alive.before {o' : Objects} {roots' : List ObjRef}
    (hroots : ∀ s ∈ roots', s.id < o.cells.size → o.Alive roots s)
    (hreferences : ∀ t, ∀ s ∈ o'.references t, s.id < o.cells.size →
      (t.id < o.cells.size ∧ s ∈ o.references t) ∨ o.Alive roots s)
    (hlt : r.id < o.cells.size) (h : o'.Alive roots' r) : o.Alive roots r := by
  refine alive_of_referred
    (fun s => s.id < o.cells.size ∧ (o'.Alive roots' s ∨ o.Alive roots s)) ?_ ⟨hlt, .inl h⟩
  have hold {s : ObjRef} (hs : o.Alive roots s) : o.Referred roots
      (fun s => s.id < o.cells.size ∧ (o'.Alive roots' s ∨ o.Alive roots s)) s := by
    obtain ⟨hlt, hreferred⟩ := hs.referred
    exact ⟨hlt, hreferred.imp_right fun ⟨t, ht, href⟩ => ⟨t, ⟨ht.referred.1, .inr ht⟩, href⟩⟩
  rintro s ⟨hlt, hs | hs⟩
  · obtain ⟨-, hroot | ⟨t, ht, href⟩⟩ := hs.referred
    · exact hold (hroots s hroot hlt)
    · rcases hreferences t s href hlt with ⟨htlt, href⟩ | hs
      · exact ⟨hlt, .inr ⟨t, ⟨htlt, .inl ht⟩, href⟩⟩
      · exact hold hs
  · exact hold hs

end ScriptBridge.Foreign.Objects
