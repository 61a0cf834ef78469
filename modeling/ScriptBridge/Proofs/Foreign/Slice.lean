import Mathlib.Data.List.Basic
import ScriptBridge.Foreign.Shape

/-!
# What slices take

A slice that a script writes starts at a position and goes on in equal steps, until it reaches the
position before which it stops. Bounds outside of the sequence are moved to its nearest end. The
interpreter cuts bounds and steps down to 64 bits first, which changes nothing for a sequence that
can be counted in 64 bits.
-/

namespace ScriptBridge.Foreign.Slice

open Text (minInt64 maxInt64)

/-! ### Slices as scripts write them -/

/-- A position in a sequence of `len` items, moved to the nearest of `least` and `most` if it is
outside of them. A negative one counts from the end. -/
def nearest (len : Nat) (least most i : Int) : Int :=
  max least (min most (if i < 0 then i + len else i))

/-- The position at which a slice starts. -/
def first (len : Nat) (start : Option Int) (step : Int) : Int :=
  if step < 0 then (start.map (nearest len (-1) (len - 1))).getD (len - 1)
  else (start.map (nearest len 0 len)).getD 0

/-- The position before which a slice stops. -/
def last (len : Nat) (stop : Option Int) (step : Int) : Int :=
  if step < 0 then (stop.map (nearest len (-1) (len - 1))).getD (-1)
  else (stop.map (nearest len 0 len)).getD len

/-- The positions from `lo` on in equal steps, as long as `hi` is not reached. There are no more
than `len`. -/
def walk (len : Nat) (lo hi step : Int) : List Int :=
  ((List.range len).map fun (n : Nat) => lo + n * step).takeWhile fun j =>
    if step < 0 then hi < j else j < hi

/-- The positions that a slice takes from a sequence of `len` items. -/
def taken (len : Nat) (start stop : Option Int) (step : Int) : List Nat :=
  (walk len (first len start step) (last len stop step) step).map Int.toNat

example : taken 5 none none (-2) = [4, 2, 0] := by decide

example : taken 5 (some (-2)) (some 9) 1 = [3, 4] := by decide

variable {len : Nat} {start stop : Option Int} {step lo hi : Int}

/-- Both ends of a slice are inside of the sequence, or next to it. -/
theorem first_mem (len : Nat) (start : Option Int) (step : Int) :
    -1 ≤ first len start step ∧ first len start step ≤ len ∧ (0 ≤ step → 0 ≤ first len start step) ∧
      (step < 0 → first len start step < len) := by
  unfold first nearest
  split <;> cases start <;> simp only [Option.map_none, Option.map_some, Option.getD_none,
    Option.getD_some] <;> omega

theorem last_mem (len : Nat) (stop : Option Int) (step : Int) :
    -1 ≤ last len stop step ∧ last len stop step ≤ len ∧ (0 ≤ step → 0 ≤ last len stop step) ∧
      (step < 0 → last len stop step < len) := by
  unfold last nearest
  split <;> cases stop <;> simp only [Option.map_none, Option.map_some, Option.getD_none,
    Option.getD_some] <;> omega

/-! ### Counting the steps -/

/-- How far a slice goes, in the direction of its steps. -/
def gap (lo hi step : Int) : Int := if step < 0 then lo - hi else hi - lo

/-- How many positions a slice takes. -/
def steps (lo hi step : Int) : Nat :=
  if 0 < gap lo hi step then ((gap lo hi step - 1) / step.natAbs + 1).toNat else 0

/-- A step is made exactly if it does not reach the end. -/
theorem lt_steps_iff (lo hi : Int) (hstep : step ≠ 0) (n : Nat) :
    n < steps lo hi step ↔ (n : Int) * step.natAbs < gap lo hi step := by
  have hpos : 0 < (step.natAbs : Int) := by omega
  have hnonneg : 0 ≤ (n : Int) * step.natAbs := Int.mul_nonneg (by omega) (by omega)
  unfold steps
  generalize gap lo hi step = g
  by_cases hg : 0 < g
  · have hquot : 0 ≤ (g - 1) / step.natAbs := Int.ediv_nonneg (by omega) (by omega)
    have hle := Int.le_ediv_iff_mul_le (a := n) (b := g - 1) hpos
    rw [if_pos hg]
    constructor
    · intro h
      have := hle.mp (by omega)
      omega
    · intro h
      have := hle.mpr (by omega)
      omega
  · rw [if_neg hg]
    omega

/-- A slice has not reached its end exactly as long as there are steps to make. -/
theorem before_iff (hstep : step ≠ 0) (n : Nat) :
    (if step < 0 then hi < lo + n * step else lo + n * step < hi) ↔ n < steps lo hi step := by
  rw [lt_steps_iff lo hi hstep]
  unfold gap
  split
  · rw [Int.ofNat_natAbs_of_nonpos (by omega), Int.mul_neg]
    omega
  · rw [Int.natAbs_of_nonneg (by omega)]
    omega

theorem takeWhile_range {α : Type} (f : Nat → α) (p : α → Bool) {n m : Nat} (hle : m ≤ n)
    (hp : ∀ k, p (f k) = true ↔ k < m) :
    ((List.range n).map f).takeWhile p = (List.range m).map f := by
  obtain ⟨k, rfl⟩ := Nat.exists_eq_add_of_le hle
  have hbefore : ∀ x ∈ (List.range m).map f, p x = true := by
    intro x hx
    obtain ⟨i, hi, rfl⟩ := List.mem_map.mp hx
    exact (hp i).mpr (List.mem_range.mp hi)
  rw [List.range_add, List.map_append, List.takeWhile_append_of_pos hbefore]
  cases k with
  | zero => simp
  | succ k =>
    rw [List.range_succ_eq_map, List.map_cons, List.map_cons, List.takeWhile_cons_of_neg]
    · simp
    · rw [hp]
      omega

theorem walk_eq (hstep : step ≠ 0) (hgap : gap lo hi step ≤ len) :
    walk len lo hi step = (List.range (steps lo hi step)).map fun (n : Nat) => lo + n * step := by
  have hle : steps lo hi step ≤ len := by
    by_contra hlt
    have hreached := (lt_steps_iff lo hi hstep len).mp (by omega)
    have hleast : (len : Int) * 1 ≤ len * step.natAbs :=
      Int.mul_le_mul_of_nonneg_left (by omega) (by omega)
    omega
  refine takeWhile_range _ _ hle fun n => ?_
  rw [← before_iff hstep n]
  split <;> simp

/-- Steps that all lead out of the sequence are as good as each other. -/
theorem map_steps_congr {step' : Int} (hstep : step ≠ 0) (hstep' : step' ≠ 0)
    (hgap : gap lo hi step ≤ len) (hgap' : gap lo hi step' = gap lo hi step)
    (hfar : step' = step ∨ (len : Int) ≤ step.natAbs ∧ (len : Int) ≤ step'.natAbs) :
    (List.range (steps lo hi step)).map (fun (n : Nat) => lo + n * step) =
      (List.range (steps lo hi step')).map fun (n : Nat) => lo + n * step' := by
  rcases hfar with rfl | ⟨hfar, hfar'⟩
  · rfl
  have hone {s : Int} (hs : s ≠ 0) (hsgap : gap lo hi s ≤ len) (hlen : (len : Int) ≤ s.natAbs) :
      (List.range (steps lo hi s)).map (fun (n : Nat) => lo + n * s) =
        if 0 < gap lo hi s then [lo] else [] := by
    have hzero := lt_steps_iff lo hi hs 0
    have hnext := lt_steps_iff lo hi hs 1
    split
    · have hsteps : steps lo hi s = 1 := by omega
      simp [hsteps]
    · have hsteps : steps lo hi s = 0 := by omega
      simp [hsteps]
  rw [hone hstep hgap hfar, hone hstep' (hgap' ▸ hgap) hfar', hgap']

/-! ### Slices as the interpreter hands them over -/

/-- A number, moved to the nearest end of the 64-bit numbers. -/
def cutDown (n : Int) : Int := max minInt64 (min maxInt64 n)

/-- The bounds of a slice with a step, cut down to 64 bits. -/
def ofScript (start stop : Option Int) (step : Int) : Slice where
  start := (start.map cutDown).getD (if step < 0 then maxInt64 else 0)
  stop := (stop.map cutDown).getD (if step < 0 then minInt64 else maxInt64)
  step := max (cutDown step) (-maxInt64)

theorem getD_map_cutDown (i : Option Int) {n : Int} (hn : cutDown n = n) :
    (i.map cutDown).getD n = cutDown (i.getD n) := by
  cases i with
  | none => exact hn.symm
  | some j => rfl

theorem ofScript_step_neg_iff : (ofScript start stop step).step < 0 ↔ step < 0 := by
  unfold ofScript cutDown minInt64 maxInt64
  dsimp only
  omega

theorem ofScript_step_ne_zero (hstep : step ≠ 0) : (ofScript start stop step).step ≠ 0 := by
  unfold ofScript cutDown minInt64 maxInt64
  dsimp only
  omega

/-- Cutting a step down matters only for steps that lead out of the sequence. -/
theorem ofScript_step (hlen : (len : Int) ≤ maxInt64) : (ofScript start stop step).step = step ∨
    (len : Int) ≤ step.natAbs ∧ (len : Int) ≤ (ofScript start stop step).step.natAbs := by
  by_cases hfits : -maxInt64 ≤ step ∧ step ≤ maxInt64
  · left
    unfold ofScript cutDown
    unfold minInt64 maxInt64 at *
    dsimp only
    omega
  · right
    unfold ofScript cutDown
    unfold minInt64 maxInt64 at *
    dsimp only
    omega

theorem ofScript_step_eq_one_iff : (ofScript start stop step).step = 1 ↔ step = 1 := by
  unfold ofScript cutDown minInt64 maxInt64
  dsimp only
  omega

/-- The step of a slice that gives none is one. -/
theorem getD_step_ne_zero {step : Option Int} (hstep : step ≠ some 0) : step.getD 1 ≠ 0 := by
  cases step with
  | none => exact Int.one_ne_zero
  | some n => exact fun h => hstep (congrArg some h)

theorem shape_slice {step : Option Int} (hstep : step ≠ some 0) :
    (Object.slice start stop step).shape = .ok (.slice (ofScript start stop (step.getD 1))) := by
  have hne := getD_step_ne_zero hstep
  have hcutne : cutDown (step.getD 1) ≠ 0 := by
    unfold cutDown minInt64 maxInt64
    omega
  have hneg : cutDown (step.getD 1) < 0 ↔ step.getD 1 < 0 := by
    unfold cutDown minInt64 maxInt64
    omega
  change (unpack (start.map cutDown) (stop.map cutDown) (step.map cutDown)).map Shape.slice = _
  unfold unpack ofScript
  rw [getD_map_cutDown step (by decide), if_neg hcutne]
  simp only [hneg]
  rfl

theorem shape_slice_zero : (Object.slice start stop (some 0)).shape = .error zeroStep := rfl

section

variable (hlen : (len : Int) ≤ maxInt64)

include hlen

/-- A bound that was cut down is found where the script has put it. -/
theorem clampBound_forwards {s : Slice} (hstep : ¬s.step < 0) (i : Int) :
    s.clampBound len len (cutDown i) = nearest len 0 len i := by
  unfold clampBound cutDown nearest minInt64
  unfold maxInt64 at hlen ⊢
  rw [if_neg hstep]
  omega

theorem clampBound_backwards {s : Slice} (hstep : s.step < 0) (i : Int) :
    s.clampBound len (len - 1) (cutDown i) = nearest len (-1) (len - 1) i := by
  unfold clampBound cutDown nearest minInt64
  unfold maxInt64 at hlen ⊢
  rw [if_pos hstep]
  omega

omit hlen in
/-- How the interpreter counts the positions of a slice. -/
theorem steps_eq (lo hi step : Int) : steps lo hi step =
    (if step < 0 then if hi < lo then (lo - hi - 1).tdiv (-step) + 1 else 0
      else if lo < hi then (hi - lo - 1).tdiv step + 1 else 0).toNat := by
  unfold steps gap
  by_cases hneg : step < 0
  · rw [if_pos hneg, if_pos hneg, Int.ofNat_natAbs_of_nonpos (by omega)]
    by_cases hlt : hi < lo
    · rw [if_pos (by omega), if_pos hlt, Int.tdiv_eq_ediv_of_nonneg (by omega)]
    · rw [if_neg (by omega), if_neg hlt]
      rfl
  · rw [if_neg hneg, if_neg hneg, Int.natAbs_of_nonneg (by omega)]
    by_cases hlt : lo < hi
    · rw [if_pos (by omega), if_pos hlt, Int.tdiv_eq_ediv_of_nonneg (by omega)]
    · rw [if_neg (by omega), if_neg hlt]
      rfl

/-- A bound that is missing is outside of the sequence. -/
theorem first_eq_nearest (start : Option Int) (step : Int) : first len start step =
    if step < 0 then nearest len (-1) (len - 1) (start.getD maxInt64)
    else nearest len 0 len (start.getD 0) := by
  unfold first
  cases start with
  | some i => rfl
  | none =>
    unfold nearest
    unfold maxInt64 at hlen ⊢
    simp only [Option.map_none, Option.getD_none]
    split <;> omega

theorem last_eq_nearest (stop : Option Int) (step : Int) : last len stop step =
    if step < 0 then nearest len (-1) (len - 1) (stop.getD minInt64)
    else nearest len 0 len (stop.getD maxInt64) := by
  unfold last
  cases stop with
  | some i => rfl
  | none =>
    unfold nearest minInt64
    unfold maxInt64 at hlen ⊢
    simp only [Option.map_none, Option.getD_none]
    split <;> omega

/-- A slice of the interpreter starts and stops where that of the script does. -/
theorem clampBound_ofScript (start stop : Option Int) (step : Int) :
    let s := ofScript start stop step
    let past : Int := if s.step < 0 then len - 1 else len
    s.clampBound len past s.start = first len start step ∧
      s.clampBound len past s.stop = last len stop step := by
  intro s past
  have hstart : s.start = (start.map cutDown).getD (if step < 0 then maxInt64 else 0) := rfl
  have hstop : s.stop = (stop.map cutDown).getD (if step < 0 then minInt64 else maxInt64) := rfl
  rw [hstart, hstop, first_eq_nearest hlen, last_eq_nearest hlen]
  by_cases hneg : step < 0
  · have hstep : s.step < 0 := ofScript_step_neg_iff.mpr hneg
    have hpast : past = (len : Int) - 1 := if_pos hstep
    simp only [if_pos hneg]
    rw [hpast, getD_map_cutDown _ (by decide), getD_map_cutDown _ (by decide)]
    exact ⟨clampBound_backwards hlen hstep _, clampBound_backwards hlen hstep _⟩
  · have hstep : ¬s.step < 0 := ofScript_step_neg_iff.not.mpr hneg
    have hpast : past = (len : Int) := if_neg hstep
    simp only [if_neg hneg]
    rw [hpast, getD_map_cutDown _ (by decide), getD_map_cutDown _ (by decide)]
    exact ⟨clampBound_forwards hlen hstep _, clampBound_forwards hlen hstep _⟩

theorem adjust_ofScript (start stop : Option Int) (step : Int) :
    (ofScript start stop step).adjust len = (first len start step, last len stop step,
      steps (first len start step) (last len stop step) (ofScript start stop step).step) := by
  obtain ⟨hfirst, hlast⟩ := clampBound_ofScript hlen start stop step
  unfold adjust
  dsimp only at hfirst hlast ⊢
  rw [hfirst, hlast, steps_eq]

/-- A slice takes the positions that the script has asked for. -/
theorem positions_ofScript (start stop : Option Int) {step : Int} (hstep : step ≠ 0) :
    (ofScript start stop step).positions len = taken len start stop step := by
  have hstep' : (ofScript start stop step).step ≠ 0 := ofScript_step_ne_zero hstep
  have hneg : (ofScript start stop step).step < 0 ↔ step < 0 := ofScript_step_neg_iff
  have hgap : gap (first len start step) (last len stop step) step ≤ len := by
    have hfirst := first_mem len start step
    have hlast := last_mem len stop step
    unfold gap
    split <;> omega
  have hgap' : gap (first len start step) (last len stop step) (ofScript start stop step).step =
      gap (first len start step) (last len stop step) step := by
    unfold gap
    simp only [hneg]
  unfold positions taken
  rw [adjust_ofScript hlen, walk_eq hstep hgap,
    map_steps_congr hstep hstep' hgap hgap' (ofScript_step hlen), List.map_map]
  rfl

/-- A slice in steps of one takes a part of a sequence; any other one cannot be replaced. -/
theorem contiguous_ofScript (start stop : Option Int) {step : Int} (hstep : step ≠ 0) :
    (ofScript start stop step).contiguous? len =
      if step = 1 then some ((first len start 1).toNat,
        max (last len stop 1).toNat (first len start 1).toNat)
      else none := by
  have hone : (ofScript start stop step).step = 1 ↔ step = 1 := ofScript_step_eq_one_iff
  unfold contiguous?
  rw [adjust_ofScript hlen]
  by_cases h : step = 1
  · subst h
    rw [if_pos rfl, if_neg (not_not_intro (hone.mpr rfl))]
  · rw [if_neg h, if_pos (hone.not.mpr h)]

end

end ScriptBridge.Foreign.Slice
