import ScriptBridge.Proofs.Foreign.Slice

/-!
# Slices in 64 bits

The bounds, the step and the length of a sequence are numbers of 64 bits, and so is every number
that comes up on the way to the positions of a slice. The positions are just those that the slice
selects, in order, and a slice in steps of one is a part of the sequence.
-/

namespace ScriptBridge.Foreign.Slice

open Text (minInt64 maxInt64 fitsInt64)

/-! ### Arithmetic on numbers of 64 bits -/

/-- The result of an operation, unless it overflows. -/
def word (n : Int) : Option Int := if fitsInt64 n then some n else none

/-- A bound within a sequence, without overflow. -/
def wordBound (s : Slice) (len past i : Int) : Option Int :=
  if i < 0 then do
    let i ← word (i + len)
    return if i < 0 then (if s.step < 0 then -1 else 0) else i
  else some (if len ≤ i then past else i)

/-- The place of a bound after the end, without overflow. -/
def wordPast (s : Slice) (len : Int) : Option Int :=
  if s.step < 0 then word (len - 1) else some len

/-- The count of positions in a gap, without overflow. -/
def wordGap (hi lo step : Int) : Option Int := do
  let gap ← word (hi - lo)
  let before ← word (gap - 1)
  let more ← word (before.tdiv step)
  word (more + 1)

/-- The count of positions from a first one to one that ends the slice, without overflow. -/
def wordCount (s : Slice) (start stop : Int) : Option Int :=
  if s.step < 0 then
    if stop < start then do wordGap start stop (← word (-s.step)) else some 0
  else if start < stop then wordGap stop start s.step
  else some 0

/-- The first position, the position that ends the slice, and the count of items, without overflow
on the way. -/
def wordAdjust (s : Slice) (len : Nat) : Option (Int × Int × Nat) := do
  let len ← word len
  let past ← s.wordPast len
  let start ← s.wordBound len past s.start
  let stop ← s.wordBound len past s.stop
  let count ← s.wordCount start stop
  return (start, stop, count.toNat)

/-- The position after `k` steps, without overflow. -/
def wordPosition (start step : Int) (k : Nat) : Option Int := do
  let way ← word ((← word k) * step)
  word (start + way)

variable {len : Nat} {start stop : Option Int} {step lo hi : Int}

theorem minInt64_eq : minInt64 = -maxInt64 - 1 := rfl

theorem maxInt64_pos : 0 < maxInt64 := by decide

theorem word_eq {n : Int} (hmin : minInt64 ≤ n) (hmax : n ≤ maxInt64) : word n = some n := by
  rw [word, fitsInt64, if_pos (by simp [hmin, hmax])]

theorem word_bind {α : Type} {n : Int} (hmin : minInt64 ≤ n) (hmax : n ≤ maxInt64)
    (f : Int → Option α) : (word n >>= f) = f n := by
  rw [word_eq hmin hmax]
  rfl

theorem cutDown_eq {n : Int} (hn : fitsInt64 n = true) : cutDown n = n := by
  rw [fitsInt64, Bool.and_eq_true, decide_eq_true_iff, decide_eq_true_iff] at hn
  unfold cutDown
  omega

theorem map_cutDown_eq {i : Option Int} (hi : ∀ n ∈ i, fitsInt64 n = true) :
    i.map cutDown = i := by
  cases i with
  | none => rfl
  | some n => exact congrArg some (cutDown_eq (hi n rfl))

/-- The bounds of a slice of 64-bit numbers are those of the script. -/
theorem unpack_eq {step : Option Int} (hstart : ∀ n ∈ start, fitsInt64 n = true)
    (hstop : ∀ n ∈ stop, fitsInt64 n = true) (hstep : ∀ n ∈ step, fitsInt64 n = true)
    (hzero : step ≠ some 0) :
    unpack start stop step = .ok (ofScript start stop (step.getD 1)) := by
  have hshape : (Object.slice start stop step).shape =
      .ok (.slice (ofScript start stop (step.getD 1))) := shape_slice hzero
  change (unpack (start.map cutDown) (stop.map cutDown) (step.map cutDown)).map Shape.slice = _
    at hshape
  rw [map_cutDown_eq hstart, map_cutDown_eq hstop, map_cutDown_eq hstep] at hshape
  cases h : unpack start stop step with
  | ok s =>
    rw [h] at hshape
    exact congrArg Except.ok (Shape.slice.inj (Except.ok.inj hshape))
  | error e =>
    rw [h] at hshape
    cases hshape

theorem ofScript_fits (start stop : Option Int) (step : Int) :
    let s := ofScript start stop step
    (minInt64 ≤ s.start ∧ s.start ≤ maxInt64) ∧ (minInt64 ≤ s.stop ∧ s.stop ≤ maxInt64) ∧
      -maxInt64 ≤ s.step ∧ s.step ≤ maxInt64 := by
  unfold ofScript cutDown minInt64 maxInt64
  dsimp only
  cases start <;> cases stop <;> split <;>
    simp only [Option.map_none, Option.map_some, Option.getD_none, Option.getD_some] <;> omega

/-- A negative bound plus a length does not overflow. -/
theorem wordBound_eq (s : Slice) (hlen : (len : Int) ≤ maxInt64) {i : Int} (hi : minInt64 ≤ i)
    (past : Int) : s.wordBound len past i = some (s.clampBound len past i) := by
  unfold wordBound clampBound
  by_cases hneg : i < 0
  · rw [if_pos hneg, if_pos hneg, word_bind (by omega) (by omega)]
    rfl
  · rw [if_neg hneg, if_neg hneg]

/-- Counting the steps over a gap does not overflow where the gap itself does not. -/
theorem wordGap_eq (hgap : lo < hi) (hle : hi - lo ≤ maxInt64) (hstep : 0 < step) :
    wordGap hi lo step = some ((hi - lo - 1).tdiv step + 1) := by
  have hmin := minInt64_eq
  have hquot : (hi - lo - 1).tdiv step ≤ hi - lo - 1 := Int.tdiv_le_self _ (by omega)
  have hnonneg : 0 ≤ (hi - lo - 1).tdiv step := Int.tdiv_nonneg (by omega) (by omega)
  rw [wordGap, word_bind (by omega) hle, word_bind (by omega) (by omega),
    word_bind (by omega) (by omega), word_eq (by omega) (by omega)]

theorem wordCount_eq (s : Slice) (hne : s.step ≠ 0) (hleast : -maxInt64 ≤ s.step) {start stop : Int}
    (hdown : start - stop ≤ maxInt64) (hup : stop - start ≤ maxInt64) :
    s.wordCount start stop = some
      (if s.step < 0 then if stop < start then (start - stop - 1).tdiv (-s.step) + 1 else 0
        else if start < stop then (stop - start - 1).tdiv s.step + 1 else 0) := by
  have hmin := minInt64_eq
  unfold wordCount
  by_cases hneg : s.step < 0
  · rw [if_pos hneg, if_pos hneg]
    split
    · rw [word_bind (by omega) (by omega), wordGap_eq ‹_› hdown (by omega)]
    · rfl
  · rw [if_neg hneg, if_neg hneg]
    split
    · rw [wordGap_eq ‹_› hup (by omega)]
    · rfl

/-- Nothing overflows on the way to the ends and the count of a slice. -/
theorem wordAdjust_ofScript (hlen : (len : Int) ≤ maxInt64) (start stop : Option Int) {step : Int}
    (hstep : step ≠ 0) :
    (ofScript start stop step).wordAdjust len = some ((ofScript start stop step).adjust len) := by
  obtain ⟨hstart, hstop, hleast, -⟩ := ofScript_fits start stop step
  obtain ⟨hfirst, hlast⟩ := clampBound_ofScript hlen start stop step
  have hfirst_mem := first_mem len start step
  have hlast_mem := last_mem len stop step
  have hne : (ofScript start stop step).step ≠ 0 := ofScript_step_ne_zero hstep
  generalize ofScript start stop step = s at *
  have hmin := minInt64_eq
  have hmax := maxInt64_pos
  have hpast : s.wordPast len = some (if s.step < 0 then (len : Int) - 1 else len) := by
    unfold wordPast
    split
    · exact word_eq (by omega) (by omega)
    · rfl
  unfold wordAdjust adjust
  rw [word_bind (by omega) hlen, hpast]
  dsimp only [Option.bind_eq_bind, Option.bind_some]
  rw [wordBound_eq s hlen hstart.1, wordBound_eq s hlen hstop.1, hfirst, hlast]
  dsimp only [Option.bind_some]
  rw [wordCount_eq s hne hleast (by omega) (by omega)]
  rfl

/-! ### What a slice selects -/

/-- A position that a slice selects: some steps after its first one, and before it reaches its
last. -/
def Selects (len : Nat) (start stop : Option Int) (step : Int) (j : Int) : Prop :=
  ∃ n : Nat, j = first len start step + n * step ∧
    if step < 0 then last len stop step < j else j < last len stop step

theorem Selects.inside {j : Int} (h : Selects len start stop step j) : 0 ≤ j ∧ j < len := by
  obtain ⟨n, rfl, hbefore⟩ := h
  have hfirst := first_mem len start step
  have hlast := last_mem len stop step
  by_cases hneg : step < 0
  · rw [if_pos hneg] at hbefore
    have hway : (n : Int) * step ≤ 0 := Int.mul_nonpos_of_nonneg_of_nonpos (by omega) (by omega)
    omega
  · rw [if_neg hneg] at hbefore
    have hway : 0 ≤ (n : Int) * step := Int.mul_nonneg (by omega) (by omega)
    omega

/-- Positions in equal steps, in order. -/
def run (lo step : Int) (count : Nat) : List Int :=
  (List.range count).map fun (k : Nat) => lo + k * step

theorem mem_run_iff (hstep : step ≠ 0) (j : Int) :
    j ∈ run (first len start step) step (steps (first len start step) (last len stop step) step) ↔
      Selects len start stop step j := by
  unfold run Selects
  rw [List.mem_map]
  constructor
  · rintro ⟨n, hn, rfl⟩
    exact ⟨n, rfl, (before_iff hstep n).mpr (List.mem_range.mp hn)⟩
  · rintro ⟨n, rfl, hbefore⟩
    exact ⟨n, List.mem_range.mpr ((before_iff hstep n).mp hbefore), rfl⟩

theorem pairwise_run (lo : Int) (hstep : step ≠ 0) (count : Nat) :
    (run lo step count).Pairwise fun i j => if step < 0 then j < i else i < j := by
  unfold run
  rw [List.pairwise_map]
  refine List.pairwise_lt_range.imp fun {m n} hlt => ?_
  have hlt : (m : Int) < n := Int.ofNat_lt.mpr hlt
  split
  · exact Int.add_lt_add_left (Int.mul_lt_mul_of_neg_right hlt ‹_›) lo
  · exact Int.add_lt_add_left (Int.mul_lt_mul_of_pos_right hlt (by omega)) lo

/-- A slice selects nothing else than the positions that it is found to have. All of them lie in the
sequence, nothing on the way to them overflows, and those of a slice in steps of one are a part of
the sequence, which is empty in front of the first position if there are none. -/
structure Found (len : Nat) (start stop : Option Int) (step : Int) (s : Slice) (lo hi : Int)
    (count : Nat) : Prop where
  adjust : s.adjust len = (lo, hi, count)
  words : s.wordAdjust len = some (lo, hi, count)
  position : ∀ k < count, wordPosition lo s.step k = some (lo + k * s.step)
  inside : ∀ k < count, 0 ≤ lo + k * s.step ∧ lo + k * s.step < len
  selects : ∀ j, j ∈ run lo s.step count ↔ Selects len start stop step j
  ordered : (run lo s.step count).Pairwise fun i j => if step < 0 then j < i else i < j
  contiguous : step = 1 → ∃ a b : Nat, s.contiguous? len = some (a, b) ∧ a ≤ b ∧ b ≤ len ∧
    (List.range' a (b - a)).map Int.ofNat = run lo s.step count ∧ (a : Int) = first len start step

/-- Walking to a position within the sequence does not overflow. -/
theorem wordPosition_eq (hlen : (len : Int) ≤ maxInt64) {k : Nat} (hk : k < len) (hlo : -1 ≤ lo)
    (hlo' : lo ≤ len) (hinside : 0 ≤ lo + k * step ∧ lo + k * step < len) :
    wordPosition lo step k = some (lo + k * step) := by
  have hmin := minInt64_eq
  rw [wordPosition, word_bind (by omega) (by omega), word_bind (by omega) (by omega),
    word_eq (by omega) (by omega)]

/-- A slice never has more positions than the sequence. -/
theorem lt_len_of_lt_steps (hstep : step ≠ 0) (hgap : gap lo hi step ≤ len) {k : Nat}
    (hk : k < steps lo hi step) : k < len := by
  have hreached := (lt_steps_iff lo hi hstep k).mp hk
  have hleast : (k : Int) * 1 ≤ k * step.natAbs :=
    Int.mul_le_mul_of_nonneg_left (by omega) (by omega)
  omega

theorem gap_first_last_le (len : Nat) (start stop : Option Int) (step : Int) :
    gap (first len start step) (last len stop step) step ≤ len := by
  have hfirst := first_mem len start step
  have hlast := last_mem len stop step
  unfold gap
  split <;> omega

theorem steps_one (a c : Nat) : steps a c 1 = max c a - a := by
  unfold steps gap
  rw [if_neg (by omega : ¬(1 : Int) < 0), Int.natAbs_one, Int.natCast_one, Int.ediv_one]
  rcases Nat.le_total c a with hle | hle
  · rw [Nat.max_eq_right hle, if_neg (by omega), Nat.sub_self]
  · rw [Nat.max_eq_left hle]
    split <;> omega

/-- In steps of one, what is taken is a part of the sequence. -/
theorem run_one (len : Nat) (start stop : Option Int) :
    ∃ a b : Nat, (a : Int) = first len start 1 ∧ b = max (last len stop 1).toNat a ∧ a ≤ b ∧
      b ≤ len ∧ (List.range' a (b - a)).map Int.ofNat =
        run (first len start 1) 1 (steps (first len start 1) (last len stop 1) 1) := by
  have hfirst := first_mem len start 1
  have hlast := last_mem len stop 1
  obtain ⟨a, ha⟩ := Int.eq_ofNat_of_zero_le (hfirst.2.2.1 (by omega))
  obtain ⟨c, hc⟩ := Int.eq_ofNat_of_zero_le (hlast.2.2.1 (by omega))
  have hle : max c a ≤ len := Nat.max_le.mpr ⟨by omega, by omega⟩
  refine ⟨a, max c a, ha.symm, by rw [hc]; rfl, Nat.le_max_right c a, hle, ?_⟩
  rw [ha, hc, steps_one, run, List.range'_eq_map_range, List.map_map]
  refine List.map_congr_left fun k _ => ?_
  simp

/-- Slices of 64-bit numbers of a sequence whose length fits 64 bits are found as scripts mean
them. -/
theorem found_of_words {step : Option Int} (hstart : ∀ n ∈ start, fitsInt64 n = true)
    (hstop : ∀ n ∈ stop, fitsInt64 n = true) (hstep : ∀ n ∈ step, fitsInt64 n = true)
    (hzero : step ≠ some 0) (hlen : (len : Int) ≤ maxInt64) :
    ∃ s lo hi count, unpack start stop step = .ok s ∧
      Found len start stop (step.getD 1) s lo hi count := by
  have hne : step.getD 1 ≠ 0 := by
    cases step with
    | none => exact Int.one_ne_zero
    | some n => exact fun h => hzero (congrArg some h)
  have hunpack := unpack_eq hstart hstop hstep hzero
  generalize step.getD 1 = step at hne hunpack ⊢
  have hgap := gap_first_last_le len start stop step
  have hne' : (ofScript start stop step).step ≠ 0 := ofScript_step_ne_zero hne
  have hgap' : gap (first len start step) (last len stop step) (ofScript start stop step).step =
      gap (first len start step) (last len stop step) step := by
    unfold gap
    simp only [ofScript_step_neg_iff]
  -- a step that was cut down leads to the same positions
  have hrun : run (first len start step) (ofScript start stop step).step
      (steps (first len start step) (last len stop step) (ofScript start stop step).step) =
        run (first len start step) step (steps (first len start step) (last len stop step) step) :=
    (map_steps_congr hne hne' hgap hgap' (ofScript_step hlen)).symm
  have hselects (j : Int) := hrun ▸ mem_run_iff hne j
  have hinside (k : Nat) (hk : k < _) :=
    ((hselects _).mp (List.mem_map_of_mem (List.mem_range.mpr hk))).inside
  have hfirst := first_mem len start step
  refine ⟨_, _, _, _, hunpack, adjust_ofScript hlen start stop step, ?_, fun k hk => ?_, hinside,
    hselects, hrun ▸ pairwise_run _ hne _, ?_⟩
  · rw [wordAdjust_ofScript hlen start stop hne, adjust_ofScript hlen start stop step]
  · exact wordPosition_eq hlen (lt_len_of_lt_steps hne' (hgap' ▸ hgap) hk) hfirst.1 hfirst.2.1
      (hinside k hk)
  · rintro rfl
    obtain ⟨a, b, ha, hb, hab, hle, hpart⟩ := run_one len start stop
    refine ⟨a, b, ?_, hab, hle, hpart.trans hrun.symm, ha⟩
    rw [contiguous_ofScript hlen start stop Int.one_ne_zero, if_pos rfl, ← ha, hb]
    rfl

/-- The longest sequence backwards, in the longest steps: the last item, and then it is over. -/
theorem found_of_words_longest :
    let len : Nat := 9223372036854775807
    (∀ n ∈ (none : Option Int), fitsInt64 n = true) ∧ (∀ n ∈ some minInt64, fitsInt64 n = true) ∧
      some minInt64 ≠ some 0 ∧ (len : Int) ≤ maxInt64 ∧
      ∃ s lo hi count, unpack none none (some minInt64) = .ok s ∧
        Found len none none minInt64 s lo hi count ∧
        lo = 9223372036854775806 ∧ hi = -1 ∧ count = 1 := by
  intro len
  have hnone : ∀ n ∈ (none : Option Int), fitsInt64 n = true := nofun
  have hstep : ∀ n ∈ some minInt64, fitsInt64 n = true := by
    rintro n ⟨⟩
    rfl
  have hzero : some minInt64 ≠ some 0 := by decide
  have hlen : (len : Int) ≤ maxInt64 := by decide
  obtain ⟨s, lo, hi, count, hs, hfound⟩ := found_of_words hnone hnone hstep hzero hlen
  refine ⟨hnone, hstep, hzero, hlen, s, lo, hi, count, hs, hfound, ?_⟩
  have hbounds : s = ⟨maxInt64, minInt64, -maxInt64⟩ := (Except.ok.inj hs).symm
  have hvalues : Slice.adjust ⟨maxInt64, minInt64, -maxInt64⟩ len =
      (9223372036854775806, -1, 1) := by decide
  have hadjust := hfound.adjust
  rw [hbounds, hvalues] at hadjust
  cases hadjust
  exact ⟨rfl, rfl, rfl⟩

end ScriptBridge.Foreign.Slice
