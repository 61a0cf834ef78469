import ScriptBridge.Error
import ScriptBridge.Text.Integer

/-!
# Slices

A slice takes every `step`-th item from `start` up to `stop`. Negative bounds count from the end
of the sequence, and bounds outside of it are cut down to it.

A range object counts off numbers from a first one on in equal steps, short of a last one. They are
not bounded, and neither is a part of them that a slice takes.
-/

namespace ScriptBridge.Foreign

/-- The bounds of a slice, with defaults filled in, before the length of the sequence is known. -/
structure Slice where
  start : Int
  stop : Int
  step : Int
deriving DecidableEq

namespace Slice

open Text (minInt64 maxInt64)

/-- The failure of a slice with step zero. -/
def zeroStep : ForeignError := .exception .value "slice step cannot be zero"

/-- Fills in the bounds that are missing: the whole sequence in the direction of the step. -/
def unpack (start stop step : Option Int) : Except ForeignError Slice :=
  let step := step.getD 1
  if step = 0 then .error zeroStep
  else
    let backwards := step < 0
    .ok { start := start.getD (if backwards then maxInt64 else 0)
          stop := stop.getD (if backwards then minInt64 else maxInt64)
          step := max step (-maxInt64) }

/-- A bound within a sequence of `len` items; `past` stands for a bound after the end. -/
def clampBound (s : Slice) (len past i : Int) : Int :=
  if i < 0 then
    if i + len < 0 then (if s.step < 0 then -1 else 0) else i + len
  else if len ≤ i then past
  else i

/-- The first position, the position that ends the slice, and the count of items, for a sequence
of `len` items. -/
def adjust (s : Slice) (len : Nat) : Int × Int × Nat :=
  let past : Int := if s.step < 0 then len - 1 else len
  let start := s.clampBound len past s.start
  let stop := s.clampBound len past s.stop
  let count : Int :=
    if s.step < 0 then
      if stop < start then (start - stop - 1).tdiv (-s.step) + 1 else 0
    else if start < stop then (stop - start - 1).tdiv s.step + 1
    else 0
  (start, stop, count.toNat)

/-- The part of a sequence of `len` items that a slice with step one takes. -/
def contiguous? (s : Slice) (len : Nat) : Option (Nat × Nat) :=
  if s.step ≠ 1 then none
  else
    let (start, stop, _) := s.adjust len
    let lo := start.toNat
    some (lo, max stop.toNat lo)

/-- The positions that a slice takes from a sequence of `len` items, in order. -/
def positions (s : Slice) (len : Nat) : List Nat :=
  let (start, _, count) := s.adjust len
  (List.range count).map fun (k : Nat) => (start + (k : Int) * s.step).toNat

end Slice

/-! ### Counting -/

/-- The numbers from `start` on in steps of `step`, short of `stop`. -/
structure Counting where
  start : Int
  stop : Int
  step : Int
deriving DecidableEq, Inhabited

namespace Counting

/-- How many numbers there are. -/
def length (c : Counting) : Nat :=
  if 0 < c.step then ((c.stop - c.start + c.step - 1).fdiv c.step).toNat
  else ((c.start - c.stop - c.step - 1).fdiv (-c.step)).toNat

/-- The number at a position. -/
def number (c : Counting) (i : Int) : Int := c.start + i * c.step

/-- All numbers, in order. -/
def numbers (c : Counting) : List Int := (List.range c.length).map fun (i : Nat) => c.number i

/-- Whether two of these give the same numbers. -/
def same (c d : Counting) : Bool :=
  c.length == d.length &&
    (c.length == 0 || (c.start == d.start && (c.length == 1 || c.step == d.step)))

/-- Whether a number is one of the numbers: it lies a whole number of steps after the first. -/
def contains (c : Counting) (n : Int) : Bool :=
  let steps := (n - c.start).fdiv c.step
  c.number steps = n && 0 ≤ steps && steps < c.length

/-- The number at a position; negative positions count from the end. -/
def item? (c : Counting) (i : Int) : Option Int :=
  let j := if i < 0 then i + c.length else i
  if 0 ≤ j ∧ j < c.length then some (c.number j) else none

/-- The part of the numbers that a slice takes. Bounds outside of the numbers are cut down to the
positions just in front of them or just after them. -/
def part (c : Counting) (start stop step : Option Int) : Except ForeignError Counting :=
  let step := step.getD 1
  let lower : Int := if step < 0 then -1 else 0
  let upper : Int := if step < 0 then c.length - 1 else c.length
  let place (i : Int) : Int := if i < 0 then max lower (i + c.length) else min upper i
  let first := (start.map place).getD (if step < 0 then upper else lower)
  let last := (stop.map place).getD (if step < 0 then lower else upper)
  if step = 0 then .error Slice.zeroStep
  else .ok ⟨c.number first, c.number last, c.step * step⟩

end Counting

end ScriptBridge.Foreign
