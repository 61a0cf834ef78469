/-!
# Shortest decimals

The shortest decimal that reads back as a given binary number, and among those of that length the
nearest. A finite positive number is `mantissa * 2 ^ exponent`; all arithmetic is exact.
-/

namespace ScriptBridge.Decimal

/-- A binary number `mantissa * 2 ^ exponent`. -/
structure Binary where
  mantissa : Nat
  exponent : Int
  /-- The gap to the next smaller number is half the gap to the next larger one. -/
  narrowBelow : Bool

/-- The magnitude of the number with these 64 bits, if it is finite. -/
def Binary.ofBits? (bits : UInt64) : Option Binary :=
  let fraction : Nat := bits.toNat % Nat.pow 2 52
  let scale : Nat := bits.toNat / Nat.pow 2 52 % Nat.pow 2 11
  if scale = 2047 then none
  else if scale = 0 then some ⟨fraction, -1074, false⟩
  else some ⟨fraction + Nat.pow 2 52, Int.ofNat scale - 1075, fraction = 0 && scale > 1⟩

/-- Whether a float is an integer: `2 ^ -exponent` times the integer is the signed mantissa, or the
signed mantissa times `2 ^ exponent` is the integer. -/
def isInteger (x : Float) (n : Int) : Bool :=
  match Binary.ofBits? x.toBits with
  | none => false
  | some b =>
    let signed : Int := if x < 0 then -b.mantissa else b.mantissa
    signed * Nat.pow 2 b.exponent.toNat = n * Nat.pow 2 (-b.exponent).toNat

/-- A float without what is behind its point. -/
def wholePart (x : Float) : Int :=
  match Binary.ofBits? x.toBits with
  | none => 0
  | some b =>
    let n : Nat := b.mantissa * Nat.pow 2 b.exponent.toNat / Nat.pow 2 (-b.exponent).toNat
    if x < 0 then -n else n

/-- A number as a fraction, with the ends of the interval of numbers that round to it over the
same denominator. The ends belong to the interval if `closed`. -/
structure Interval where
  low : Nat
  value : Nat
  high : Nat
  denominator : Nat
  closed : Bool

/-- The interval of the numbers that round to `b`. -/
def Binary.interval (b : Binary) : Interval :=
  let up := Nat.pow 2 (b.exponent - 2).toNat
  { low := (4 * b.mantissa - (if b.narrowBelow then 1 else 2)) * up
    value := 4 * b.mantissa * up
    high := (4 * b.mantissa + 2) * up
    denominator := Nat.pow 2 (2 - b.exponent).toNat
    closed := b.mantissa % 2 = 0 }

/-- The position `p` of the decimal point: the value lies from `10 ^ (p - 1)` up to `10 ^ p`. -/
def Interval.pointPosition (i : Interval) : Int :=
  if i.denominator ≤ i.value then ((Nat.toDigits 10 (i.value / i.denominator)).length : Int)
  else 1 - ((Nat.toDigits 10 ((i.denominator - 1) / i.value)).length : Int)

/-- Whether the fraction `n / denominator` lies in the interval. -/
def Interval.contains (i : Interval) (n : Nat) : Bool :=
  if i.closed then i.low ≤ n && n ≤ i.high else i.low < n && n < i.high

/-- The interval with its fractions multiplied by `n`. -/
def Interval.scale (i : Interval) (n : Nat) : Interval :=
  { i with low := i.low * n, value := i.value * n, high := i.high * n }

/-- Which of two equally near decimals is taken. -/
inductive Tie where
  | larger
  /-- The one whose last digit is even. -/
  | even
deriving DecidableEq

/-- Whether the smaller of two equally near factors is taken. -/
def Tie.takesBelow (t : Tie) (below : Nat) : Bool :=
  match t with
  | .larger => false
  | .even => below % 2 = 0

/-- The multiple of `10 ^ e` that lies in the interval and is nearest to its value, as the
factor. -/
def Interval.nearest? (i : Interval) (t : Tie) (e : Int) : Option Nat :=
  let s := i.scale (Nat.pow 10 (-e).toNat)
  let unit := s.denominator * Nat.pow 10 e.toNat
  let below := s.value / unit
  let above := below + 1
  match s.contains (below * unit), s.contains (above * unit) with
  | true, true =>
    let toBelow := s.value - below * unit
    let toAbove := above * unit - s.value
    if toBelow < toAbove || (toBelow = toAbove && t.takesBelow below) then some below
    else some above
  | true, false => some below
  | false, true => some above
  | false, false => none

/-- A positive decimal `digits * 10 ^ exponent`. -/
structure Digits where
  digits : Nat
  exponent : Int

/-- Tries decimals of `n` digits, then of one more, until one lies in the interval. -/
def Interval.search (i : Interval) (t : Tie) (p : Int) : Nat → Nat → Digits
  | 0, n => ⟨i.value / i.denominator, n⟩
  | fuel + 1, n =>
    match i.nearest? t (p - n) with
    | some d => ⟨d, p - n⟩
    | none => i.search t p fuel (n + 1)

/-- The shortest decimal that rounds to `b`; seventeen digits always suffice. -/
def shortest (t : Tie) (b : Binary) : Digits :=
  let i := b.interval
  i.search t i.pointPosition 18 1

end ScriptBridge.Decimal
