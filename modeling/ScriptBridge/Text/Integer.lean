/-!
# Integers in texts

An integer is an optional sign and at least one ASCII digit, and nothing else. It is refused when
it does not fit its width.
-/

namespace ScriptBridge.Text

/-- The value of a sequence of ASCII digits; nothing if there is none or another character. -/
def readDigits? (s : List Char) : Option Nat :=
  if s.isEmpty || !s.all Char.isDigit then none
  else some (s.foldl (fun n c => n * 10 + (c.toNat - '0'.toNat)) 0)

/-- The value is that of the digits as a decimal number. -/
theorem readDigits?_eq_some_iff {s : List Char} {n : Nat} : readDigits? s = some n ↔
    s ≠ [] ∧ (∀ c ∈ s, c.isDigit = true) ∧ Nat.ofDigitChars 10 s 0 = n := by
  have hvalue : s.foldl (fun n c => n * 10 + (c.toNat - '0'.toNat)) 0 = Nat.ofDigitChars 10 s 0 := by
    simp only [Nat.ofDigitChars, Nat.mul_comm]
  rw [readDigits?, hvalue]
  by_cases hs : s = [] <;> simp [hs]

/-- An integer with an optional sign. -/
def readInt? : List Char → Option Int
  | '-' :: s => (readDigits? s).map fun n => -(n : Int)
  | '+' :: s => (readDigits? s).map Int.ofNat
  | s => (readDigits? s).map Int.ofNat

/-- A natural number with an optional plus sign, below `bound`. -/
def readNatBelow? (bound : Nat) (s : List Char) : Option Nat :=
  let n := match s with
    | '+' :: s => readDigits? s
    | s => readDigits? s
  n.filter (· < bound)

/-- How many natural numbers fit 32 bits. -/
def count32 : Nat := 4294967296

/-- How many natural numbers fit 64 bits. -/
def count64 : Nat := 18446744073709551616

/-- The least number of 64 bits. -/
def minInt64 : Int := -9223372036854775808

/-- The greatest number of 64 bits. -/
def maxInt64 : Int := 9223372036854775807

/-- Whether an integer fits 64 bits. -/
def fitsInt64 (n : Int) : Bool := minInt64 ≤ n && n ≤ maxInt64

/-- A 64-bit number with an optional sign. -/
def readInt64? (s : List Char) : Option Int64 :=
  ((readInt? s).filter fitsInt64).map Int64.ofInt

end ScriptBridge.Text
