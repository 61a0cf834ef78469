import ScriptBridge.Decimal.Shortest

/-!
# Texts of numbers

How a floating-point number is written: its shortest digits, set out by a `Layout`.
-/

namespace ScriptBridge.Decimal

/-- The choices of one number format. The point position of `0.d₁d₂… * 10 ^ p` is `p`. -/
structure Layout where
  /-- Numbers with a smaller point position are written with an exponent. -/
  least : Option Int
  /-- Numbers with a greater point position are written with an exponent. -/
  greatest : Option Int
  /-- Whole numbers written without an exponent end in `.0` up to this point position. -/
  zeroUpTo : Option Int
  /-- A positive exponent has a sign. -/
  signedExponent : Bool
  /-- The least count of digits of the exponent. -/
  exponentWidth : Nat
  /-- The text of what is no number. -/
  notANumber : String
  /-- Which of two equally near decimals is written. -/
  tie : Tie

/-- Never an exponent, and a whole number has no point. -/
def Layout.plain : Layout := ⟨none, none, none, false, 1, "NaN", .larger⟩

/-- Never an exponent; whole numbers below `10 ^ 15` end in `.0`. -/
def Layout.shown : Layout := { Layout.plain with zeroUpTo := some 15 }

/-- An exponent below `10 ^ -4` and from `10 ^ 16` on; otherwise at least `.0`. -/
def Layout.exponential : Layout := ⟨some (-3), some 16, some 16, false, 1, "NaN", .larger⟩

/-- As `exponential`, with an exponent of a sign and at least two digits, and even ties. -/
def Layout.signed : Layout := ⟨some (-3), some 16, some 16, true, 2, "nan", .even⟩

/-- The decimal digits of a natural number without trailing zeros, and how many were dropped. -/
def significant (n : Nat) : List Char × Nat :=
  let digits := (Nat.toDigits 10 n).reverse
  let zeros := digits.takeWhile (· = '0')
  ((digits.drop zeros.length).reverse, zeros.length)

/-- Digits around a decimal point after the first `p` of them, filled up with zeros. -/
def positional (digits : List Char) (p : Int) (zero : Bool) : List Char :=
  if p ≤ 0 then ['0', '.'] ++ List.replicate (-p).toNat '0' ++ digits
  else if digits.length ≤ p.toNat then
    digits ++ List.replicate (p.toNat - digits.length) '0' ++ (if zero then ['.', '0'] else [])
  else digits.take p.toNat ++ ['.'] ++ digits.drop p.toNat

/-- The exponent of a number, after its mark. -/
def Layout.exponentText (l : Layout) (e : Int) : List Char :=
  let digits := Nat.toDigits 10 e.natAbs
  let sign := if e < 0 then ['-'] else if l.signedExponent then ['+'] else []
  'e' :: sign ++ List.replicate (l.exponentWidth - digits.length) '0' ++ digits

/-- The text of a positive decimal. -/
def Layout.digitsText (l : Layout) (d : Digits) : List Char :=
  let (digits, zeros) := significant d.digits
  let p : Int := digits.length + zeros + d.exponent
  if l.least.any (p < ·) || l.greatest.any (· < p) then
    digits.take 1 ++ (if digits.length ≤ 1 then [] else '.' :: digits.drop 1) ++
      l.exponentText (p - 1)
  else positional digits p (l.zeroUpTo.any (p ≤ ·))

/-- The text of the floating-point number with these bits. -/
def Layout.bitsText (l : Layout) (bits : UInt64) : String :=
  let sign := if bits.toNat / Nat.pow 2 63 = 1 then "-" else ""
  match Binary.ofBits? bits with
  | none => if bits.toNat % Nat.pow 2 52 = 0 then sign ++ "inf" else l.notANumber
  | some b =>
    if b.mantissa = 0 then sign ++ (if l.zeroUpTo.isSome then "0.0" else "0")
    else sign ++ String.ofList (l.digitsText (shortest l.tie b))

/-- The text of a floating-point number. -/
def Layout.text (l : Layout) (x : Float) : String := l.bitsText x.toBits

end ScriptBridge.Decimal
