import ScriptBridge.Text.Integer

/-!
# Numbers in texts

Floating-point numbers are digits with at most one point among or beside them and an optional
exponent, or the words for infinity and for what is no number; a sign may come first. The result
is the binary number nearest to the decimal.
-/

namespace ScriptBridge.Decimal

/-- The binary number nearest to `digits * 10 ^ exponent`. -/
def toFloat (digits : Nat) (exponent : Int) : Float :=
  if digits = 0 then 0.0
  else
    let size : Int := (Nat.toDigits 10 digits).length
    if 400 < size + exponent then 1.0 / 0.0
    else if size + exponent < -400 then 0.0
    else if exponent < 0 then Float.ofScientific digits true (-exponent).toNat
    else Float.ofScientific (digits * Nat.pow 10 exponent.toNat) false 0

/-- Leading ASCII digits and the rest. -/
def spanDigits (s : List Char) : List Char × List Char :=
  (s.takeWhile Char.isDigit, s.dropWhile Char.isDigit)

/-- The exponent that ends a number, if nothing else follows. -/
def readExponent? : List Char → Option Int
  | [] => some 0
  | c :: s => if c = 'e' || c = 'E' then Text.readInt? s else none

/-- A number without a sign. -/
def readUnsigned? (s : List Char) : Option Float :=
  let word := String.ofList (s.map Char.toLower)
  if word = "inf" || word = "infinity" then some (1.0 / 0.0)
  else if word = "nan" then some (0.0 / 0.0)
  else
    let (whole, rest) := spanDigits s
    let (fraction, rest) := match rest with
      | '.' :: r => spanDigits r
      | r => ([], r)
    match Text.readDigits? (whole ++ fraction), readExponent? rest with
    | some digits, some e => some (toFloat digits (e - fraction.length))
    | _, _ => none

/-- A number with an optional sign. -/
def readFloat? : List Char → Option Float
  | '-' :: s => (readUnsigned? s).map fun x => -x
  | '+' :: s => readUnsigned? s
  | s => readUnsigned? s

end ScriptBridge.Decimal
