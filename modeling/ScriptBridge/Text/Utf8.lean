/-!
# Bytes and text

Decoding of UTF-8. A byte sequence that is no encoded character is replaced: each longest start
of a well-formed sequence, or else each single byte, gives one replacement character.
-/

namespace ScriptBridge.Text

/-- The character shown for bytes that do not decode. -/
def replacement : Char := Char.ofNat 0xfffd

/-- How a sequence continues after its first byte: the bits it starts with, the range of the
second byte, and the count of the bytes after the second. -/
def leadByte (b : Nat) : Option (Nat × Nat × Nat × Nat) :=
  if 0xc2 ≤ b && b ≤ 0xdf then some (b - 0xc0, 0x80, 0xbf, 0)
  else if b = 0xe0 then some (0, 0xa0, 0xbf, 1)
  else if b = 0xed then some (0xd, 0x80, 0x9f, 1)
  else if 0xe1 ≤ b && b ≤ 0xef then some (b - 0xe0, 0x80, 0xbf, 1)
  else if b = 0xf0 then some (0, 0x90, 0xbf, 2)
  else if b = 0xf4 then some (4, 0x80, 0x8f, 2)
  else if 0xf1 ≤ b && b ≤ 0xf3 then some (b - 0xf0, 0x80, 0xbf, 2)
  else none

/-- Reads `n` continuation bytes after the bits `acc`, or stops before the first byte that is
none. -/
def continuation : Nat → Nat → List UInt8 → Option Char × List UInt8
  | 0, acc, s => (some (Char.ofNat acc), s)
  | n + 1, acc, b :: s =>
    if 0x80 ≤ b.toNat && b.toNat ≤ 0xbf then continuation n (acc * 64 + (b.toNat - 0x80)) s
    else (none, b :: s)
  | _ + 1, _, [] => (none, [])

/-- Continuation bytes are only consumed. -/
theorem continuation_length (n acc : Nat) (s : List UInt8) :
    (continuation n acc s).2.length ≤ s.length := by
  induction n generalizing acc s with
  | zero => simp [continuation]
  | succ n ih =>
    cases s with
    | nil => simp [continuation]
    | cons b s =>
      simp only [continuation]
      split
      · exact Nat.le_succ_of_le (ih _ _)
      · simp

/-- The bytes after the first, read as that first byte asks. -/
def sequenceTail (first : UInt8) (s : List UInt8) : Option Char × List UInt8 :=
  match leadByte first.toNat with
  | none => (none, s)
  | some (bits, lo, hi, more) =>
    match s with
    | [] => (none, [])
    | b :: r =>
      if lo ≤ b.toNat && b.toNat ≤ hi then continuation more (bits * 64 + (b.toNat - 0x80)) r
      else (none, b :: r)

/-- Reading a sequence leaves no more than the bytes after its first. -/
theorem sequenceTail_length (first : UInt8) (s : List UInt8) :
    (sequenceTail first s).2.length ≤ s.length := by
  unfold sequenceTail
  split
  · simp
  · split
    · simp
    · split
      · exact Nat.le_succ_of_le (continuation_length _ _ _)
      · simp

/-- The characters of a byte sequence, with what does not decode replaced. -/
def decodeChars : List UInt8 → List Char
  | [] => []
  | b :: s =>
    if b.toNat < 0x80 then Char.ofNat b.toNat :: decodeChars s
    else
      have := sequenceTail_length b s
      (sequenceTail b s).1.getD replacement :: decodeChars (sequenceTail b s).2
termination_by s => s.length
decreasing_by all_goals simp only [List.length_cons]; omega

/-- The text of a byte sequence, with what does not decode replaced. -/
def decode (bytes : List UInt8) : String := String.ofList (decodeChars bytes)

/-- Whether a byte sequence is well-formed UTF-8. -/
def isWellFormed : List UInt8 → Bool
  | [] => true
  | b :: s =>
    if b.toNat < 0x80 then isWellFormed s
    else
      have := sequenceTail_length b s
      (sequenceTail b s).1.isSome && isWellFormed (sequenceTail b s).2
termination_by s => s.length
decreasing_by all_goals simp only [List.length_cons]; omega

end ScriptBridge.Text
