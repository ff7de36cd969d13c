/-!
# Hexadecimal digits

Lower-case hexadecimal text of bytes, as the tests and logs show byte strings, and the
digit values that percent-decoding reads in either case.
-/

namespace StudyPlanner.Text.Hex

/-- The lower-case hexadecimal digit of a number below sixteen. -/
def digitLower (n : Nat) : Char :=
  if n < 10 then Char.ofNat (0x30 + n) else Char.ofNat (0x61 + n - 10)

/-- The upper-case hexadecimal digit of a number below sixteen. -/
def digitUpper (n : Nat) : Char :=
  if n < 10 then Char.ofNat (0x30 + n) else Char.ofNat (0x41 + n - 10)

/-- The value of a hexadecimal digit of either case. -/
def digitValue? (c : Char) : Option Nat :=
  let n := c.toNat
  if 0x30 ≤ n ∧ n ≤ 0x39 then some (n - 0x30)
  else if 0x61 ≤ n ∧ n ≤ 0x66 then some (n - 0x61 + 10)
  else if 0x41 ≤ n ∧ n ≤ 0x46 then some (n - 0x41 + 10)
  else none

/-- The two lower-case digits of a byte. -/
def byteLower (b : UInt8) : List Char := [digitLower (b.toNat / 16), digitLower (b.toNat % 16)]

/-- Bytes as lower-case hexadecimal text, two digits a byte. -/
def ofBytes (bs : List UInt8) : String := String.ofList (bs.flatMap byteLower)

/-- Reads pairs of hexadecimal digits as bytes; an odd digit count or a non-digit fails. -/
def toBytes? : List Char → Option (List UInt8)
  | [] => some []
  | a :: b :: rest => do
    let hi ← digitValue? a
    let lo ← digitValue? b
    let tl ← toBytes? rest
    pure (UInt8.ofNat (hi * 16 + lo) :: tl)
  | [_] => none

/-- The bytes written by a hexadecimal text. -/
def decode? (s : String) : Option (List UInt8) := toBytes? s.toList

end StudyPlanner.Text.Hex
