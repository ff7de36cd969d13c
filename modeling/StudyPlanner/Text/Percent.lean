import StudyPlanner.Text.Hex
import StudyPlanner.Text.Utf8
/-!
# Percent-encoding

A byte that may not appear literally is written `%` and two hexadecimal digits. Reading is
forgiving: a `%` that is not followed by two hexadecimal digits stands for itself. Writing
uses upper-case digits and leaves a chosen set of bytes alone; `isUnreserved` is the set of
letters, digits and `-._~` that URLs never need to escape.
-/

namespace StudyPlanner.Text.Percent

/-- The value of a hexadecimal digit byte. -/
def hexValue? (b : UInt8) : Option Nat := Hex.digitValue? (Char.ofNat b.toNat)

/-- Replaces each `%` and two hexadecimal digits by the byte they write. -/
def decodeBytes : List UInt8 → List UInt8
  | [] => []
  | b :: h :: l :: tail =>
    match (if b.toNat = 0x25 then hexValue? h else none), hexValue? l with
    | some hi, some lo => UInt8.ofNat (hi * 16 + lo) :: decodeBytes tail
    | _, _ => b :: decodeBytes (h :: l :: tail)
  | b :: rest => b :: decodeBytes rest
termination_by bs => bs.length

/-- Percent-decodes a text and reads the bytes as UTF-8, lossily. -/
def decodeLossy (s : String) : String := Utf8.decodeLossy (decodeBytes (Utf8.encode s))

/-- An ASCII letter or digit byte. -/
def isAlphanumeric (b : UInt8) : Bool :=
  let n := b.toNat
  (0x30 ≤ n && n ≤ 0x39) || (0x41 ≤ n && n ≤ 0x5A) || (0x61 ≤ n && n ≤ 0x7A)

/-- Letters, digits and `-._~`: the bytes a URL never escapes. -/
def isUnreserved (b : UInt8) : Bool :=
  isAlphanumeric b || b.toNat = 0x2D || b.toNat = 0x2E || b.toNat = 0x5F || b.toNat = 0x7E

/-- A byte written as `%` and two upper-case hexadecimal digits. -/
def escapeByte (b : UInt8) : List Char :=
  ['%', Hex.digitUpper (b.toNat / 16), Hex.digitUpper (b.toNat % 16)]

/-- Writes a text's UTF-8 bytes, keeping the bytes that `keep` admits and escaping the rest. -/
def encodeWith (keep : UInt8 → Bool) (s : String) : String :=
  String.ofList ((Utf8.encode s).flatMap fun b =>
    if keep b then [Char.ofNat b.toNat] else escapeByte b)

/-- Escapes every byte of the text but letters, digits and `-._~`. -/
def encodeComponent (s : String) : String := encodeWith isUnreserved s

end StudyPlanner.Text.Percent
