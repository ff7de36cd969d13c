/-!
# Decimal integers

Numbers typed by people or carried in URLs and headers are read with one rule: an optional
sign, then at least one ASCII digit and nothing else, and the value must fit the width it is
read into. Unsigned widths take a plus sign but no minus. Leading zeros are allowed, blanks
are not (callers trim first), and digits of other scripts are not digits here.

`readSigned?` and `readUnsigned?` give the value in `Int` and `Nat`; the width checks are
`readInt64?`, `readInt32?` and `readUInt32?`.
-/

namespace StudyPlanner.Text.Decimal

/-- The value of a list of ASCII digits, most significant first, or `none` if some
character is not an ASCII digit. -/
def digitsValue? (cs : List Char) : Option Nat :=
  cs.foldl (fun acc c => acc.bind fun n =>
    if c.isDigit then some (n * 10 + (c.toNat - 0x30)) else none) (some 0)

/-- At least one ASCII digit and nothing else. -/
def readDigits? (cs : List Char) : Option Nat :=
  if cs.isEmpty then none else digitsValue? cs

/-- An optional sign and at least one ASCII digit. -/
def readSigned? : List Char → Option Int
  | '-' :: rest => (readDigits? rest).map fun n => -(n : Int)
  | '+' :: rest => (readDigits? rest).map fun n => (n : Int)
  | cs => (readDigits? cs).map fun n => (n : Int)

/-- An optional plus sign and at least one ASCII digit. -/
def readUnsigned? : List Char → Option Nat
  | '+' :: rest => readDigits? rest
  | cs => readDigits? cs

/-- A signed decimal that fits in 64 bits. -/
def readInt64? (s : String) : Option Int64 :=
  (readSigned? s.toList).bind fun n =>
    if -(9223372036854775808 : Int) ≤ n ∧ n < 9223372036854775808 then some (Int64.ofInt n) else none

/-- A signed decimal that fits in 32 bits. -/
def readInt32? (s : String) : Option Int32 :=
  (readSigned? s.toList).bind fun n =>
    if -(2147483648 : Int) ≤ n ∧ n < 2147483648 then some (Int32.ofInt n) else none

/-- An unsigned decimal that fits in 32 bits. -/
def readUInt32? (s : String) : Option UInt32 :=
  (readUnsigned? s.toList).bind fun n => if n < 4294967296 then some (UInt32.ofNat n) else none

/-- The decimal text of an integer, with a minus sign when it is negative. -/
def ofInt (n : Int) : String :=
  match n with
  | .ofNat k => toString k
  | .negSucc k => "-" ++ toString (k + 1)

end StudyPlanner.Text.Decimal
