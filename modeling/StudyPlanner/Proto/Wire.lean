/-!
# The protocol buffer wire format: keys and varints

A message on the wire is a sequence of fields. Each field starts with a *key*, the varint
`tag * 8 + wireType`, followed by the value: a varint, a length-delimited run of bytes,
eight or four fixed bytes, or a group that ends at a matching end-group key.

A *varint* writes a number below `2^64` seven bits a byte, least significant first, the high
bit of every byte but the last set. Signed integers are written through their 64-bit two's
complement, so a negative 32-bit value takes ten bytes, like its 64-bit sign extension.

This module holds the vocabulary (`WireType`, `encodeVarint`, `encodeKey`) and the small
lemmas that fix the shape of a varint.
-/

namespace StudyPlanner.Proto

/-- The six wire types a key can name. -/
inductive WireType where
  | varint
  | sixtyFourBit
  | lengthDelimited
  | startGroup
  | endGroup
  | thirtyTwoBit
  deriving DecidableEq, Repr

namespace WireType

/-- The number a key carries in its low three bits. -/
def code : WireType → Nat
  | varint => 0
  | sixtyFourBit => 1
  | lengthDelimited => 2
  | startGroup => 3
  | endGroup => 4
  | thirtyTwoBit => 5

/-- The wire type of a key's low three bits; six and seven name none. -/
def ofCode? : Nat → Option WireType
  | 0 => some varint
  | 1 => some sixtyFourBit
  | 2 => some lengthDelimited
  | 3 => some startGroup
  | 4 => some endGroup
  | 5 => some thirtyTwoBit
  | _ => none

/-- The name a decode error uses for a wire type. -/
def name : WireType → String
  | varint => "Varint"
  | sixtyFourBit => "SixtyFourBit"
  | lengthDelimited => "LengthDelimited"
  | startGroup => "StartGroup"
  | endGroup => "EndGroup"
  | thirtyTwoBit => "ThirtyTwoBit"

theorem ofCode?_code (w : WireType) : ofCode? w.code = some w := by
  cases w <;> rfl

end WireType

/-- The varint bytes of a natural number, seven bits a byte, least significant first. -/
def encodeVarint (n : Nat) : List UInt8 :=
  if n < 128 then [UInt8.ofNat n]
  else UInt8.ofNat (n % 128 + 128) :: encodeVarint (n / 128)
termination_by n
decreasing_by omega

/-- The key that opens a field. -/
def encodeKey (tag : Nat) (w : WireType) : List UInt8 := encodeVarint (tag * 8 + w.code)

/-- The 64-bit two's complement of a signed 64-bit value, as the varint writes it. -/
def wireOfInt64 (v : Int64) : Nat := v.toUInt64.toNat

/-- A signed 32-bit value is written as its 64-bit sign extension. -/
def wireOfInt32 (v : Int32) : Nat := v.toInt64.toUInt64.toNat

theorem encodeVarint_small {n : Nat} (h : n < 128) : encodeVarint n = [UInt8.ofNat n] := by
  rw [encodeVarint]; simp [h]

theorem encodeVarint_large {n : Nat} (h : ¬ n < 128) :
    encodeVarint n = UInt8.ofNat (n % 128 + 128) :: encodeVarint (n / 128) := by
  rw [encodeVarint]; simp [h]

theorem encodeVarint_ne_nil (n : Nat) : encodeVarint n ≠ [] := by
  rw [encodeVarint]; split <;> simp

end StudyPlanner.Proto
