import StudyPlanner.Proto.DecodeError
import StudyPlanner.Text.Utf8
/-!
# Reading the wire format

Reading is a function from the unread bytes to a value and the bytes after it, or a
`DecodeError`. The rules:

* a varint has at most ten bytes and the tenth is `0` or `1`, so its value is below `2^64`;
  running out of bytes inside one is `invalid varint`;
* a key is at most `2^32 - 1`, its low three bits name a wire type and its tag is not zero;
* a length-delimited value, and an eight- or four-byte value, must fit in the bytes left;
* a known field must arrive with its own wire type;
* unknown fields are skipped whatever their wire type, groups included, as long as groups
  and nested messages stay within a hundred levels;
* a nested message reads its fields from the bytes after its length, and its last field must
  end exactly where the length said.

A 64-bit integer field takes the varint's value modulo `2^64` as two's complement, a 32-bit one
the low 32 bits of it, and a boolean is true when the varint is not zero.

Loops run on fuel computed from the length of the input; every step consumes at least one
byte, so the fuel never runs out first.
-/

namespace StudyPlanner.Proto

/-- The result of reading a value from the front of some bytes. -/
abbrev Readout (α : Type) := Except DecodeError (α × List UInt8)

/-- Fails with a fault and an empty path. -/
def fault {α : Type} (f : DecodeFault) : Except DecodeError α := .error { fault := f }

/-- How deep groups and nested messages may go below the top level. -/
def recursionLimit : Nat := 100

/-- Reads the varint bytes after the first `i`, with `acc` the value read so far. -/
def readVarintFrom (i acc : Nat) : List UInt8 → Readout Nat
  | [] => fault .invalidVarint
  | b :: rest =>
    if b.toNat < 128 then
      if i = 9 ∧ 2 ≤ b.toNat then fault .invalidVarint
      else .ok (acc + b.toNat * 128 ^ i, rest)
    else if i = 9 then fault .invalidVarint
    else readVarintFrom (i + 1) (acc + (b.toNat - 128) * 128 ^ i) rest

/-- Reads one varint. -/
def readVarint (bs : List UInt8) : Readout Nat := readVarintFrom 0 0 bs

/-- Reads a key: the field's tag and wire type. -/
def readKey (bs : List UInt8) : Readout (Nat × WireType) :=
  match readVarint bs with
  | .error e => .error e
  | .ok (key, rest) =>
    if key > 0xFFFFFFFF then fault (.invalidKey key)
    else match WireType.ofCode? (key % 8) with
      | none => fault (.invalidWireTypeValue (key % 8))
      | some w => if key / 8 = 0 then fault .invalidTag else .ok ((key / 8, w), rest)

/-- Fails unless a field arrived with the wire type it is declared with. -/
def expectWire (expected actual : WireType) : Except DecodeError Unit :=
  if actual = expected then .ok () else fault (.wrongWireType actual expected)

/-- Reads `n` bytes. -/
def readFixed (n : Nat) (bs : List UInt8) : Readout (List UInt8) :=
  if n > bs.length then fault .bufferUnderflow else .ok (bs.take n, bs.drop n)

/-- A varint's value as a signed 64-bit integer. -/
def int64OfWire (n : Nat) : Int64 := (UInt64.ofNat n).toInt64

/-- A varint's low 32 bits as a signed 32-bit integer. -/
def int32OfWire (n : Nat) : Int32 := (UInt32.ofNat n).toInt32

/-- Reads a varint field's value as a number. -/
def readVarintField (w : WireType) (bs : List UInt8) : Except DecodeError (Nat × List UInt8) := do
  expectWire .varint w
  readVarint bs

/-- Reads a signed 64-bit field. -/
def readInt64 (w : WireType) (bs : List UInt8) : Except DecodeError (Int64 × List UInt8) := do
  let (n, rest) ← readVarintField w bs
  pure (int64OfWire n, rest)

/-- Reads a signed 32-bit field. -/
def readInt32 (w : WireType) (bs : List UInt8) : Except DecodeError (Int32 × List UInt8) := do
  let (n, rest) ← readVarintField w bs
  pure (int32OfWire n, rest)

/-- Reads a boolean field. -/
def readBool (w : WireType) (bs : List UInt8) : Except DecodeError (Bool × List UInt8) := do
  let (n, rest) ← readVarintField w bs
  pure (n != 0, rest)

/-- Reads a length-delimited field's bytes. -/
def readBytes (w : WireType) (bs : List UInt8) : Except DecodeError ((List UInt8) × List UInt8) := do
  expectWire .lengthDelimited w
  let (n, rest) ← readVarint bs
  readFixed n rest

/-- Reads a text field, whose bytes must be UTF-8. -/
def readString (w : WireType) (bs : List UInt8) : Except DecodeError (String × List UInt8) := do
  let (raw, rest) ← readBytes w bs
  match Text.Utf8.decode? raw with
  | some s => pure (s, rest)
  | none => fault .invalidUtf8

mutual

/-- Skips an unknown field's value. `depth` is how many more levels may be entered. -/
def skipValue (fuel : Nat) (w : WireType) (tag depth : Nat) (bs : List UInt8) :
    Except DecodeError (List UInt8) :=
  match fuel with
  | 0 => fault .bufferUnderflow
  | fuel + 1 =>
    if depth = 0 then fault .recursionLimit
    else match w with
      | .varint => (readVarint bs).map (·.2)
      | .sixtyFourBit => (readFixed 8 bs).map (·.2)
      | .thirtyTwoBit => (readFixed 4 bs).map (·.2)
      | .lengthDelimited => do
        let (n, rest) ← readVarint bs
        (readFixed n rest).map (·.2)
      | .startGroup => skipGroup fuel tag (depth - 1) bs
      | .endGroup => fault .unexpectedEndGroup

/-- Skips the fields of a group up to the end-group key of the same tag. -/
def skipGroup (fuel : Nat) (tag depth : Nat) (bs : List UInt8) :
    Except DecodeError (List UInt8) :=
  match fuel with
  | 0 => fault .bufferUnderflow
  | fuel + 1 => do
    let ((t, w), rest) ← readKey bs
    if w = .endGroup then
      if t = tag then pure rest else fault .unexpectedEndGroup
    else
      let rest' ← skipValue fuel w t depth rest
      skipGroup fuel tag depth rest'

end

/-- Skips an unknown field's value, with enough fuel for the bytes given. -/
def skipField (w : WireType) (tag depth : Nat) (bs : List UInt8) :
    Except DecodeError (List UInt8) :=
  skipValue (2 * bs.length + 2) w tag depth bs

/-- How a message reads one field into the record read so far: from the tag, the wire type,
the depth still allowed and the bytes after the key. -/
abbrev FieldStep (α : Type) := α → Nat → WireType → Nat → List UInt8 → Readout α

/-- Reads fields into `acc` while more than `limit` bytes are left. -/
def readFieldsAbove {α : Type} (step : FieldStep α) (depth limit : Nat) :
    Nat → α → List UInt8 → Readout α
  | 0, acc, bs => .ok (acc, bs)
  | fuel + 1, acc, bs =>
    if bs.length > limit then
      match readKey bs with
      | .error e => .error e
      | .ok ((tag, w), rest) =>
        match step acc tag w depth rest with
        | .error e => .error e
        | .ok (acc', rest') => readFieldsAbove step depth limit fuel acc' rest'
    else .ok (acc, bs)

/-- Reads a nested message into `init`: its length, then its fields, which must end exactly
at that length. -/
def readNested {α : Type} (step : FieldStep α) (init : α) (w : WireType) (depth : Nat)
    (bs : List UInt8) : Except DecodeError (α × List UInt8) := do
  expectWire .lengthDelimited w
  if depth = 0 then fault .recursionLimit
  else
    let (n, rest) ← readVarint bs
    if n > rest.length then fault .bufferUnderflow
    else
      let limit := rest.length - n
      let (value, rest') ← readFieldsAbove step (depth - 1) limit (rest.length + 1) init rest
      if rest'.length = limit then pure (value, rest') else fault .delimitedLengthExceeded

/-- Reads a whole message: fields until the bytes end. -/
def readMessage {α : Type} (step : FieldStep α) (init : α) (bs : List UInt8) :
    Except DecodeError α :=
  (readFieldsAbove step recursionLimit 0 (bs.length + 1) init bs).map (·.1)

/-- Adds the field's place to the error of a field's reading. -/
def Readout.within {α : Type} (msg field : String) : Readout α → Readout α
  | .ok v => .ok v
  | .error e => .error (e.within msg field)

end StudyPlanner.Proto
