import StudyPlanner.Proto.Wire
import StudyPlanner.Text.Utf8
/-!
# Writing the wire format

A field is written as its key and its value, in the order of the tags. A scalar field that
holds its default (zero, false, the empty text) is not written at all. A nested message is
written as a length-delimited field whenever it is present, even when it is empty, and a
repeated message field writes one such field per element.
-/

namespace StudyPlanner.Proto

/-- A varint field, left out when the value is zero. -/
def varintField (tag n : Nat) : List UInt8 :=
  if n = 0 then [] else encodeKey tag .varint ++ encodeVarint n

/-- A signed 64-bit field. -/
def int64Field (tag : Nat) (v : Int64) : List UInt8 := varintField tag (wireOfInt64 v)

/-- A signed 32-bit field. -/
def int32Field (tag : Nat) (v : Int32) : List UInt8 := varintField tag (wireOfInt32 v)

/-- A boolean field. -/
def boolField (tag : Nat) (b : Bool) : List UInt8 := varintField tag (if b then 1 else 0)

/-- A length-delimited field, always written. -/
def bytesField (tag : Nat) (bs : List UInt8) : List UInt8 :=
  encodeKey tag .lengthDelimited ++ encodeVarint bs.length ++ bs

/-- A text field, left out when empty. -/
def stringField (tag : Nat) (s : String) : List UInt8 :=
  if s.isEmpty then [] else bytesField tag (Text.Utf8.encode s)

/-- A present nested message. -/
def messageField (tag : Nat) (body : List UInt8) : List UInt8 := bytesField tag body

/-- A repeated nested message: one field per element, in order. -/
def repeatedField {α : Type} (tag : Nat) (encode : α → List UInt8) (xs : List α) : List UInt8 :=
  xs.flatMap fun x => messageField tag (encode x)

/-- An optional nested message. -/
def optionalField {α : Type} (tag : Nat) (encode : α → List UInt8) : Option α → List UInt8
  | some x => messageField tag (encode x)
  | none => []

end StudyPlanner.Proto
