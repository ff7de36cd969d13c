import StudyPlanner.Proto.Wire
/-!
# Why a message could not be read

A `DecodeError` is a fault and the path of fields that led to it. The path is kept innermost
first: a bad varint in a block's content inside a card's blocks is reported as
`Block.content: Card.blocks: invalid varint`.
-/

namespace StudyPlanner.Proto

/-- What went wrong while reading bytes as a message. -/
inductive DecodeFault where
  /-- The bytes ended inside a varint, or it ran past ten bytes or past `2^64`. -/
  | invalidVarint
  /-- A key above `2^32 - 1`. -/
  | invalidKey (key : Nat)
  /-- A key whose low three bits are six or seven. -/
  | invalidWireTypeValue (value : Nat)
  /-- A key whose tag is zero. -/
  | invalidTag
  /-- A length, or a fixed-width value, runs past the end of the bytes. -/
  | bufferUnderflow
  /-- A nested message's fields ran past the length it announced. -/
  | delimitedLengthExceeded
  /-- An end-group key that closes no open group, or the wrong one. -/
  | unexpectedEndGroup
  /-- Groups and messages nested more than a hundred deep. -/
  | recursionLimit
  /-- A known field arrived with another wire type than its own. -/
  | wrongWireType (actual expected : WireType)
  /-- A text field whose bytes are not UTF-8. -/
  | invalidUtf8
  deriving DecidableEq, Repr

/-- The wording of each fault. -/
def DecodeFault.text : DecodeFault → String
  | .invalidVarint => "invalid varint"
  | .invalidKey key => "invalid key value: " ++ toString key
  | .invalidWireTypeValue v => "invalid wire type value: " ++ toString v
  | .invalidTag => "invalid tag value: 0"
  | .bufferUnderflow => "buffer underflow"
  | .delimitedLengthExceeded => "delimited length exceeded"
  | .unexpectedEndGroup => "unexpected end group tag"
  | .recursionLimit => "recursion limit reached"
  | .wrongWireType a e => "invalid wire type: " ++ a.name ++ " (expected " ++ e.name ++ ")"
  | .invalidUtf8 => "invalid string value: data is not UTF-8 encoded"

/-- A fault with the fields it happened in, innermost first, each as message and field name. -/
structure DecodeError where
  fault : DecodeFault
  path : List (String × String) := []
  deriving DecidableEq, Repr

namespace DecodeError

/-- Records that the error happened inside the field `field` of the message `msg`. -/
def within (msg field : String) (e : DecodeError) : DecodeError :=
  { e with path := e.path ++ [(msg, field)] }

/-- The error's text: the path, then the fault. -/
def message (e : DecodeError) : String :=
  "failed to decode Protobuf message: " ++
    String.join (e.path.map fun p => p.1 ++ "." ++ p.2 ++ ": ") ++ e.fault.text

end DecodeError

end StudyPlanner.Proto
