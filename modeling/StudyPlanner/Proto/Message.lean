import StudyPlanner.Proto.Reader
import StudyPlanner.Proto.Writer
/-!
# Messages

A `WireMessage` is a record type with a default value, a writer and a field step. Reading a
message starts from the default and lets each field replace its part; a field that occurs
twice keeps the last value, a repeated field collects every occurrence, and an unknown field
is skipped.

`field` reads one known field and names it in any error; `skipUnknown` passes an unknown one.
-/

namespace StudyPlanner.Proto

/-- A wire message: its default, how it is written, and how it reads one field. -/
class WireMessage (α : Type) extends Inhabited α where
  /-- The bytes of a message. -/
  encode : α → List UInt8
  /-- Reads one field into the message read so far. -/
  step : FieldStep α

/-- Reads a whole message from bytes. -/
def WireMessage.decode (α : Type) [WireMessage α] (bs : List UInt8) : Except DecodeError α :=
  readMessage WireMessage.step (default : α) bs

/-- Reads a known field's value and stores it, naming the field in any error. -/
def field {α β : Type} (msg name : String) (read : Except DecodeError (β × List UInt8))
    (store : β → α) : Readout α :=
  match read with
  | .ok (v, rest) => .ok (store v, rest)
  | .error e => .error (e.within msg name)

/-- Skips an unknown field and keeps the message as it is. -/
def skipUnknown {α : Type} (m : α) (tag : Nat) (w : WireType) (depth : Nat) (bs : List UInt8) :
    Readout α :=
  (skipField w tag depth bs).map fun rest => (m, rest)

end StudyPlanner.Proto
