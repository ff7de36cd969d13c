import StudyPlanner.Remote.Error
import StudyPlanner.Remote.Trailers
/-!
# Frames of a unary reply

A body is a sequence of frames. A frame is a flag byte, the payload's length as a 32-bit
big-endian number, and the payload. Flag bit `0x80` marks a trailer frame, bit `0x01` a
compressed one, which this client never asks for; any other frame carries the data.

Reading a body goes frame by frame from the front:

* fewer than five bytes left is a truncated header, and a payload shorter than its length a
  truncated frame;
* a compressed frame is refused, even a trailer one, once its length has been checked;
* a trailer frame replaces the trailers read so far;
* a unary reply holds at most one data frame.

`Frame.encode` writes one frame and `decodeBody` reads a whole body into a `Body`.
-/

namespace StudyPlanner.Remote

/-- The flag of a data frame. -/
def dataFlag : UInt8 := 0x00

/-- The flag of a trailer frame. -/
def trailerFlag : UInt8 := 0x80

/-- One frame: a flag byte and a payload. -/
structure Frame where
  flag : UInt8
  payload : List UInt8
  deriving DecidableEq, Repr

/-- A 32-bit number as four big-endian bytes. -/
def bigEndian32 (n : Nat) : List UInt8 :=
  [UInt8.ofNat (n / 16777216 % 256), UInt8.ofNat (n / 65536 % 256), UInt8.ofNat (n / 256 % 256),
    UInt8.ofNat (n % 256)]

/-- The number four big-endian bytes write. -/
def readBigEndian32 (a b c d : UInt8) : Nat :=
  a.toNat * 16777216 + b.toNat * 65536 + c.toNat * 256 + d.toNat

/-- A frame's bytes: flag, payload length modulo `2^32`, payload. -/
def Frame.encode (f : Frame) : List UInt8 :=
  f.flag :: bigEndian32 (f.payload.length % 4294967296) ++ f.payload

/-- A data frame around a message. -/
def encodeData (payload : List UInt8) : List UInt8 := Frame.encode ⟨dataFlag, payload⟩

/-- What a reply body holds: the message of its data frame, if any, and its trailers. -/
structure Body where
  message : Option (List UInt8) := none
  trailers : Trailers := {}
  deriving DecidableEq, Repr, Inhabited

/-- Adds one frame to the body read so far. -/
def Body.push (body : Body) (f : Frame) : Except CallError Body :=
  if f.flag &&& 0x01 ≠ 0 then .error (.protocol "compressed frames are not supported")
  else if f.flag &&& 0x80 ≠ 0 then .ok { body with trailers := Trailers.parse f.payload }
  else match body.message with
    | none => .ok { body with message := some f.payload }
    | some _ => .error (.protocol "more than one message in a unary response")

/-- Reads the frames of a body from the front, adding them to `acc`. -/
def decodeFrames (acc : Body) (bs : List UInt8) : Except CallError Body :=
  match bs with
  | [] => .ok acc
  | flag :: a :: b :: c :: d :: rest =>
    let len := readBigEndian32 a b c d
    if rest.length < len then
      .error (.protocol ("truncated frame: expected " ++ toString len ++ " bytes, got " ++
        toString rest.length))
    else
      match acc.push ⟨flag, rest.take len⟩ with
      | .error e => .error e
      | .ok acc' => decodeFrames acc' (rest.drop len)
  | _ => .error (.protocol ("truncated frame header (" ++ toString bs.length ++ " bytes)"))
termination_by bs.length
decreasing_by simp only [List.length_drop, List.length_cons]; omega

/-- Reads a whole reply body. -/
def decodeBody (bs : List UInt8) : Except CallError Body := decodeFrames {} bs

end StudyPlanner.Remote
