import StudyPlanner.Service.Session
import StudyPlanner.Service.Replies
import StudyPlanner.Remote.Error
import StudyPlanner.Remote.Metadata
/-!
# Remote operations

Every operation of the study service is one unary call: a method name, the request message's
bytes, and metadata holding the device id and, unless the operation is signing in or up, the
session token (empty when signed out). The reply's bytes are read as the response message and
mapped to a record.

A call is split in two so that a caller may run the exchange however it likes:
`Operation.prepare` builds the `Request` from the session (minting a device id if needed), and
`Operation.finish` turns the transport's outcome into the result and the session after it.
Signing in stores the returned token, even an empty one, once the reply has been read;
signing out removes the token whatever the outcome.
-/

namespace StudyPlanner.Service

open StudyPlanner.Remote

/-- What is sent for one call. -/
structure Request where
  method : String
  metadata : Metadata
  body : List UInt8
  deriving DecidableEq, Repr

/-- A remote operation, ready to send, with the type of its result. -/
structure Operation (α : Type) where
  method : String
  /-- Whether the session token is sent with the call. -/
  withToken : Bool := true
  body : List UInt8
  /-- How the reply's bytes become the result. -/
  read : List UInt8 → Except Proto.DecodeError α
  /-- What the outcome does to the session. -/
  after : Except CallError α → Session → Session := fun _ s => s

namespace Operation

variable {α : Type}

/-- The metadata of a call: the device id, then the token when the operation sends it. -/
def metadataFor (withToken : Bool) (s : Session) : Metadata × Session :=
  let (d, s) := s.device
  let m := ({} : Metadata).insert deviceKey d
  (if withToken then m.insert tokenKey s.token else m, s)

/-- The request of a call, and the session after reading its device id. -/
def prepare (op : Operation α) (s : Session) : Request × Session :=
  let (m, s) := metadataFor op.withToken s
  ({ method := op.method, metadata := m, body := op.body }, s)

/-- The result of a call from the transport's outcome, and the session after it. -/
def finish (op : Operation α) (reply : Except CallError (List UInt8)) (s : Session) :
    Except CallError α × Session :=
  let r : Except CallError α := match reply with
    | .error e => .error e
    | .ok bs => match op.read bs with
      | .ok v => .ok v
      | .error e => .error (.decode e)
  (r, op.after r s)

/-- Runs a call through a transport that answers a request. -/
def run (op : Operation α) (transport : Request → Except CallError (List UInt8)) (s : Session) :
    Request × Except CallError α × Session :=
  let (req, s) := op.prepare s
  let (r, s) := op.finish (transport req) s
  (req, r, s)

end Operation

end StudyPlanner.Service
