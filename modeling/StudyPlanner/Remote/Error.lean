import StudyPlanner.Proto.DecodeError
/-!
# Why a remote call failed

A remote call fails in one of five ways, each with its own message:

* the HTTP exchange itself failed (`transport`);
* the service answered with a non-zero status and a message (`status`);
* the reply's bytes are not the expected message (`decode`);
* the reply's framing or status text broke the protocol (`protocol`);
* the client was set up wrongly (`config`).

`CallError.message` is the one place where their wording lives.
-/

namespace StudyPlanner.Remote

open StudyPlanner.Proto

/-- A remote call's failure. -/
inductive CallError where
  | transport (detail : String)
  | status (code : Int32) (detail : String)
  | decode (error : DecodeError)
  | protocol (detail : String)
  | config (detail : String)
  deriving DecidableEq, Repr

namespace CallError

/-- The text a person is shown for a failure. A status shows its message alone. -/
def message : CallError → String
  | transport d => "Transport error: " ++ d
  | status _ d => d
  | decode e => "Decode error: " ++ e.message
  | protocol d => "Protocol error: " ++ d
  | config d => "Configuration error: " ++ d

/-- The status code of a `status` failure. -/
def statusCode? : CallError → Option Int32
  | status c _ => some c
  | _ => none

end CallError

end StudyPlanner.Remote
