import StudyPlanner.Remote.Error
import StudyPlanner.Remote.Trailers
import StudyPlanner.Text.Decimal
import StudyPlanner.Text.Percent
import StudyPlanner.Text.Quoted
/-!
# The status of a call

A reply reports its outcome as a status code and an optional message, either in the HTTP
headers or in the trailers. No status means success, as does status `0`. A status whose
trimmed text is not a 32-bit decimal breaks the protocol. Any other code is a failure whose
message is percent-decoded (a `+` stays a plus) and read as UTF-8, lossily; an absent or empty
message becomes `remote call failed with status <code>`.
-/

namespace StudyPlanner.Remote

/-- The outcome that a status and a message report. -/
def checkStatus (status message : Option String) : Except CallError Unit :=
  match status with
  | none => .ok ()
  | some st =>
    match Text.Decimal.readInt32? (Text.trim st) with
    | none => .error (.protocol ("invalid grpc-status " ++ Text.quote st))
    | some code =>
      if code = 0 then .ok ()
      else
        let text := (message.map Text.Percent.decodeLossy).getD ""
        let text := if text.isEmpty then
            "remote call failed with status " ++ Text.Decimal.ofInt code.toInt
          else text
        .error (.status code text)

/-- The outcome the trailers report, from `grpc-status` and `grpc-message`. -/
def Trailers.check (t : Trailers) : Except CallError Unit :=
  checkStatus (t.get? "grpc-status") (t.get? "grpc-message")

end StudyPlanner.Remote
