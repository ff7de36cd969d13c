import StudyPlanner.Remote.Endpoint
import StudyPlanner.Remote.Metadata
import StudyPlanner.Remote.Frame
/-!
# The HTTP request of a call

A call travels as gRPC-web over plain HTTP, one request per call:

| Request part | Value |
|--------------|-------|
| method | `POST` |
| URL | `<endpoint>/studymap.Studymap/<method>` (`Endpoint.url`) |
| `content-type`, `accept` | `application/grpc-web+proto` |
| `x-grpc-web` | `1` |
| metadata | one header per entry, in order (`token`, `device`) |
| body | the request message in a single data frame (`encodeData`) |
-/

namespace StudyPlanner.Remote

/-- The media type of gRPC-web with protobuf messages, sent and accepted. -/
def grpcWebProto : String := "application/grpc-web+proto"

/-- The headers every call starts with, before its metadata. -/
def callHeaders : List (String × String) :=
  [("content-type", grpcWebProto), ("accept", grpcWebProto), ("x-grpc-web", "1")]

/-- An HTTP request as the transport sends it. -/
structure HttpRequest where
  /-- The HTTP method. -/
  verb : String
  url : String
  /-- The headers in the order they are set. -/
  headers : List (String × String)
  body : List UInt8
  deriving DecidableEq, Repr

/-- The request of a call to `method` with `metadata` and the encoded `message`, sent to the
endpoint `e`. -/
def Endpoint.request (e : Endpoint) (method : String) (metadata : Metadata)
    (message : List UInt8) : HttpRequest :=
  { verb := "POST", url := e.url method, headers := callHeaders ++ metadata.entries,
    body := encodeData message }

end StudyPlanner.Remote
