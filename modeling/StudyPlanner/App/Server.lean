import StudyPlanner.Remote.Frame
import StudyPlanner.Remote.Status
import StudyPlanner.Remote.Endpoint
import StudyPlanner.Remote.Metadata
import StudyPlanner.Remote.Http
/-!
# The scripted study service

The web app talks to the study service over gRPC-web. Here the service is a script: for each
method a list of replies, the `n`-th call of a method getting the `n`-th reply and the last
reply repeating; a method the script does not name gets the empty message.

The service is reached only at `http://127.0.0.1:5`. Any other endpoint has nothing listening,
so every call to it fails as an HTTP client fails to send: `error sending request for url (…)`.
The service keeps each request it receives: its HTTP method, the path of its URL, its headers
and the message of its data frame (`Received`).

A reply is read the way the client reads every HTTP answer:

1. a `grpc-status` header is checked first, with `grpc-message` (a trailers-only answer);
2. then a status outside `200..299` is the transport failure `HTTP <code> <reason> from <M>`;
3. then the body's frames are decoded and the status in the trailer frame is checked.

A status line the client cannot take as a final answer (below 200, or not three digits) ends
the exchange without an answer, which again is a failure to send. A `204` answer has no body.
-/

namespace StudyPlanner.App

open Remote

/-! ## Replies -/

/-- One scripted answer. -/
structure Reply where
  /-- The message sent in a data frame, followed by a trailer frame with status `0`. -/
  message : List UInt8 := []
  /-- A status (and a message) sent alone in a trailer frame, instead of the message. -/
  status : Option (String × Option String) := none
  /-- Raw body bytes, instead of any frames. -/
  body : Option (List UInt8) := none
  /-- The HTTP status code. -/
  http : Nat := 200
  /-- Extra answer headers. -/
  headers : List (String × String) := []
  deriving Repr, Inhabited

/-- A trailer frame holding the given text. -/
def trailerFrame (text : String) : List UInt8 := Frame.encode ⟨trailerFlag, Text.Utf8.encode text⟩

/-- The body bytes of an answer. -/
def Reply.payload (r : Reply) : List UInt8 :=
  match r.body, r.status with
  | some raw, _ => raw
  | none, some (code, message) =>
    trailerFrame ("grpc-status: " ++ code ++ "\r\n" ++
      (match message with
       | some m => "grpc-message: " ++ m ++ "\r\n"
       | none => ""))
  | none, none => encodeData r.message ++ trailerFrame "grpc-status: 0\r\n"

/-- The answers to every method: a list of replies for each method name. -/
structure Script where
  replies : List (String × List Reply) := []
  deriving Repr, Inhabited

/-- The reply to the call of `method` that comes after `served` earlier calls of it. -/
def Script.reply (s : Script) (method : String) (served : Nat) : Reply :=
  match s.replies.lookup method with
  | none => {}
  | some rs => (rs[served]? <|> rs.getLast?).getD {}

/-! ## Status lines -/

/-- The reason phrase of an HTTP status code, for the codes that have one. -/
def reasonPhrase : Nat → Option String
  | 100 => some "Continue"
  | 101 => some "Switching Protocols"
  | 102 => some "Processing"
  | 103 => some "Early Hints"
  | 200 => some "OK"
  | 201 => some "Created"
  | 202 => some "Accepted"
  | 203 => some "Non Authoritative Information"
  | 204 => some "No Content"
  | 205 => some "Reset Content"
  | 206 => some "Partial Content"
  | 207 => some "Multi-Status"
  | 208 => some "Already Reported"
  | 226 => some "IM Used"
  | 300 => some "Multiple Choices"
  | 301 => some "Moved Permanently"
  | 302 => some "Found"
  | 303 => some "See Other"
  | 304 => some "Not Modified"
  | 305 => some "Use Proxy"
  | 307 => some "Temporary Redirect"
  | 308 => some "Permanent Redirect"
  | 400 => some "Bad Request"
  | 401 => some "Unauthorized"
  | 402 => some "Payment Required"
  | 403 => some "Forbidden"
  | 404 => some "Not Found"
  | 405 => some "Method Not Allowed"
  | 406 => some "Not Acceptable"
  | 407 => some "Proxy Authentication Required"
  | 408 => some "Request Timeout"
  | 409 => some "Conflict"
  | 410 => some "Gone"
  | 411 => some "Length Required"
  | 412 => some "Precondition Failed"
  | 413 => some "Payload Too Large"
  | 414 => some "URI Too Long"
  | 415 => some "Unsupported Media Type"
  | 416 => some "Range Not Satisfiable"
  | 417 => some "Expectation Failed"
  | 418 => some "I\x27m a teapot"
  | 421 => some "Misdirected Request"
  | 422 => some "Unprocessable Entity"
  | 423 => some "Locked"
  | 424 => some "Failed Dependency"
  | 425 => some "Too Early"
  | 426 => some "Upgrade Required"
  | 428 => some "Precondition Required"
  | 429 => some "Too Many Requests"
  | 431 => some "Request Header Fields Too Large"
  | 451 => some "Unavailable For Legal Reasons"
  | 500 => some "Internal Server Error"
  | 501 => some "Not Implemented"
  | 502 => some "Bad Gateway"
  | 503 => some "Service Unavailable"
  | 504 => some "Gateway Timeout"
  | 505 => some "HTTP Version Not Supported"
  | 506 => some "Variant Also Negotiates"
  | 507 => some "Insufficient Storage"
  | 508 => some "Loop Detected"
  | 510 => some "Not Extended"
  | 511 => some "Network Authentication Required"
  | _ => none

/-- A status code as a status line shows it: the code and its reason phrase. -/
def statusText (code : Nat) : String :=
  toString code ++ " " ++ (reasonPhrase code).getD "<unknown status code>"

/-! ## Reading an answer -/

/-- The failure of an exchange that gave no usable answer. -/
def sendFailure (url : String) : CallError :=
  .transport ("error sending request for url (" ++ url ++ ")")

/-- Whether two header names are equal when ASCII case is ignored. -/
def sameHeader (a b : String) : Bool := Trailers.sameName a b

/-- Whether a header value can be read as text: visible ASCII, spaces and tabs only. -/
def isHeaderText (s : String) : Bool :=
  s.toList.all fun c => c = '\t' || (' ' ≤ c && c.toNat < 127)

/-- The value of the first header with the given name, without the spaces and tabs around it,
when it can be read as text; a value that cannot counts as absent. -/
def headerValue (headers : List (String × String)) (name : String) : Option String :=
  (headers.find? fun h => sameHeader h.1 name).bind fun h =>
    let isGap (c : Char) : Bool := c = ' ' || c = '\t'
    let v := String.ofList ((h.2.toList.dropWhile isGap).reverse.dropWhile isGap).reverse
    if isHeaderText v then some v else none

/-- Whether an HTTP status reports success: `200` to `299`. -/
def isSuccess (code : Nat) : Bool := 200 ≤ code && code < 300

/-- What the client makes of an HTTP answer to a call of `method`, from its status, headers and
body: the reply message, or why the call failed. A status in the headers is checked first (a
trailers-only answer), then the HTTP status, then the body's frames and the status in their
trailers. -/
def readResponse (method : String) (http : Nat) (headers : List (String × String))
    (body : List UInt8) : Except CallError (List UInt8) := do
  checkStatus (headerValue headers "grpc-status") (headerValue headers "grpc-message")
  if !isSuccess http then
    throw (.transport ("HTTP " ++ statusText http ++ " from " ++ method))
  let frames ← decodeBody body
  frames.trailers.check
  pure (frames.message.getD [])

/-- What the client makes of a scripted answer to a call of `method` sent to `url`: the reply
message, or why the call failed. -/
def Reply.read (r : Reply) (method url : String) : Except CallError (List UInt8) :=
  if r.http < 200 || r.http > 999 then .error (sendFailure url)
  else readResponse method r.http r.headers (if r.http = 204 then [] else r.payload)

/-! ## Where calls go -/

/-- The ASCII lower case of a text. -/
def asciiLower (s : String) : String :=
  String.ofList (s.toList.map fun c => if 'A' ≤ c && c ≤ 'Z' then Char.ofNat (c.toNat + 32) else c)

/-- A URL split into its scheme (with `://`), its authority and the rest. The host is lower
case and a default port is left out, as a URL is written once it is parsed. -/
structure Address where
  scheme : String
  authority : String
  rest : String
  deriving DecidableEq, Repr

/-- Splits an `http` or `https` URL. -/
def Address.parse? (url : String) : Option Address :=
  let split (scheme : String) (after : List Char) (defaultPort : String) : Address :=
    let authority := after.takeWhile fun c => c != '/' && c != '?' && c != '#'
    let rest := after.drop authority.length
    let authority := asciiLower (String.ofList authority)
    let authority :=
      if authority.endsWith (":" ++ defaultPort) then
        String.ofList (authority.toList.take (authority.length - defaultPort.length - 1))
      else authority
    { scheme, authority, rest := String.ofList rest }
  if url.startsWith "http://" then some (split "http://" (url.toList.drop 7) "80")
  else if url.startsWith "https://" then some (split "https://" (url.toList.drop 8) "443")
  else none

/-- The URL as written out. -/
def Address.text (a : Address) : String := a.scheme ++ a.authority ++ a.rest

/-- Whether the address is the scripted service's. -/
def Address.isScripted (a : Address) : Bool := a.scheme == "http://" && a.authority == "127.0.0.1:5"

/-! ## What the service saw -/

/-- One request as the service received it: its HTTP method, the path of its URL, its headers
and the message of its data frame. -/
structure Received where
  verb : String
  path : String
  headers : List (String × String)
  /-- The message of the request's data frame. -/
  body : List UInt8
  deriving DecidableEq, Repr, Inhabited

/-- The value of the first header named `name`, ASCII case ignored. -/
def Received.header? (r : Received) (name : String) : Option String :=
  (r.headers.find? fun h => sameHeader h.1 name).map (·.2)

/-- The message a request body carries in its data frame; none when the body does not read. -/
def framedMessage (body : List UInt8) : List UInt8 :=
  match decodeBody body with
  | .ok b => b.message.getD []
  | .error _ => []

/-- The service: its script, how many calls of each method it has answered, and what it has
received, oldest first. -/
structure Server where
  script : Script := {}
  served : List (String × Nat) := []
  received : List Received := []
  deriving Repr, Inhabited

/-- How many calls of `method` the service has answered. -/
def Server.count (s : Server) (method : String) : Nat := (s.served.lookup method).getD 0

/-- Counts one more answered call of `method`. -/
def Server.bump (s : Server) (method : String) : Server :=
  let n := s.count method + 1
  { s with served := (method, n) :: s.served.filter (·.1 != method) }

/-- Sends one call of `method`, as the HTTP request `req`, to the service: the reply message or
why the call failed, and the service afterwards. -/
def Server.exchange (s : Server) (method : String) (req : HttpRequest) :
    Except CallError (List UInt8) × Server :=
  match Address.parse? req.url with
  | none => (.error (sendFailure req.url), s)
  | some addr =>
    if !addr.isScripted then (.error (sendFailure addr.text), s)
    else
      let seen : Received :=
        { verb := req.verb, path := addr.rest, headers := req.headers,
          body := framedMessage req.body }
      let reply := s.script.reply method (s.count method)
      let s := { s.bump method with received := s.received ++ [seen] }
      (reply.read method addr.text, s)

end StudyPlanner.App
