import StudyPlanner.App.Server
import StudyPlanner.Service.Operation
/-!
# The app's connection to the service

What every page shares: the session (its store of token and device id), the endpoint the
calls go to, and the service at the other end. A call prepares its request from the session,
sends it as an HTTP request (`Endpoint.request`), and lets its outcome update the session,
exactly as `Operation.run` does with the scripted service as the transport.
-/

namespace StudyPlanner.App

open Remote Service

/-- The session, the endpoint, and the service. -/
structure Connection where
  session : Session := {}
  endpoint : Endpoint
  server : Server := {}
  deriving Repr

namespace Connection

variable {α : Type}

/-- Makes one call: its result, and the connection after it. -/
def call (c : Connection) (op : Operation α) : Except CallError α × Connection :=
  let (req, session) := op.prepare c.session
  let (reply, server) :=
    c.server.exchange req.method (c.endpoint.request req.method req.metadata req.body)
  let (r, session) := op.finish reply session
  (r, { c with session, server })

/-- Makes one call whose failure a page shows as text. -/
def fetch (c : Connection) (op : Operation α) : Except String α × Connection :=
  let (r, c) := c.call op
  (r.mapError CallError.message, c)

/-- Whether the session holds a token. -/
def signedIn (c : Connection) : Bool := c.session.isAuthenticated

end Connection

end StudyPlanner.App
