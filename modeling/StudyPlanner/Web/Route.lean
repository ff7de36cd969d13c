import StudyPlanner.Web.Nav
import StudyPlanner.Text.Percent
/-!
# Routes of the web app

The app has a sign-in page at `/`, a sign-up page at `/signup`, and behind sign-in the home,
account and six study pages. A study page's route carries its whole query as one text. Any
other path is *not found*.

The URL of a route is its path, and for a study page `?` and the query with every byte but
letters, digits and `-._~` percent-encoded, so the query's own `=`, `&`, `+` and `%` are
encoded once more. Reading a URL drops what follows `#`, splits the query off at the first
`?`, drops one trailing `/`, and percent-decodes the query once (keeping it as it was when the
result is not UTF-8); a URL that does not start with `/` is no route, which the router reports
with `noMatchMessage`.
-/

namespace StudyPlanner.Web

/-- A place in the web app. -/
inductive Route where
  | signIn
  | signUp
  | home
  | roadmap (query : String)
  | subject (query : String)
  | topic (query : String)
  | section (query : String)
  | card (query : String)
  | resource (query : String)
  | account
  | notFound (segments : List String)
  deriving DecidableEq, Repr, Inhabited

namespace Route

/-- The route a destination leads to. -/
def ofDestination : Destination → Route
  | .signIn => .signIn
  | .signUp => .signUp
  | .home => .home
  | .account => .account
  | .roadmap p => .roadmap p.toQuery
  | .subject p => .subject p.toQuery
  | .resource p => .resource p.toQuery
  | .section p => .section p.toQuery
  | .topic p => .topic p.toQuery
  | .card p => .card p.toQuery

/-- A study page's URL: its path, `?`, and the query encoded once more. -/
def withQuery (path query : String) : String := path ++ "?" ++ Text.Percent.encodeComponent query

/-- The URL of a route. -/
def url : Route → String
  | .signIn => "/"
  | .signUp => "/signup"
  | .home => "/home"
  | .roadmap q => withQuery "/roadmap" q
  | .subject q => withQuery "/subject" q
  | .topic q => withQuery "/topic" q
  | .section q => withQuery "/section" q
  | .card q => withQuery "/card" q
  | .resource q => withQuery "/resource" q
  | .account => "/account"
  | .notFound segs => "/" ++ "/".intercalate (segs.map Text.Percent.encodeComponent)

/-- Percent-decodes a text once, when the bytes it gives are UTF-8. -/
def decodeOnce (s : String) : Option String :=
  Text.Utf8.decode? (Text.Percent.decodeBytes (Text.Utf8.encode s))

/-- The route of a path's segments (after the leading `/`) and query. -/
def ofSegments (segs : List String) (query : String) : Route :=
  match segs with
  | [] => .signIn
  | ["signup"] => .signUp
  | ["home"] => .home
  | ["roadmap"] => .roadmap query
  | ["subject"] => .subject query
  | ["topic"] => .topic query
  | ["section"] => .section query
  | ["card"] => .card query
  | ["resource"] => .resource query
  | ["account"] => .account
  | segs => .notFound segs

/-- Reads a URL as a route. -/
def parse (s : String) : Option Route :=
  let cs := s.toList
  let beforeHash := cs.takeWhile (· != '#')
  let (path, query) := match beforeHash.span (· != '?') with
    | (p, _ :: q) => (p, q)
    | (p, []) => (p, [])
  let path := if path.getLast? = some '/' then path.dropLast else path
  let query := String.ofList query
  let query := (decodeOnce query).getD query
  match cs with
  | '/' :: _ =>
    let segs := (splitAt '/' path).drop 1 |>.map fun seg =>
      let seg := String.ofList seg
      (decodeOnce seg).getD seg
    some (ofSegments segs query)
  | _ => none

/-- What the router says of an address that is no route: a heading, then the routes it tried.
An address that does not start with `/` is turned away before any route is tried, so the list
under the heading is empty. -/
def noMatchMessage : String := "Route did not match:\nAttempted Matches:\n"

/-- Reads a URL as a route, or says why it is none, as the router reports it. -/
def read (s : String) : Except String Route :=
  match parse s with
  | some r => .ok r
  | none => .error noMatchMessage

end Route

end StudyPlanner.Web
