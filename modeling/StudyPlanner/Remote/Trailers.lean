import StudyPlanner.Text.Blank
import StudyPlanner.Text.Utf8
/-!
# Trailers

The last frame of a reply holds *trailers*: lines `name: value` separated by CR LF. A line
without a colon is ignored; the name is the text before the first colon, trimmed and in ASCII
lower case, and the value is the rest, trimmed. Looking a name up ignores ASCII case and takes
the first entry that matches.
-/

namespace StudyPlanner.Remote

/-- The entries of a trailer frame, in order. -/
structure Trailers where
  entries : List (String × String) := []
  deriving DecidableEq, Repr, Inhabited

namespace Trailers

/-- Splits a character list at every CR LF. -/
def splitLines : List Char → List (List Char)
  | [] => [[]]
  | '\r' :: '\n' :: rest => [] :: splitLines rest
  | c :: rest =>
    match splitLines rest with
    | line :: more => (c :: line) :: more
    | [] => [[c]]

/-- The name and value of one line, if it has a colon. -/
def entryOfLine (line : List Char) : Option (String × String) :=
  match line.span (· != ':') with
  | (_, []) => none
  | (name, _ :: value) =>
    some (String.ofList ((Text.trimList name).map Char.toLower), String.ofList (Text.trimList value))

/-- Reads a trailer frame's payload. -/
def parse (payload : List UInt8) : Trailers :=
  { entries := (splitLines (Text.Utf8.decodeChars payload)).filterMap entryOfLine }

/-- Whether two names are equal when ASCII case is ignored. -/
def sameName (a b : String) : Bool := a.toList.map Char.toLower == b.toList.map Char.toLower

/-- The value of the first entry with the given name, ignoring ASCII case. -/
def get? (t : Trailers) (name : String) : Option String :=
  (t.entries.find? fun e => sameName e.1 name).map (·.2)

end Trailers

end StudyPlanner.Remote
