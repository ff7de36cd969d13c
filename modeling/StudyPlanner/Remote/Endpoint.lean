import StudyPlanner.Remote.Error
import StudyPlanner.Text.Quoted
/-!
# Service endpoints

An endpoint is the base URL of the study service. It is given without trailing slashes and
must start with `http://` or `https://`, in lower case; a call to method `M` goes to
`<endpoint>/studymap.Studymap/M`.
-/

namespace StudyPlanner.Remote

/-- The name of the remote service, the path segment before every method. -/
def serviceName : String := "studymap.Studymap"

/-- A checked base URL of the service. -/
structure Endpoint where
  base : String
  deriving DecidableEq, Repr

/-- Drops every `/` at the end of a character list. -/
def dropTrailingSlashes (cs : List Char) : List Char :=
  ((cs.reverse).dropWhile (· = '/')).reverse

namespace Endpoint

/-- Checks a base URL after dropping its trailing slashes. -/
def ofString (s : String) : Except CallError Endpoint :=
  let base := String.ofList (dropTrailingSlashes s.toList)
  if base.startsWith "http://" || base.startsWith "https://" then .ok ⟨base⟩
  else .error (.config ("endpoint must start with http:// or https://, got " ++ Text.quote base))

/-- The URL a call to `method` is sent to. -/
def url (e : Endpoint) (method : String) : String := e.base ++ "/" ++ serviceName ++ "/" ++ method

end Endpoint

end StudyPlanner.Remote
