/-!
# Call metadata

Metadata are the key/value pairs sent with a call as headers. They form an
insertion-ordered map: inserting a key that is present replaces its value where it stands,
and a new key goes to the end, so no key is ever held twice.
-/

namespace StudyPlanner.Remote

/-- Key/value pairs sent with a call, each key once, in order of first insertion. -/
structure Metadata where
  entries : List (String × String) := []
  deriving DecidableEq, Repr, Inhabited

namespace Metadata

/-- Replaces the value of `key` where it stands, or appends the pair. -/
def insertEntry (key value : String) : List (String × String) → List (String × String)
  | [] => [(key, value)]
  | (k, v) :: rest => if k = key then (k, value) :: rest else (k, v) :: insertEntry key value rest

/-- Sets `key` to `value`. -/
def insert (m : Metadata) (key value : String) : Metadata :=
  { entries := insertEntry key value m.entries }

/-- The value of `key`, if it was inserted. -/
def get? (m : Metadata) (key : String) : Option String :=
  (m.entries.find? fun e => e.1 == key).map (·.2)

end Metadata

end StudyPlanner.Remote
