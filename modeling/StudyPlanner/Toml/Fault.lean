import StudyPlanner.Toml.Syntax
/-!
# Why reading a document failed

A reader that fails says where (a byte offset), and gathers on its way out what the enclosing
readers were reading (a *label*, such as `basic string`) and what they would have accepted
(*expectations*, such as `=`). A failure is either a *backtrack*, which lets an enclosing
reader try something else, or a *cut*, which ends the whole reading.

The message has up to three lines: `invalid <label>` with the innermost label, `expected a, b`
with the expectations innermost first, and the cause when the failure came from a check on
what was read (a number too large, a key defined twice).

A failure found after reading, on the document's tables or on the type of a value, is a
`TomlError`: a message and the span it points at, if any.
-/

namespace StudyPlanner.Toml

/-- Something a reader would have accepted where it failed. -/
inductive Expectation where
  | char (c : Char)
  | literal (text : String)
  | described (text : String)
  deriving DecidableEq, Repr

/-- How an expectation is named in a message: a line feed is `newline`, other characters and
literals stand between backticks, and a description stands for itself. -/
def Expectation.text : Expectation → String
  | .char c => if c = '\n' then "newline" else "`" ++ c.toString ++ "`"
  | .literal s => "`" ++ s ++ "`"
  | .described s => s

/-- A failed reading. -/
structure Fault where
  offset : Nat
  label : Option String := none
  expected : List Expectation := []
  cause : Option String := none
  cut : Bool := false
  deriving DecidableEq, Repr

namespace Fault

/-- Adds the label of an enclosing reader; the innermost label is the one kept. -/
def within (l : String) (f : Fault) : Fault :=
  match f.label with
  | none => { f with label := some l }
  | some _ => f

/-- Adds what an enclosing reader would have accepted, after those already gathered. -/
def expecting (e : Expectation) (f : Fault) : Fault := { f with expected := f.expected ++ [e] }

/-- Makes the failure final. -/
def toCut (f : Fault) : Fault := { f with cut := true }

/-- The text of the failure: label, expectations and cause, one per line. -/
def message (f : Fault) : String :=
  let parts :=
    (match f.label with | some l => ["invalid " ++ l] | none => []) ++
    (if f.expected.isEmpty then [] else ["expected " ++ ", ".intercalate (f.expected.map Expectation.text)]) ++
    (match f.cause with | some c => [c] | none => [])
  "\n".intercalate parts

end Fault

/-- A failure to read a document, or to take a configuration from it: the message and the
span of the input it is about. -/
structure TomlError where
  message : String
  span : Option Span
  deriving DecidableEq, Repr

/-- The failure of a reading as a document error: a point at the offset, or the empty span at
the end of the input. -/
def Fault.toError (inputLength : Nat) (f : Fault) : TomlError :=
  { message := f.message,
    span := some (if f.offset = inputLength then ⟨f.offset, f.offset⟩ else ⟨f.offset, f.offset + 1⟩) }

/-- What a check on a number or a date says when the value is outside its range. -/
def outOfRange : String := "value is out of range"

end StudyPlanner.Toml
