/-!
# TOML documents as read

A document is a table: an ordered list of keys, each with an item. Items keep the span of the
text they were read from, in bytes from the start of the input, because messages about a value
point at it.

* A scalar is a string, an integer, a float, a boolean or a date-time.
* An array is written inline, `[ ... ]`, and holds values.
* A table is either written inline, `{ ... }`, or opened by a header `[a.b]`, or made on the
  way to a deeper key (`a.b.c = 1` makes `a` and `b`), which is an *implicit* table; a table made
  by a dotted key is also *dotted*. These two marks decide which later definitions clash.
* An array of tables is opened by `[[a]]` headers, one table per header.

Floats are kept as the decimal they were written as (sign, digits, power of ten), infinities
and NaN apart; they are only ever shown, never computed with.
-/

namespace StudyPlanner.Toml

/-- A range of bytes of the input, `start` included and `stop` excluded. -/
structure Span where
  start : Nat
  stop : Nat
  deriving DecidableEq, Repr, Inhabited

/-- A key as written: its name after unquoting and where its text stands. -/
structure Key where
  name : String
  span : Span
  deriving DecidableEq, Repr, Inhabited

/-- A float as written: a finite decimal, an infinity or NaN. -/
inductive FloatValue where
  | finite (negative : Bool) (digits : List Nat) (exponent : Int)
  | infinite (negative : Bool)
  | nan
  deriving DecidableEq, Repr, Inhabited

/-- A value that holds no other value. -/
inductive Scalar where
  | string (text : String)
  | integer (value : Int)
  | float (value : FloatValue)
  | boolean (value : Bool)
  | datetime
  deriving DecidableEq, Repr, Inhabited

/-- How a table came to be: inline, opened by a header, or made on the way to a deeper key. -/
structure TableForm where
  inline : Bool := false
  implicit : Bool := false
  dotted : Bool := false
  deriving DecidableEq, Repr, Inhabited

/-- An item of a document: a scalar, an inline array, a table or an array of tables. -/
inductive Item where
  | scalar (span : Span) (value : Scalar)
  | array (span : Span) (items : List Item)
  | table (span : Option Span) (form : TableForm) (entries : List (Key × Item))
  | tables (items : List Item)
  deriving Repr, Inhabited

namespace Item

/-- Where an item's own text stands, when it has one: a value's text or a table's header. -/
def span? : Item → Option Span
  | .scalar s _ => some s
  | .array s _ => some s
  | .table s _ _ => s
  | .tables _ => none

/-- The name of a value's type, as messages about dotted keys give it. -/
def typeName : Item → String
  | .scalar _ (.string _) => "string"
  | .scalar _ (.integer _) => "integer"
  | .scalar _ (.float _) => "float"
  | .scalar _ (.boolean _) => "boolean"
  | .scalar _ .datetime => "datetime"
  | .array _ _ => "array"
  | .table _ f _ => if f.inline then "inline table" else "table"
  | .tables _ => "array of tables"

end Item

end StudyPlanner.Toml
