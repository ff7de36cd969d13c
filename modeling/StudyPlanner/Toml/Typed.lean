import StudyPlanner.Toml.Tree
import StudyPlanner.Toml.Fault
import StudyPlanner.Text.Quoted
import StudyPlanner.Text.Decimal
/-!
# Taking typed values out of a document

A setting expects a value of some type; an item of another type is refused with a message
that names what was found and what was expected, pointing at the item (or, for a table made
on the way to a deeper key, at its key):

`invalid type: integer` followed by the value in backticks, `, expected a string`.

What was found is named by its kind: a string with its quoted text, an integer, a float or a
boolean with its value; an array or an array of tables is a `sequence`; a table, an inline
table and a date-time are each a `map`.

A float is shown as the shortest decimal without exponent, with `.0` added when it has no
fraction; infinities are `inf` and `-inf`, and NaN is `NaN`.
-/

namespace StudyPlanner.Toml

/-- Removes zeros at the end of a decimal's digits, raising its power of ten. -/
def dropTrailingZeros (ds : List Nat) (e : Int) : List Nat × Int :=
  let kept := (ds.reverse.dropWhile (· = 0)).reverse
  (kept, e + (ds.length - kept.length : Nat))

/-- Digits as characters. -/
def digitChars (ds : List Nat) : String := String.ofList (ds.map (fun d => Char.ofNat (d + 48)))

/-- A float as messages show it. -/
def FloatValue.display : FloatValue → String
  | .nan => "NaN"
  | .infinite negative => if negative then "-inf" else "inf"
  | .finite negative digits e =>
    let sign := if negative then "-" else ""
    let significant := digits.dropWhile (· = 0)
    if significant.isEmpty || (significant.length : Int) + e ≤ -324 then sign ++ "0.0"
    else
      let (ds, e') := dropTrailingZeros significant e
      if e' ≥ 0 then sign ++ digitChars ds ++ String.ofList (List.replicate e'.toNat '0') ++ ".0"
      else
        let point : Int := ds.length + e'
        if point > 0 then
          sign ++ digitChars (ds.take point.toNat) ++ "." ++ digitChars (ds.drop point.toNat)
        else sign ++ "0." ++ String.ofList (List.replicate (-point).toNat '0') ++ digitChars ds

/-- How a refused item is named. -/
def Item.unexpected : Item → String
  | .scalar _ (.string s) => "string " ++ Text.quote s
  | .scalar _ (.integer n) => "integer `" ++ Text.Decimal.ofInt n ++ "`"
  | .scalar _ (.float f) => "floating point `" ++ f.display ++ "`"
  | .scalar _ (.boolean b) => "boolean `" ++ (if b then "true" else "false") ++ "`"
  | .scalar _ .datetime => "map"
  | .array _ _ => "sequence"
  | .tables _ => "sequence"
  | .table _ _ _ => "map"

/-- The refusal of an item where a value described as `expected` was wanted; `near` is where
to point when the item has no span of its own. -/
def typeError (item : Item) (near : Span) (expected : String) : TomlError :=
  { message := "invalid type: " ++ item.unexpected ++ ", expected " ++ expected,
    span := some (item.span?.getD near) }

/-- The text of a string item. -/
def expectString (near : Span) : Item → Except TomlError String
  | .scalar _ (.string s) => .ok s
  | other => .error (typeError other near "a string")

/-- The texts of an array of strings. -/
def expectStrings (near : Span) : Item → Except TomlError (List String)
  | .array span items => items.mapM (expectString span)
  | .tables items => items.mapM (expectString near)
  | other => .error (typeError other near "a sequence")

end StudyPlanner.Toml
