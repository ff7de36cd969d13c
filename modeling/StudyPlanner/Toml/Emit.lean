/-!
# Writing TOML

Strings are written in the form that needs the fewest escapes:

* a string that holds a line feed is written over several lines between triple quotes;
* a string with a `"` or a `\` is written as a literal string (between `'`, or `'''` when it
  holds a `'`), unless it holds a control character other than tab and line feed, three `'`
  in a row, or ends with `'`: a literal string cannot escape any of these;
* any other string is a basic string, with `\b \t \f \r \" \\` and `\uXXXX` (upper-case
  hexadecimal) for the other control characters.

An array of one value or none is written on one line; a longer one has each value on its own
line, indented by four spaces and followed by a comma.
-/

namespace StudyPlanner.Toml

/-- The quoting of a written string. -/
inductive StringStyle where
  | newlineTriple
  | onelineTriple
  | onelineSingle
  deriving DecidableEq, Repr

/-- What a pass over a string gathers to choose its quoting. -/
structure StyleScan where
  multiline : Bool := false
  maxSingles : Nat := 0
  singles : Nat := 0
  preferLiteral : Bool := false
  canBeLiteral : Bool := true
  deriving DecidableEq, Repr

/-- Takes one more character into account. -/
def StyleScan.step (st : StyleScan) (ch : Char) : StyleScan :=
  if st.canBeLiteral then
    let st :=
      if ch = '\'' then
        { st with singles := st.singles + 1, canBeLiteral := decide (st.singles + 1 < 3) }
      else { st with maxSingles := max st.maxSingles st.singles, singles := 0 }
    if ch = '\t' then st
    else if ch = '"' || ch = '\\' then { st with preferLiteral := true }
    else if ch = '\n' then { st with multiline := true }
    else if ch.toNat ≤ 0x1F || ch.toNat = 0x7F then { st with canBeLiteral := false }
    else st
  else if ch = '\n' then { st with multiline := true }
  else st

/-- The quoting of a string, and whether it is written as a literal string. -/
def inferStyle (s : String) : StringStyle × Bool :=
  let st := s.toList.foldl StyleScan.step {}
  let ty := if st.multiline then StringStyle.newlineTriple else .onelineSingle
  let literal :=
    st.canBeLiteral && !(st.singles > 0 && s.toList.getLast? = some '\'') && st.preferLiteral
  if !literal then (ty, false)
  else
    let most := max st.maxSingles st.singles
    (if ty = .onelineSingle && most ≥ 1 then .onelineTriple else ty, true)

/-- The four upper-case hexadecimal digits of a code point below `0x10000`. -/
def hex4 (n : Nat) : List Char :=
  let digit (d : Nat) : Char := if d < 10 then Char.ofNat (d + 48) else Char.ofNat (d + 55)
  [digit (n / 4096 % 16), digit (n / 256 % 16), digit (n / 16 % 16), digit (n % 16)]

/-- How a character is written inside a basic string of the given style. -/
def basicEscape (style : StringStyle) (ch : Char) : List Char :=
  if ch = '\x08' then ['\\', 'b']
  else if ch = '\t' then ['\\', 't']
  else if ch = '\n' then (if style = .newlineTriple then ['\n'] else ['\\', 'n'])
  else if ch = '\x0c' then ['\\', 'f']
  else if ch = '\r' then ['\\', 'r']
  else if ch = '"' then ['\\', '"']
  else if ch = '\\' then ['\\', '\\']
  else if ch.toNat ≤ 0x1F || ch.toNat = 0x7F then ['\\', 'u'] ++ hex4 ch.toNat
  else [ch]

/-- A string as TOML writes it. -/
def stringRepr (s : String) : String :=
  match inferStyle s with
  | (.newlineTriple, true) => "'''\n" ++ s ++ "'''"
  | (.onelineTriple, true) => "'''" ++ s ++ "'''"
  | (.onelineSingle, true) => "'" ++ s ++ "'"
  | (style, false) =>
    let body := String.ofList (s.toList.flatMap (basicEscape style))
    if style = .newlineTriple then "\"\"\"\n" ++ body ++ "\"\"\"" else "\"" ++ body ++ "\""

/-- An array of written values: on one line when it has at most one, else one per line. -/
def arrayRepr (items : List String) : String :=
  if items.length ≤ 1 then "[" ++ String.join items ++ "]"
  else "[" ++ String.join (items.map (fun i => "\n    " ++ i ++ ",")) ++ "\n]"

/-- A `key = value` line. -/
def keyValueLine (key value : String) : String := key ++ " = " ++ value ++ "\n"

end StudyPlanner.Toml
