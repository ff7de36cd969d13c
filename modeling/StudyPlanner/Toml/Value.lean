import StudyPlanner.Toml.Number
import StudyPlanner.Toml.Tree
/-!
# Reading values

The first character of a value decides what it is: a quote starts a string, `[` an array,
`{` an inline table, a sign or a digit a number or a date, `t` and `f` the booleans, `i` and
`n` the special floats. Anything else is reported as a missing string, the most likely
mistake being a string without quotes.

* An array holds values separated by commas, with an optional comma after the last; blanks,
  line ends and comments may stand around each value.
* An inline table holds `key = value` pairs separated by commas, on one line, without a
  trailing comma; its keys are placed as in a document (`Toml.Tree`).
* Arrays and inline tables nest at most 79 deep.

The readers are mutually recursive and carry fuel; `valueFuel` gives enough for any input, as
each call either reads a character or goes one level down a chain no longer than four times
the input.
-/

namespace StudyPlanner.Toml

/-- How deep arrays and inline tables may nest: the level reaching it is refused. -/
def nestingLimit : Nat := 80

/-- The failure for a value that is none of the known kinds. -/
def notAValue (c : Cursor) : Fault :=
  { offset := c.offset, label := some "string", expected := [.char '"', .char '\''] }

/-- The failure for an array or inline table nested too deep. -/
def tooDeep (c : Cursor) : Fault :=
  { offset := c.offset, cause := some "recursion limit exceeded", cut := true }

/-- Places the pairs of an inline table, in order, in a new table. -/
def pairsTable (pairs : List (List Key × Item)) : Except Clash Entries :=
  pairs.foldlM (fun (root : Entries) pair =>
    let path := pair.1.dropLast
    match pair.1.getLast? with
    | none => .ok root
    | some k =>
      let place : AtTable Unit := fun form entries =>
        if form.dotted = path.isEmpty then .error (.duplicateKey k.name none)
        else if (entries.lookup k.name).isSome then .error (.duplicateKey k.name none)
        else .ok (entries ++ [(k, pair.2)], ())
      match descend true (!path.isEmpty) [] path { inline := true } root place with
      | .ok (root', _) => .ok root'
      | .error e => .error e) []

mutual

/-- Reads a value at nesting depth `depth` (the number of arrays and inline tables around it). -/
def value : Nat → Nat → Cursor → Reading Item
  | 0, _, c => .error c.stop
  | fuel + 1, depth, c =>
    let scalar (r : Reading Scalar) : Reading Item :=
      match r with
      | .ok (s, c1) => .ok (.scalar ⟨c.offset, c1.offset⟩ s, c1)
      | .error f => .error f
    let word (w : String) (s : Scalar) (cut : Bool) : Reading Item :=
      if c.startsWith w then scalar (.ok (s, c.skip w.length))
      else .error { notAValue c with cut := cut }
    match c.peek? with
    | none => .error c.stop
    | some ch =>
      if ch = '"' || ch = '\'' then
        scalar (match quotedString c with
          | .ok (s, c1) => .ok (.string s, c1)
          | .error f => .error f)
      else if ch = '[' then array fuel depth c
      else if ch = '{' then inlineTable fuel depth c
      else if ch = '+' || ch = '-' || isDigitChar ch then scalar (numberOrDate c)
      else if ch = '_' then
        scalar (match integer c with
          | .ok (n, c1) => .ok (.integer n, c1)
          | .error f => .error (f.expecting (.described "leading digit")))
      else if ch = '.' then
        scalar (match float c with
          | .ok (v, c1) => .ok (.float v, c1)
          | .error f => .error (f.expecting (.described "leading digit")))
      else if ch = 't' then word "true" (.boolean true) true
      else if ch = 'f' then word "false" (.boolean false) true
      else if ch = 'i' then word "inf" (.float (.infinite false)) false
      else if ch = 'n' then word "nan" (.float .nan) false
      else .error (notAValue c)

/-- Reads an array; the cursor stands on its `[`. -/
def array : Nat → Nat → Cursor → Reading Item
  | 0, _, c => .error c.stop
  | fuel + 1, depth, c =>
    if depth + 1 ≥ nestingLimit then .error (tooDeep c)
    else
      match arrayValues fuel (depth + 1) c.next with
      | .error f => .error f.toCut
      | .ok (items, c1) =>
        if c1.peek? = some ']' then .ok (.array ⟨c.offset, c1.next.offset⟩ items, c1.next)
        else .error { offset := c1.offset, label := some "array", expected := [.char ']'], cut := true }

/-- Reads the values of an array, the comma after the last, and the blanks before `]`. -/
def arrayValues : Nat → Nat → Cursor → Reading (List Item)
  | 0, _, c => .error c.stop
  | fuel + 1, depth, c =>
    let listed : Except Fault (List Item × Cursor) :=
      match arrayValue fuel depth c with
      | .error f => if f.cut then .error f else .ok ([], c)
      | .ok (v, c1) =>
        match arrayMore fuel depth [v] c1 with
        | .error f => .error f
        | .ok (vs, c2) => .ok (vs, if c2.peek? = some ',' then c2.next else c2)
    match listed with
    | .error f => .error f
    | .ok (vs, c1) =>
      match wsCommentNewline c1.fuel c1 with
      | .error f => .error f
      | .ok (_, c2) => .ok (vs, c2)

/-- Reads the values after the first of an array, each after a comma. -/
def arrayMore : Nat → Nat → List Item → Cursor → Reading (List Item)
  | 0, _, acc, c => .ok (acc, c)
  | fuel + 1, depth, acc, c =>
    if c.peek? = some ',' then
      match arrayValue fuel depth c.next with
      | .ok (v, c1) => arrayMore fuel depth (acc ++ [v]) c1
      | .error f => if f.cut then .error f else .ok (acc, c)
    else .ok (acc, c)

/-- Reads one value of an array with the blanks, line ends and comments around it. -/
def arrayValue : Nat → Nat → Cursor → Reading Item
  | 0, _, c => .error c.stop
  | fuel + 1, depth, c =>
    match wsCommentNewline c.fuel c with
    | .error f => .error f
    | .ok (_, c1) =>
      match value fuel depth c1 with
      | .error f => .error f
      | .ok (v, c2) =>
        match wsCommentNewline c2.fuel c2 with
        | .error f => .error f
        | .ok (_, c3) => .ok (v, c3)

/-- Reads an inline table; the cursor stands on its `{`. -/
def inlineTable : Nat → Nat → Cursor → Reading Item
  | 0, _, c => .error c.stop
  | fuel + 1, depth, c =>
    if depth + 1 ≥ nestingLimit then .error (tooDeep c)
    else
      let c1 := c.next
      match inlinePairs fuel (depth + 1) c1 with
      | .error f => .error f.toCut
      | .ok (pairs, c2) =>
        match pairsTable pairs with
        | .error e => .error { offset := c1.offset, cause := some e.message, cut := true }
        | .ok entries =>
          if c2.peek? = some '}' then
            .ok (.table (some ⟨c.offset, c2.next.offset⟩) { inline := true } entries, c2.next)
          else
            .error { offset := c2.offset, label := some "inline table", expected := [.char '}'],
                     cut := true }

/-- Reads the pairs of an inline table and the blanks before `}`. -/
def inlinePairs : Nat → Nat → Cursor → Reading (List (List Key × Item))
  | 0, _, c => .error c.stop
  | fuel + 1, depth, c =>
    let listed : Except Fault (List (List Key × Item) × Cursor) :=
      match inlinePair fuel depth c with
      | .error f => if f.cut then .error f else .ok ([], c)
      | .ok (p, c1) => inlineMore fuel depth [p] c1
    match listed with
    | .error f => .error f
    | .ok (ps, c1) => .ok (ps, skipWs c1)

/-- Reads the pairs after the first of an inline table, each after a comma. -/
def inlineMore : Nat → Nat → List (List Key × Item) → Cursor → Reading (List (List Key × Item))
  | 0, _, acc, c => .ok (acc, c)
  | fuel + 1, depth, acc, c =>
    if c.peek? = some ',' then
      match inlinePair fuel depth c.next with
      | .ok (p, c1) => inlineMore fuel depth (acc ++ [p]) c1
      | .error f => if f.cut then .error f else .ok (acc, c)
    else .ok (acc, c)

/-- Reads one `key = value` pair of an inline table. -/
def inlinePair : Nat → Nat → Cursor → Reading (List Key × Item)
  | 0, _, c => .error c.stop
  | fuel + 1, depth, c =>
    match key c with
    | .error f => .error f
    | .ok (path, c1) =>
      if c1.peek? = some '=' then
        match value fuel depth (skipWs c1.next) with
        | .error f => .error f.toCut
        | .ok (v, c2) => .ok ((path, v), skipWs c2)
      else .error { offset := c1.offset, expected := [.char '.', .char '='], cut := true }

end

/-- Fuel enough to read any value that starts at `c`. -/
def valueFuel (c : Cursor) : Nat := 4 * c.fuel + 16

end StudyPlanner.Toml
