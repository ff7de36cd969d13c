import StudyPlanner.Markdown.Scanners
import StudyPlanner.Markdown.Event
/-!
# Reading one line of a markdown document

Block structure is decided line by line. A line is read through a cursor that knows both the
character offset and the column, with tab stops every four columns: a tab may be consumed in
part, when a container's indentation ends inside it, and the columns left of it are then
given to the content as spaces.

The recognizers here look at the rest of a line from its first non-blank character:

* ATX headings `#` to `######`, thematic breaks (three or more `*`, `_` or `-`), setext
  underlines (`=` or `-`), code fences (three or more backticks or tildes);
* list markers (`-`, `+`, `*`, or up to nine digits and `.` or `)`) with the width of the
  marker and the blanks after it;
* the seven kinds of HTML block starts and their end conditions;
* table delimiter rows (`|---|:-:|`) and the number of columns a header row has.
-/

namespace StudyPlanner.Markdown

/-- A line being read, and where the reading stands. -/
structure LineCursor where
  chars : Array Char
  offset : Nat := 0
  column : Nat := 0
  partialTab : Bool := false
  deriving Repr, Inhabited

namespace LineCursor

/-- The offset and column of the first character at or after the cursor that is not a space
or a tab. -/
def nonspace (lc : LineCursor) : Nat × Nat :=
  let rec go : Nat → Nat → Nat → Nat × Nat
    | 0, i, col => (i, col)
    | fuel + 1, i, col =>
      match lc.chars[i]? with
      | some ' ' => go fuel (i + 1) (col + 1)
      | some '\t' => go fuel (i + 1) (col + (4 - col % 4))
      | _ => (i, col)
  go (lc.chars.size + 1) lc.offset lc.column

/-- The columns of indentation before the first non-blank character. -/
def indent (lc : LineCursor) : Nat := lc.nonspace.2 - lc.column

/-- Whether the rest of the line is indented as code (four columns or more). -/
def indented (lc : LineCursor) : Bool := lc.indent ≥ 4

/-- Whether the rest of the line is blank. -/
def blank (lc : LineCursor) : Bool := lc.nonspace.1 ≥ lc.chars.size

/-- The first non-blank character. -/
def peekNonspace (lc : LineCursor) : Option Char := lc.chars[lc.nonspace.1]?

/-- The character at the cursor. -/
def peek (lc : LineCursor) : Option Char := lc.chars[lc.offset]?

/-- The rest of the line from its first non-blank character. -/
def restFromNonspace (lc : LineCursor) : Array Char := lc.chars.extract lc.nonspace.1 lc.chars.size

/-- Moves to the first non-blank character. -/
def toNonspace (lc : LineCursor) : LineCursor :=
  let (i, col) := lc.nonspace
  { lc with offset := i, column := col, partialTab := false }

/-- Moves `count` characters on, or `count` columns when `columns` holds, in which case a tab
may be consumed in part. -/
def advance (lc : LineCursor) (count : Nat) (columns : Bool) : LineCursor :=
  let rec go : Nat → LineCursor → Nat → LineCursor
    | 0, lc, _ => lc
    | fuel + 1, lc, n =>
      if n = 0 then lc
      else
        match lc.chars[lc.offset]? with
        | none => lc
        | some '\t' =>
          let toTab := 4 - lc.column % 4
          if columns then
            let part := decide (toTab > n)
            let step := min toTab n
            go fuel { lc with column := lc.column + step, offset := if part then lc.offset else lc.offset + 1,
                              partialTab := part } (n - step)
          else go fuel { lc with column := lc.column + toTab, offset := lc.offset + 1, partialTab := false } (n - 1)
        | some _ => go fuel { lc with column := lc.column + 1, offset := lc.offset + 1, partialTab := false } (n - 1)
  go (count + 1) lc count

/-- The rest of the line as content: a tab consumed in part gives its remaining columns as
spaces. -/
def rest (lc : LineCursor) : String :=
  if lc.partialTab then
    String.ofList (List.replicate (4 - lc.column % 4) ' ') ++
      String.ofList (lc.chars.extract (lc.offset + 1) lc.chars.size).toList
  else String.ofList (lc.chars.extract lc.offset lc.chars.size).toList

/-- Moves to the end of the line. -/
def toEnd (lc : LineCursor) : LineCursor := { lc with offset := lc.chars.size, partialTab := false }

end LineCursor

/-! ## Leaf block starts -/

/-- Whether all characters of a list are spaces or tabs. -/
def allBlank (cs : List Char) : Bool := cs.all isSpaceOrTab

/-- An ATX heading's level and the offset in `rest` where its text starts. -/
def atxHeading? (rest : Array Char) : Option (Nat × Nat) :=
  let h := (skipFrom rest (· = '#') 0)
  if h = 0 || h > 6 then none
  else
    match rest[h]? with
    | none => some (h, h)
    | some c => if isSpaceOrTab c then some (h, skipFrom rest isSpaceOrTab h) else none

/-- The text of an ATX heading without its closing sequence of `#`. -/
def atxContent (cs : List Char) : String :=
  let trimmedEnd := (cs.reverse.dropWhile isSpaceOrTab).reverse
  let hashes := trimmedEnd.reverse.takeWhile (· = '#')
  let before := (trimmedEnd.reverse.drop hashes.length).reverse
  if hashes.isEmpty then String.ofList cs
  else if allBlank before then ""
  else if (before.getLast?.map isSpaceOrTab).getD false then
    String.ofList ((before.reverse.dropWhile isSpaceOrTab).reverse)
  else String.ofList cs

/-- Whether a line is a thematic break: three or more of one of `*`, `_`, `-`, with blanks. -/
def isThematicBreak (rest : Array Char) : Bool :=
  match rest[0]? with
  | some c =>
    (c = '*' || c = '_' || c = '-') &&
      rest.toList.all (fun x => x = c || isSpaceOrTab x) && (rest.toList.filter (· = c)).length ≥ 3
  | none => false

/-- The level of a setext underline: `=` gives 1 and `-` gives 2. -/
def setextLevel? (rest : Array Char) : Option Nat :=
  match rest[0]? with
  | some c =>
    if c ≠ '=' && c ≠ '-' then none
    else
      let e := skipFrom rest (· = c) 0
      if allBlank (rest.extract e rest.size).toList then some (if c = '=' then 1 else 2) else none
  | none => none

/-- A code fence: its character, its length, and its info string. -/
def codeFence? (rest : Array Char) : Option (Char × Nat × String) :=
  match rest[0]? with
  | some c =>
    if c ≠ '`' && c ≠ '~' then none
    else
      let n := skipFrom rest (· = c) 0
      let after := (rest.extract n rest.size).toList
      if n < 3 then none
      else if c = '`' && after.contains '`' then none
      else some (c, n, unescape (Text.trimList after))
  | none => none

/-- Whether a line closes a fence of character `c` and length `n`. -/
def closesFence (rest : Array Char) (c : Char) (n : Nat) : Bool :=
  let m := skipFrom rest (· = c) 0
  m ≥ n && m ≥ 3 && allBlank (rest.extract m rest.size).toList

/-! ## List markers -/

/-- What a list item's marker says: its bullet, or its delimiter and start number, where it
stands and how far the item's content is from it. -/
structure ListMarker where
  bullet : Option Char
  delim : Char := '.'
  start : Nat := 1
  markerOffset : Nat := 0
  padding : Nat := 0
  deriving DecidableEq, Repr, Inhabited

/-- Whether two markers belong to one list: the same bullet, or the same delimiter. -/
def ListMarker.sameList (a b : ListMarker) : Bool :=
  a.bullet = b.bullet && (a.bullet.isSome || a.delim = b.delim)

/-- Reads a list marker where the rest of the line starts. `interrupts` says whether it would
interrupt a paragraph: then it must be a bullet or start at 1, and the item must not be empty.
Gives the marker and the cursor at the item's content. -/
def listMarker? (lc : LineCursor) (interrupts : Bool) : Option (ListMarker × LineCursor) :=
  if lc.indent ≥ 4 then none
  else
    let rest := lc.restFromNonspace
    let found : Option (ListMarker × Nat) :=
      match rest[0]? with
      | some c =>
        if c = '*' || c = '+' || c = '-' then some ({ bullet := some c }, 1)
        else
          let ds := takeFrom rest isAsciiDigit 0 10
          if ds.isEmpty || ds.length > 9 then none
          else
            match rest[ds.length]? with
            | some d =>
              if d = '.' || d = ')' then
                let start := ds.foldl (fun n x => n * 10 + hexValue x) 0
                if interrupts && start ≠ 1 then none
                else some ({ bullet := none, delim := d, start := start }, ds.length + 1)
              else none
            | none => none
      | none => none
    match found with
    | none => none
    | some (m, len) =>
      let nextOk := match rest[len]? with
        | none => true
        | some c => isSpaceOrTab c
      if !nextOk then none
      else if interrupts && allBlank (rest.extract len rest.size).toList then none
      else
        let markerOffset := lc.indent
        let atMarkerEnd := (lc.toNonspace).advance len true
        let startCol := atMarkerEnd.column
        let rec spaces : Nat → LineCursor → LineCursor
          | 0, c => c
          | fuel + 1, c =>
            let c' := c.advance 1 true
            if c'.column - startCol < 5 && (c'.peek.map isSpaceOrTab).getD false then spaces fuel c' else c'
        let after := spaces (lc.chars.size + 8) atMarkerEnd
        let blankItem := after.peek.isNone
        let spacesAfter := after.column - startCol
        if spacesAfter ≥ 5 || spacesAfter < 1 || blankItem then
          let back := if (atMarkerEnd.peek.map isSpaceOrTab).getD false then atMarkerEnd.advance 1 true
            else atMarkerEnd
          some ({ m with markerOffset := markerOffset, padding := len + 1 }, back)
        else some ({ m with markerOffset := markerOffset, padding := len + spacesAfter }, after)

/-! ## HTML blocks -/

/-- The tag names that start an HTML block of the sixth kind. -/
def blockTagNames : List String :=
  ["address", "article", "aside", "base", "basefont", "blockquote", "body", "caption", "center",
   "col", "colgroup", "dd", "details", "dialog", "dir", "div", "dl", "dt", "fieldset",
   "figcaption", "figure", "footer", "form", "frame", "frameset", "h1", "h2", "h3", "h4", "h5",
   "h6", "head", "header", "hr", "html", "iframe", "legend", "li", "link", "main", "menu",
   "menuitem", "nav", "noframes", "ol", "optgroup", "option", "p", "param", "search", "section",
   "summary", "table", "tbody", "td", "tfoot", "th", "thead", "title", "tr", "track", "ul"]

/-- A text with ASCII capitals made small. -/
def asciiLowerList (cs : List Char) : List Char :=
  cs.map fun c => if 'A' ≤ c && c ≤ 'Z' then Char.ofNat (c.toNat + 32) else c

/-- The kind (1 to 7) of HTML block a line starts, if any. The seventh kind, a lone complete
tag, is only allowed when `allowSeventh` holds (it cannot interrupt a paragraph). -/
def htmlBlockKind? (rest : Array Char) (allowSeventh : Bool) : Option Nat :=
  if rest[0]? ≠ some '<' then none
  else
    let endsName (i : Nat) : Bool := match rest[i]? with
      | none => true
      | some c => isHtmlBlank c || c = '>'
    let first := ["script", "pre", "textarea", "style"].any fun n =>
      hasAtFolded rest 1 n && endsName (1 + n.length)
    if first then some 1
    else if hasAt rest 0 "<!--" then some 2
    else if hasAt rest 0 "<?" then some 3
    else if hasAt rest 0 "<!" && ((rest[2]?.map isAsciiLetter).getD false) then some 4
    else if hasAt rest 0 "<![CDATA[" then some 5
    else
      let nameStart := if rest[1]? = some '/' then 2 else 1
      let name := takeFrom rest isAsciiAlnum nameStart 16
      let after := nameStart + name.length
      let nameOk := blockTagNames.contains (String.ofList (asciiLowerList name))
      let endOk := match rest[after]? with
        | none => true
        | some c => isHtmlBlank c || c = '>' || (c = '/' && rest[after + 1]? = some '>')
      if !name.isEmpty && nameOk && endOk then some 6
      else if !allowSeventh then none
      else
        let tagEnd := match openTagEnd rest 0 with
          | some e => some e
          | none => closeTagEnd rest 0
        match tagEnd with
        | some e => if (rest.extract e rest.size).toList.all isHtmlBlank then some 7 else none
        | none => none

/-- Whether a line ends an HTML block of kind 1 to 5. -/
def endsHtmlBlock (kind : Nat) (line : List Char) : Bool :=
  let s := line.toArray
  let has (t : String) : Bool := (findFrom s t (s.size + 1) 0).isSome
  let lower := (asciiLowerList line).toArray
  let hasLower (t : String) : Bool := (findFrom lower t (lower.size + 1) 0).isSome
  if kind = 1 then hasLower "</script>" || hasLower "</pre>" || hasLower "</textarea>" || hasLower "</style>"
  else if kind = 2 then has "-->"
  else if kind = 3 then has "?>"
  else if kind = 4 then has ">"
  else if kind = 5 then has "]]>"
  else false

/-! ## Tables -/

/-- The unescaped pipes of a line, and what follows the last of them. -/
def pipesIn : List Char → Nat × Option (List Char)
  | [] => (0, none)
  | '\\' :: _ :: rest => pipesIn rest
  | '|' :: rest =>
    let (n, after) := pipesIn rest
    (n + 1, some (after.getD rest))
  | _ :: rest => pipesIn rest

/-- The number of columns a header row has: its unescaped pipes plus one, less a pipe at
either end. -/
def headerColumns (line : List Char) : Int :=
  let (n, afterLast) := pipesIn line
  let trimmed := line.dropWhile isSpaceOrTab
  let leading : Int := if trimmed.head? = some '|' then 1 else 0
  let trailing : Int := match afterLast with
    | some rest => if allBlank rest then 1 else 0
    | none => 0
  (n : Int) - leading - trailing + 1

/-- Whether a header row line has any unescaped pipe. -/
def hasPipe (line : List Char) : Bool := (pipesIn line).1 > 0

/-- What a delimiter row has read so far. -/
structure DelimiterScan where
  cols : List Alignment := []
  active : Alignment := .none
  startCol : Bool := true
  foundPipe : Bool := false
  foundHyphen : Bool := false
  hyphenInCol : Bool := false
  failed : Bool := false
  deriving Repr, Inhabited

/-- Takes one character of a delimiter row. -/
def DelimiterScan.step (d : DelimiterScan) (c : Char) : DelimiterScan :=
  if d.failed then d
  else if c = ' ' then d
  else if c = ':' then
    let active := match d.startCol, d.active with
      | true, .none => Alignment.left
      | false, .left => .center
      | false, .none => .right
      | _, a => a
    { d with active := active, startCol := false }
  else if c = '-' then { d with startCol := false, foundHyphen := true, hyphenInCol := true }
  else if c = '|' then
    if !d.hyphenInCol then { d with failed := true }
    else { d with startCol := true, foundPipe := true, cols := d.cols ++ [d.active], active := .none,
                  hyphenInCol := false }
  else { d with failed := true }

/-- The alignments of a delimiter row, when the rest of a line is one. -/
def delimiterRow? (lc : LineCursor) : Option (List Alignment) :=
  let rest := (lc.chars.extract lc.offset lc.chars.size).toList
  let spaces := (rest.takeWhile (· = ' ')).length
  let body := rest.drop spaces
  if spaces > 3 || body.isEmpty then none
  else
    let (pipe, body) := match body with
      | '|' :: tail => (true, tail)
      | _ => (false, body)
    let d := body.foldl DelimiterScan.step { foundPipe := pipe }
    let cols := if d.startCol then d.cols else d.cols ++ [d.active]
    if d.failed || !d.foundPipe || !d.foundHyphen then none else some cols

/-- The cells of a table row: split at unescaped pipes, a pipe at either end ignored, blanks
around each cell dropped. -/
def rowCells (line : List Char) : List String :=
  let rec cells : Nat → List Char → List (List Char)
    | 0, _ => []
    | fuel + 1, cs =>
      let cs := match cs with
        | '|' :: tail => tail
        | _ => cs
      let cs := cs.dropWhile isSpaceOrTab
      if cs.isEmpty then []
      else
        let rec cell : List Char → List Char × List Char
          | [] => ([], [])
          | '\\' :: c :: rest => let (a, b) := cell rest; ('\\' :: c :: a, b)
          | '|' :: rest => ([], '|' :: rest)
          | c :: rest => let (a, b) := cell rest; (c :: a, b)
        let (content, rest) := cell cs
        content :: cells fuel rest
  (cells (line.length + 1) line).map fun c => String.ofList ((c.reverse.dropWhile isSpaceOrTab).reverse)

/-- Fits a row to `n` cells: extra cells dropped, missing ones empty. -/
def fitCells (n : Nat) (cells : List String) : List String :=
  cells.take n ++ List.replicate (n - cells.length) ""

end StudyPlanner.Markdown
