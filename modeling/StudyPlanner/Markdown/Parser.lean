import StudyPlanner.Markdown.Block
/-!
# Reading a document into blocks

Each line is taken in three steps.

1. The open blocks are matched from the document down: a quote wants its `>`, an item wants
   its content's indentation (or a blank line), a paragraph wants a line that is not blank,
   a fenced code block takes every line and ends at its closing fence.
2. New blocks are opened where the line starts one: a table (when the line below a
   paragraph's only line is a delimiter row with as many columns as that line), a quote, an
   ATX heading, a fence, an HTML block, a setext underline, a thematic break, a list item,
   or indented code. Quotes and items may hold another start on the same line.
3. The rest of the line goes to the innermost block that takes lines, or starts a
   paragraph. A line that matched only part of the open blocks continues a paragraph left
   open below them (a lazy line) when nothing new started on it; otherwise the blocks it did
   not match are finished first.

Line numbers are kept so that a list can tell whether blank lines separate its parts.
-/

namespace StudyPlanner.Markdown

/-- The reading between lines: the open blocks from the document down, the link reference
definitions found so far, and the number of the last line taken. -/
structure BlockParser where
  stack : Array OpenBlock := #[{ kind := .document, first := 1 }]
  defs : Definitions := []
  line : Nat := 0
  deriving Inhabited

namespace BlockParser

/-- The innermost open block. -/
def tip (p : BlockParser) : OpenBlock := p.stack.back?.getD default

/-- Changes the innermost open block. -/
def updateTip (p : BlockParser) (f : OpenBlock → OpenBlock) : BlockParser :=
  match p.stack.back? with
  | some ob => { p with stack := p.stack.pop.push (f ob) }
  | none => p

/-- Finishes the innermost open block at line `endLine` and gives it to its parent. The
document itself stays open. -/
def closeTip (p : BlockParser) (endLine : Nat) : BlockParser :=
  if p.stack.size ≤ 1 then p
  else
    let (defs, placed) := finish p.defs p.tip endLine
    let p := { p with stack := p.stack.pop, defs := defs }
    match placed with
    | some pl => p.updateTip fun parent => { parent with children := parent.children.push pl }
    | none => p

/-- Finishes open blocks until `keep` of them are left. -/
def closeDownTo (p : BlockParser) (keep endLine : Nat) : BlockParser :=
  let rec go : Nat → BlockParser → BlockParser
    | 0, p => p
    | fuel + 1, p => if p.stack.size ≤ keep then p else go fuel (p.closeTip endLine)
  go p.stack.size p

/-- Opens a block on the current line, first finishing the open blocks that cannot hold it. -/
def addChild (p : BlockParser) (kind : OpenKind) : BlockParser :=
  let rec go : Nat → BlockParser → BlockParser
    | 0, p => p
    | fuel + 1, p =>
      if p.stack.size ≤ 1 || p.tip.kind.canContain kind then p else go fuel (p.closeTip (p.line - 1))
  let p := go p.stack.size p
  { p with stack := p.stack.push { kind := kind, first := p.line } }

/-- Gives the rest of a line to the innermost block: a paragraph takes it without its line
end, code and HTML with it, and a table as a row of cells. -/
def addLine (p : BlockParser) (lc : LineCursor) (ending : String) : BlockParser :=
  p.updateTip fun ob =>
    match ob.kind with
    | .paragraph => { ob with lines := ob.lines.push lc.rest }
    | .table aligns _ =>
      let cells := rowCells (lc.chars.extract lc.nonspace.1 lc.chars.size).toList
      { ob with rows := ob.rows.push (fitCells aligns.length cells) }
    | _ => { ob with lines := ob.lines.push (lc.rest ++ ending) }

end BlockParser

/-! ## Matching the open blocks -/

/-- How an open block meets a new line. -/
inductive Continuation where
  | matched (lc : LineCursor)
  | failed
  /-- The line is the closing fence of a fenced code block. -/
  | closesFence
  deriving Inhabited

/-- Moves over the blanks after a `>`'s quote marker: the `>` and at most one column of
blank. -/
def quoteMarker (lc : LineCursor) : LineCursor :=
  let lc := lc.toNonspace.advance 1 false
  if (lc.peek.map isSpaceOrTab).getD false then lc.advance 1 true else lc

/-- Moves over at most `n` columns of blanks. -/
def skipColumns (n : Nat) (lc : LineCursor) : LineCursor :=
  let rec go : Nat → LineCursor → LineCursor
    | 0, lc => lc
    | k + 1, lc => if (lc.peek.map isSpaceOrTab).getD false then go k (lc.advance 1 true) else lc
  go n lc

/-- Whether the rest of a line, blanks dropped, ends a table: a blank line, or a line that
would interrupt a paragraph. -/
def endsTable (lc : LineCursor) : Bool :=
  let rest := lc.restFromNonspace
  let bare : LineCursor := { chars := rest }
  rest.isEmpty || isThematicBreak rest || (atxHeading? rest).isSome || (codeFence? rest).isSome ||
    rest[0]? = some '>' || (listMarker? bare true).isSome ||
    (htmlBlockKind? rest false).isSome

/-- How an open block meets a line. `hasChild` says whether the block holds any block yet. -/
def continues (ob : OpenBlock) (hasChild : Bool) (lc : LineCursor) : Continuation :=
  match ob.kind with
  | .document | .list _ => .matched lc
  | .quote => if !lc.indented && lc.peekNonspace = some '>' then .matched (quoteMarker lc) else .failed
  | .item m =>
    if lc.blank then
      if ob.children.isEmpty && !hasChild then .failed else .matched lc.toNonspace
    else if lc.indent ≥ m.markerOffset + m.padding then .matched (lc.advance (m.markerOffset + m.padding) true)
    else .failed
  | .heading _ _ | .rule => .failed
  | .fenced c n indent _ =>
    let rest := lc.restFromNonspace
    if lc.indent ≤ 3 && rest[0]? = some c && closesFence rest c n then .closesFence
    else .matched (skipColumns indent lc)
  | .indented =>
    if lc.indent ≥ 4 then .matched (lc.advance 4 true)
    else if lc.blank then .matched lc.toNonspace
    else .failed
  | .html kind => if lc.blank && (kind = 6 || kind = 7) then .failed else .matched lc
  | .paragraph => if lc.blank then .failed else .matched lc
  | .table _ _ => if endsTable lc then .failed else .matched lc

/-- Matches the open blocks against a line from the document down. Gives how many matched
and the cursor after their markers, or `none` when the line closes a fence. -/
def matchOpen (p : BlockParser) (lc : LineCursor) : Option (Nat × LineCursor) :=
  let rec go : Nat → Nat → LineCursor → Option (Nat × LineCursor)
    | 0, i, lc => some (i, lc)
    | fuel + 1, i, lc =>
      match p.stack[i]? with
      | none => some (i, lc)
      | some ob =>
        match continues ob (i + 1 < p.stack.size) lc with
        | .matched lc => go fuel (i + 1) lc
        | .failed => some (i, lc)
        | .closesFence => none
  go p.stack.size 1 lc

/-! ## Opening blocks -/

/-- A line being placed: the reading, how many open blocks it matched (the innermost of them
is the container new blocks go into), whether the blocks it did not match are finished, and
where the line is read. -/
structure LineState where
  p : BlockParser
  matched : Nat
  allClosed : Bool
  lc : LineCursor
  deriving Inhabited

namespace LineState

/-- The block new blocks go into. -/
def container (st : LineState) : OpenBlock := st.p.stack[st.matched - 1]?.getD default

/-- Finishes the open blocks the line did not match; they end on the line before. -/
def closeUnmatched (st : LineState) : LineState :=
  if st.allClosed then st
  else { st with p := st.p.closeDownTo st.matched (st.p.line - 1), allClosed := true }

/-- Opens a block in the container, the unmatched blocks finished first. -/
def opening (st : LineState) (kind : OpenKind) : LineState :=
  let st := st.closeUnmatched
  let p := st.p.addChild kind
  { st with p := p, matched := p.stack.size }

/-- Whether the line would continue a paragraph left open below the matched blocks. -/
def lazy (st : LineState) : Bool := !st.allClosed && !st.lc.blank && st.p.tip.kind.isParagraph

end LineState

/-- What a block start did with a line. -/
inductive Opened where
  /-- Opened a quote or an item; more may start after its marker. -/
  | container (st : LineState)
  /-- Opened a block that takes the rest of the line. -/
  | leaf (st : LineState)
  /-- Used the whole line. -/
  | consumed (p : BlockParser)
  deriving Inhabited

/-- A table: the line below a paragraph's only line (definitions aside) is a delimiter row
with as many columns as that line has, and that line has an unescaped pipe. -/
def tableStart (st : LineState) : Option Opened :=
  let c := st.container
  if !c.kind.isParagraph then none
  else
    let (defs, rest) := takeDefinitions st.p.defs (paragraphText c.lines)
    let header := rest.dropLast
    if header.contains '\n' || !hasPipe header then none
    else
      match delimiterRow? st.lc with
      | none => none
      | some aligns =>
        if (aligns.length : Int) ≠ headerColumns header then none
        else
          let head := fitCells aligns.length (rowCells header)
          let p := { st.p with defs := defs }.updateTip fun ob =>
            { ob with kind := .table aligns head, lines := #[] }
          some (.consumed p)

/-- A quote: a `>` indented less than four columns. -/
def quoteStart (st : LineState) : Option Opened :=
  if st.lc.indented || st.lc.peekNonspace ≠ some '>' then none
  else some (.container { st.opening .quote with lc := quoteMarker st.lc })

/-- An ATX heading. -/
def atxStart (st : LineState) : Option Opened :=
  if st.lc.indented then none
  else
    let rest := st.lc.restFromNonspace
    match atxHeading? rest with
    | none => none
    | some (level, off) =>
      some (.consumed (st.opening (.heading level (atxContent (rest.extract off rest.size).toList))).p)

/-- An opening code fence. -/
def fenceStart (st : LineState) : Option Opened :=
  if st.lc.indented then none
  else
    match codeFence? st.lc.restFromNonspace with
    | none => none
    | some (c, n, info) => some (.consumed (st.opening (.fenced c n st.lc.indent info)).p)

/-- An HTML block. A lone tag (the seventh kind) cannot interrupt a paragraph, lazy or not. -/
def htmlStart (st : LineState) : Option Opened :=
  if st.lc.indented || st.lc.peekNonspace ≠ some '<' then none
  else
    let seventh := !st.container.kind.isParagraph && !st.lazy
    match htmlBlockKind? st.lc.restFromNonspace seventh with
    | none => none
    | some k => some (.leaf (st.opening (.html k)))

/-- A setext underline below a paragraph: the paragraph, definitions aside, becomes a
heading. A paragraph of definitions only stays a paragraph. -/
def setextStart (st : LineState) : Option Opened :=
  let c := st.container
  if st.lc.indented || !c.kind.isParagraph then none
  else
    match setextLevel? st.lc.restFromNonspace with
    | none => none
    | some level =>
      let (defs, rest) := takeDefinitions st.p.defs (paragraphText c.lines)
      if blankText rest then none
      else
        let p := { st.p with defs := defs }.updateTip fun ob =>
          { ob with kind := .heading level (String.ofList rest), lines := #[] }
        some (.consumed p)

/-- A thematic break. -/
def ruleStart (st : LineState) : Option Opened :=
  if st.lc.indented || !isThematicBreak st.lc.restFromNonspace then none
  else some (.consumed (st.opening .rule).p)

/-- A list item; a new list is opened unless the container is a list of the same kind. -/
def itemStart (st : LineState) : Option Opened :=
  match listMarker? st.lc st.container.kind.isParagraph with
  | none => none
  | some (m, lc) =>
    let st := st.closeUnmatched
    let sameList := match st.p.tip.kind with
      | .list lm => lm.sameList m
      | _ => false
    let st := if sameList then st else st.opening (.list m)
    some (.container { st.opening (.item m) with lc := lc })

/-- Indented code: four columns of indentation, not below a paragraph. -/
def codeStart (st : LineState) : Option Opened :=
  if !st.lc.indented || st.p.tip.kind.isParagraph || st.lc.blank then none
  else some (.leaf { st.opening .indented with lc := st.lc.advance 4 true })

/-- The block starts, in the order they are tried. -/
def blockStarts : List (LineState → Option Opened) :=
  [tableStart, quoteStart, atxStart, fenceStart, htmlStart, setextStart, ruleStart, itemStart, codeStart]

/-- The first block start that takes the line. -/
def firstStart (st : LineState) : List (LineState → Option Opened) → Option Opened
  | [] => none
  | f :: fs =>
    match f st with
    | some o => some o
    | none => firstStart st fs

/-- What is left of a line once new blocks are open. -/
inductive Placement where
  | text (st : LineState)
  | done (p : BlockParser)
  deriving Inhabited

/-- Opens blocks while the line starts them. `leaf` says that the container takes the line
as it is. -/
def openBlocks : Nat → LineState → Bool → Placement
  | 0, st, _ => .text st
  | fuel + 1, st, leaf =>
    if leaf then .text st
    else
      match firstStart st blockStarts with
      | none => .text { st with lc := st.lc.toNonspace }
      | some (.container st) => openBlocks fuel st false
      | some (.leaf st) => .text st
      | some (.consumed p) => .done p

/-- Places the rest of a line: on a lazy paragraph, in the container when it takes lines
(an HTML block of the first five kinds ends on the line that holds its end), or in a new
paragraph when it is not blank. -/
def placeText (st : LineState) (ending : String) : BlockParser :=
  if st.lazy then st.p.addLine st.lc ending
  else
    let st := st.closeUnmatched
    let p := st.p
    let c := p.tip
    if c.kind.acceptsLines then
      let p := p.addLine st.lc ending
      match c.kind with
      | .html k =>
        if k ≤ 5 && endsHtmlBlock k (st.lc.chars.extract st.lc.offset st.lc.chars.size).toList then
          p.closeTip p.line
        else p
      | _ => p
    else if st.lc.blank then p
    else (p.addChild .paragraph).addLine st.lc.toNonspace ending

/-- Takes one line, given with its line end. -/
def takeLine (p : BlockParser) (chars : Array Char) (ending : String) : BlockParser :=
  let p := { p with line := p.line + 1 }
  let lc : LineCursor := { chars := chars }
  match matchOpen p lc with
  | none => p.closeTip p.line
  | some (matched, lc) =>
    let container := p.stack[matched - 1]?.getD default
    let leaf := !container.kind.isParagraph && container.kind.acceptsLines
    let st : LineState := { p := p, matched := matched, allClosed := matched = p.stack.size, lc := lc }
    match openBlocks (chars.size + 2) st leaf with
    | .done p => p
    | .text st => placeText st ending

/-! ## Documents -/

/-- The lines of a text with their line ends: a carriage return and line feed together end a
line as a line feed does; a lone carriage return ends a line too. No empty line follows a
final line end. -/
def splitLines (text : List Char) : List (Array Char × String) :=
  let rec go : List Char → List Char → List (Array Char × String) → List (Array Char × String)
    | [], cur, acc => (if cur.isEmpty then acc else (cur.reverse.toArray, "") :: acc).reverse
    | '\r' :: '\n' :: rest, cur, acc => go rest [] ((cur.reverse.toArray, "\n") :: acc)
    | '\n' :: rest, cur, acc => go rest [] ((cur.reverse.toArray, "\n") :: acc)
    | '\r' :: rest, cur, acc => go rest [] ((cur.reverse.toArray, "\r") :: acc)
    | c :: rest, cur, acc => go rest (c :: cur) acc
  go text [] []

/-- The blocks of a document and its link reference definitions. A NUL character reads as
the replacement character. -/
def readBlocks (text : String) : List Block × Definitions :=
  let chars := text.toList.map fun c => if c = '\x00' then '�' else c
  let lines := splitLines chars
  let p := lines.foldl (fun p l => takeLine p l.1 l.2) ({} : BlockParser)
  let p := p.closeDownTo 1 lines.length
  ((p.stack[0]?.getD default).children.toList.map Placed.block, p.defs)

end StudyPlanner.Markdown
