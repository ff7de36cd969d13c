import StudyPlanner.Markdown.Line
import StudyPlanner.Markdown.Inline
/-!
# Blocks of a markdown document

A document is read line by line into a tree of blocks. While it is read, the blocks on the
path from the document to the last line are open; every other block is finished.

* A finished block keeps the raw text of its paragraphs, headings and table cells: inline
  content is read only once every link reference definition of the document is known.
* A finished block also keeps the first and last line it spans. A list is loose when two of
  its items, or two blocks directly inside one item, have a line between them; that line can
  only have been blank.
* A paragraph that starts with link reference definitions gives them up when it is
  finished. The first definition of a label is the one that counts. A paragraph that held
  nothing but definitions is dropped.
-/

namespace StudyPlanner.Markdown

/-- A finished block. -/
inductive Block where
  | paragraph (text : String)
  | heading (level : Nat) (text : String)
  | rule
  /-- A code block: fenced with an info string, or indented (`none`). -/
  | code (info : Option String) (text : String)
  | html (text : String)
  | quote (children : List Block)
  /-- A list of items: ordered from a start number, or a bullet list (`none`). -/
  | list (start : Option Nat) (tight : Bool) (items : List Block)
  /-- One item of a list. -/
  | item (children : List Block)
  | table (alignments : List Alignment) (head : List String) (rows : List (List String))
  deriving Repr, Inhabited

/-- A finished block and the lines it spans. For an item, `loose` says whether two blocks
directly inside it have a line between them. -/
structure Placed where
  block : Block
  first : Nat
  last : Nat
  loose : Bool := false
  deriving Repr, Inhabited

/-- What an open block is. -/
inductive OpenKind where
  | document
  | quote
  | list (marker : ListMarker)
  | item (marker : ListMarker)
  | paragraph
  | heading (level : Nat) (text : String)
  | rule
  /-- A fenced code block: the fence character, its length, the indentation of the opening
  fence, and the info string. -/
  | fenced (fence : Char) (length indent : Nat) (info : String)
  | indented
  /-- An HTML block of one of the seven kinds, which differ in how they end. -/
  | html (kind : Nat)
  | table (alignments : List Alignment) (head : List String)
  deriving Repr, Inhabited

namespace OpenKind

/-- Whether a block of this kind takes the text of the lines that continue it. -/
def acceptsLines : OpenKind → Bool
  | .paragraph | .fenced _ _ _ _ | .indented | .html _ | .table _ _ => true
  | _ => false

/-- Whether this is a paragraph. -/
def isParagraph : OpenKind → Bool
  | .paragraph => true
  | _ => false

/-- Whether this is an item. -/
def isItem : OpenKind → Bool
  | .item _ => true
  | _ => false

/-- Whether a block of this kind may hold a block of kind `child`: the document, quotes and
items hold any block but an item, and lists hold only items. -/
def canContain (parent child : OpenKind) : Bool :=
  match parent with
  | .document | .quote | .item _ => !child.isItem
  | .list _ => child.isItem
  | _ => false

end OpenKind

/-- An open block: what it is, the line it started on, its finished children, and the lines
or table rows it has taken. -/
structure OpenBlock where
  kind : OpenKind
  first : Nat
  children : Array Placed := #[]
  lines : Array String := #[]
  rows : Array (List String) := #[]
  deriving Repr, Inhabited

/-! ## Link reference definitions -/

/-- The position after the line end at or after `i`, when only spaces and tabs stand before
it; the end of the text counts as a line end. -/
def lineEndAt (s : Source) (i : Nat) : Option Nat :=
  let j := skipFrom s isSpaceOrTab i
  match s[j]? with
  | none => some j
  | some '\n' => some (j + 1)
  | some _ => none

/-- Reads a link reference definition at the start of `s`: a label, `:`, a destination,
perhaps a title, and nothing more on the line where it ends. A title followed by more text
is given up when the destination alone ends its line. Gives the normalized label, the
target, and the position after the definition. -/
def definitionAt (s : Source) : Option (String × LinkTarget × Nat) :=
  match linkLabelEnd s 0 with
  | none => none
  | some labelEnd =>
    if s[labelEnd]? ≠ some ':' then none
    else
      match linkDestination s (skipSpnl s (labelEnd + 1)) with
      | none => none
      | some (dest, afterDest) =>
        let label := normalizeLabel (s.extract 1 (labelEnd - 1)).toList
        let beforeTitle := skipSpnl s afterDest
        let titled : Option (String × Nat) :=
          if beforeTitle = afterDest then none else linkTitle s beforeTitle
        let untitled : Option (String × Nat) := (lineEndAt s afterDest).map fun e => ("", e)
        let ending : Option (String × Nat) :=
          match titled with
          | some (title, e) =>
            match lineEndAt s e with
            | some f => some (title, f)
            | none => untitled
          | none => untitled
        match ending with
        | none => none
        | some (title, e) =>
          if label.isEmpty then none else some (label, { dest := dest, title := title }, e)

/-- Takes the link reference definitions at the start of a text, keeping an earlier
definition of the same label. Gives the definitions and the text left. -/
def takeDefinitions (defs : Definitions) (text : List Char) : Definitions × List Char :=
  let rec go : Nat → Definitions → List Char → Definitions × List Char
    | 0, defs, cs => (defs, cs)
    | fuel + 1, defs, cs =>
      if cs.head? ≠ some '[' then (defs, cs)
      else
        match definitionAt cs.toArray with
        | none => (defs, cs)
        | some (label, target, e) =>
          let defs := if (defs.lookup label).isSome then defs else defs ++ [(label, target)]
          go fuel defs (cs.drop e)
  go (text.length + 1) defs text

/-- The text of a paragraph's lines, each ended by a line feed. -/
def paragraphText (lines : Array String) : List Char :=
  (lines.toList.map fun l => l ++ "\n").foldr (fun l acc => l.toList ++ acc) []

/-- Whether a character list holds only spaces, tabs and line ends. -/
def blankText (cs : List Char) : Bool := cs.all fun c => c = ' ' || c = '\t' || c = '\n' || c = '\r'

/-! ## Finishing a block -/

/-- Whether two consecutive blocks of a list have a line between them. -/
def hasGap : List Placed → Bool
  | a :: b :: rest => a.last + 1 != b.first || hasGap (b :: rest)
  | _ => false

/-- The lines of an indented code block without the blank lines at its end. -/
def dropBlankTail (lines : List String) : List String :=
  (lines.reverse.dropWhile fun l => blankText l.toList).reverse

/-- Finishes an open block ending at line `endLine`. A paragraph gives up its link reference
definitions, and is dropped when nothing else is left of it. -/
def finish (defs : Definitions) (ob : OpenBlock) (endLine : Nat) : Definitions × Option Placed :=
  let kids := ob.children.toList
  let blocks := kids.map (·.block)
  let placed (b : Block) : Option Placed := some { block := b, first := ob.first, last := endLine }
  match ob.kind with
  | .document | .quote => (defs, placed (.quote blocks))
  | .list m =>
    let tight := !(hasGap kids || kids.any (·.loose))
    let start := if m.bullet.isSome then none else some m.start
    let last := (kids.getLast?.map (·.last)).getD endLine
    (defs, some { block := .list start tight blocks, first := ob.first, last := last })
  | .item _ =>
    let last := (kids.getLast?.map (·.last)).getD ob.first
    (defs, some { block := .item blocks, first := ob.first, last := last, loose := hasGap kids })
  | .paragraph =>
    let (defs, rest) := takeDefinitions defs (paragraphText ob.lines)
    if blankText rest then (defs, none) else (defs, placed (.paragraph (String.ofList rest)))
  | .heading level text => (defs, placed (.heading level text))
  | .rule => (defs, placed .rule)
  | .fenced _ _ _ info => (defs, placed (.code (some info) (String.join ob.lines.toList)))
  | .indented => (defs, placed (.code none (String.join (dropBlankTail ob.lines.toList))))
  | .html _ => (defs, placed (.html (String.join ob.lines.toList)))
  | .table aligns head => (defs, placed (.table aligns head ob.rows.toList))

end StudyPlanner.Markdown
