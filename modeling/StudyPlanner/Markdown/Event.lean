/-!
# Markdown as a stream of events

A parsed markdown document is a sequence of events: a block or span starts, text comes, it
ends. Rendering walks the sequence once, and a filter can change events on the way (the card
renderer turns raw HTML into text and checks link targets there).

Spans of inline content are also kept as a tree, `Inline`, which the parser builds and turns
into events.
-/

namespace StudyPlanner.Markdown

/-- How a table column is aligned by its delimiter row (`:--`, `:-:`, `--:`). -/
inductive Alignment where
  | none
  | left
  | center
  | right
  deriving DecidableEq, Repr, Inhabited

/-- How a link was written; an email autolink is written out with `mailto:` before it. -/
inductive LinkKind where
  | written
  | autolink
  | email
  deriving DecidableEq, Repr, Inhabited

/-- What an event starts or ends. -/
inductive Tag where
  | paragraph
  | heading (level : Nat)
  | blockQuote
  /-- A code block: fenced with an info string, or indented (`none`). -/
  | codeBlock (info : Option String)
  | htmlBlock
  /-- A list: ordered from a start number, or a bullet list (`none`). -/
  | list (start : Option Nat)
  | item
  | table (alignments : List Alignment)
  | tableHead
  | tableRow
  | tableCell
  | emphasis
  | strong
  | strikethrough
  | link (kind : LinkKind) (dest title : String)
  | image (dest title : String)
  deriving DecidableEq, Repr, Inhabited

/-- One event of a document. -/
inductive Event where
  | start (tag : Tag)
  | stop (tag : Tag)
  | text (s : String)
  | code (s : String)
  | html (s : String)
  | inlineHtml (s : String)
  | softBreak
  | hardBreak
  | rule
  deriving DecidableEq, Repr, Inhabited

/-- Inline content: text and the spans around it. -/
inductive Inline where
  | text (s : String)
  | code (s : String)
  | html (s : String)
  | softBreak
  | hardBreak
  | emphasis (children : List Inline)
  | strong (children : List Inline)
  | strikethrough (children : List Inline)
  | link (kind : LinkKind) (dest title : String) (children : List Inline)
  | image (dest title : String) (children : List Inline)
  deriving Repr, Inhabited

mutual

/-- The events of one inline node. -/
def Inline.events : Inline → List Event
  | .text s => [.text s]
  | .code s => [.code s]
  | .html s => [.inlineHtml s]
  | .softBreak => [.softBreak]
  | .hardBreak => [.hardBreak]
  | .emphasis cs => wrapped .emphasis cs
  | .strong cs => wrapped .strong cs
  | .strikethrough cs => wrapped .strikethrough cs
  | .link k d t cs => wrapped (.link k d t) cs
  | .image d t cs => wrapped (.image d t) cs

/-- The events of a span: its start, its children's events, its end. -/
def wrapped (tag : Tag) (cs : List Inline) : List Event :=
  .start tag :: inlineEvents cs ++ [.stop tag]

/-- The events of a sequence of inline nodes. -/
def inlineEvents : List Inline → List Event
  | [] => []
  | i :: rest => i.events ++ inlineEvents rest

end

end StudyPlanner.Markdown
