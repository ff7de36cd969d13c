import StudyPlanner.Markdown.Parser
import StudyPlanner.Markdown.Html
/-!
# A document as events

The blocks of a document become a stream of events, and the stream becomes HTML.

* The text of paragraphs, headings and table cells is read as inline content with the
  document's link reference definitions; blanks at its end are dropped.
* In a tight list the paragraphs directly inside items are not wrapped: their content stands
  in the item on its own.
* A table gives its head row as header cells and then its body rows.
-/

namespace StudyPlanner.Markdown

/-- A text without the spaces, tabs and line ends at its end. -/
def trimEnd (s : String) : String :=
  String.ofList (s.toList.reverse.dropWhile (fun c => c = ' ' || c = '\t' || c = '\n' || c = '\r')).reverse

/-- The events of a text's inline content. -/
def textEvents (defs : Definitions) (s : String) : List Event := inlineEvents (parseInlines defs (trimEnd s))

/-- The events of a row of table cells. -/
def cellEvents (defs : Definitions) : List String → List Event
  | [] => []
  | c :: cs => .start .tableCell :: textEvents defs c ++ .stop .tableCell :: cellEvents defs cs

/-- The events of table body rows. -/
def rowEvents (defs : Definitions) : List (List String) → List Event
  | [] => []
  | r :: rs => .start .tableRow :: cellEvents defs r ++ .stop .tableRow :: rowEvents defs rs

mutual

/-- The events of a block; `tight` says whether it stands directly in an item of a tight
list. -/
def Block.events (defs : Definitions) (tight : Bool) : Block → List Event
  | .paragraph t =>
    if tight then textEvents defs t else .start .paragraph :: textEvents defs t ++ [.stop .paragraph]
  | .heading level t => .start (.heading level) :: textEvents defs t ++ [.stop (.heading level)]
  | .rule => [.rule]
  | .code info t =>
    .start (.codeBlock info) :: (if t.isEmpty then [] else [.text t]) ++ [.stop (.codeBlock info)]
  | .html t => .start .htmlBlock :: (if t.isEmpty then [] else [.html t]) ++ [.stop .htmlBlock]
  | .quote cs => .start .blockQuote :: blockEvents defs false cs ++ [.stop .blockQuote]
  | .list start tight' items => .start (.list start) :: blockEvents defs tight' items ++ [.stop (.list start)]
  | .item cs => .start .item :: blockEvents defs tight cs ++ [.stop .item]
  | .table aligns head rows =>
    .start (.table aligns) :: .start .tableHead :: cellEvents defs head ++ .stop .tableHead ::
      rowEvents defs rows ++ [.stop (.table aligns)]

/-- The events of a sequence of blocks. -/
def blockEvents (defs : Definitions) (tight : Bool) : List Block → List Event
  | [] => []
  | b :: bs => b.events defs tight ++ blockEvents defs tight bs

end

/-- The events of a markdown document. -/
def documentEvents (text : String) : List Event :=
  let (blocks, defs) := readBlocks text
  blockEvents defs false blocks

/-- A markdown document as HTML. -/
def toHtml (text : String) : String := pushHtml (documentEvents text)

end StudyPlanner.Markdown
