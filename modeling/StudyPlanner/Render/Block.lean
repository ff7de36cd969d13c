import StudyPlanner.Render.Markdown
import StudyPlanner.Render.Escape
import StudyPlanner.Model.Records
/-!
# Card blocks as HTML

A card is a list of blocks, each rendered on its own and the results joined.

* A text block is markdown, rendered safely.
* A code block is escaped inside `<pre><code>`. Its language, kept only in its ASCII letters,
  digits and `-+_`, names the class `language-...` when anything of it is left.
* An image block shows its source, trimmed, when it is a web link, in a `<figure>` with the
  metadata as alternative text; any other source is shown as text in an error paragraph.
-/

namespace StudyPlanner.Render

open Model

/-- Whether a character may stand in a code block's language name. -/
def isLanguageChar (c : Char) : Bool :=
  ('a' ≤ c && c ≤ 'z') || ('A' ≤ c && c ≤ 'Z') || ('0' ≤ c && c ≤ '9') || c = '-' || c = '+' || c = '_'

/-- One block of a card as HTML. -/
def renderBlock (b : Block) : String :=
  match b.kind with
  | .text => renderMarkdown b.content
  | .code =>
    let language := String.ofList (b.metadata.toList.filter isLanguageChar)
    let cls := if language.isEmpty then "" else " class=\"language-" ++ language ++ "\""
    "<pre><code" ++ cls ++ ">" ++ escapeHtml b.content ++ "</code></pre>"
  | .image =>
    let src := Text.trim b.content
    if isWebLink src then
      "<figure><img src=\"" ++ escapeHtml src ++ "\" alt=\"" ++ escapeHtml b.metadata ++ "\"></figure>"
    else "<p class=\"block-error\">" ++ escapeHtml src ++ "</p>"

/-- The blocks of a card as HTML, one after another. -/
def renderBlocks (bs : List Block) : String := String.join (bs.map renderBlock)

end StudyPlanner.Render
