import StudyPlanner.Markdown.Document
import StudyPlanner.Render.Links
/-!
# Card text as safe HTML

Card text comes from other users, so it is rendered with nothing from it reaching the page
as markup of its own:

* raw HTML, in blocks or inline, is shown as text;
* a link keeps its target only when it is a link target (a web link, an anchor or a mail
  address), and points to `#` otherwise;
* an image keeps its source only when it is a web link, and shows `#` otherwise.

The filter works on the event stream between reading the markdown and writing HTML, so
everything else renders exactly as the markdown says.
-/

namespace StudyPlanner.Render

open Markdown

/-- Makes one event safe to show. -/
def safeEvent : Event → Event
  | .html s | .inlineHtml s => .text s
  | .start (.link kind dest title) => .start (.link kind (if isLinkTarget dest then dest else "#") title)
  | .start (.image dest title) => .start (.image (if isWebLink dest then dest else "#") title)
  | e => e

/-- Card text rendered as HTML, made safe. -/
def renderMarkdown (text : String) : String := pushHtml ((documentEvents text).map safeEvent)

end StudyPlanner.Render
