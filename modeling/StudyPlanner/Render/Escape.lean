/-!
# Escaping text for HTML

Text placed in HTML, in content or in a quoted attribute, has its five special characters
replaced by references: `&amp;`, `&lt;`, `&gt;`, `&quot;` and `&#39;`. Nothing else changes,
so replacing the five references back gives the text again.
-/

namespace StudyPlanner.Render

/-- How one character is written in escaped HTML. -/
def escapeChar : Char → List Char
  | '&' => "&amp;".toList
  | '<' => "&lt;".toList
  | '>' => "&gt;".toList
  | '"' => "&quot;".toList
  | '\'' => "&#39;".toList
  | c => [c]

/-- Text with `& < > " '` replaced by character references. -/
def escapeHtml (s : String) : String := String.ofList (s.toList.flatMap escapeChar)

end StudyPlanner.Render
