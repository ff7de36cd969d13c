import StudyPlanner.Markdown.Event
import StudyPlanner.Text.Utf8
/-!
# Writing events as HTML

The writer turns a stream of events into HTML text in one pass.

* Text is escaped for an element's body (`&`, `<`, `>`); attribute values are escaped for a
  double-quoted attribute (`"` too); link and image targets are escaped as URLs: bytes outside
  a safe set are written `%XX`, except `&` and `'`, which are written as character
  references.
* A block starts on a fresh line: the writer remembers whether its output ends with a line
  feed and writes one before a block's opening tag when it does not.
* An image's alternative text is the plain text of the events inside it, escaped for the
  attribute; line breaks and rules in it become spaces.
* Table cells take the alignment of their column; the cells of the first row are header
  cells.
-/

namespace StudyPlanner.Markdown

/-- Escapes text for an element's body. -/
def escapeBody (s : String) : String :=
  String.join (s.toList.map fun c =>
    if c = '&' then "&amp;" else if c = '<' then "&lt;" else if c = '>' then "&gt;" else c.toString)

/-- Escapes text for a double-quoted attribute value. -/
def escapeAttr (s : String) : String :=
  String.join (s.toList.map fun c =>
    if c = '&' then "&amp;" else if c = '<' then "&lt;" else if c = '>' then "&gt;"
    else if c = '"' then "&quot;" else c.toString)

/-- Whether an ASCII byte stands for itself in a written URL. -/
def hrefSafe (b : Nat) : Bool :=
  (0x30 ≤ b && b ≤ 0x39) || (0x41 ≤ b && b ≤ 0x5A) || (0x61 ≤ b && b ≤ 0x7A) ||
    [0x21, 0x23, 0x24, 0x25, 0x28, 0x29, 0x2A, 0x2B, 0x2C, 0x2D, 0x2E, 0x2F, 0x3A, 0x3B, 0x3D,
     0x3F, 0x40, 0x5F, 0x7E].contains b

/-- An upper-case hexadecimal digit. -/
def hexUpper (n : Nat) : Char := if n < 10 then Char.ofNat (n + 48) else Char.ofNat (n + 55)

/-- Escapes a link or image target. -/
def escapeHref (s : String) : String :=
  String.join ((Text.Utf8.encode s).map fun b =>
    let n := b.toNat
    if n = 0x26 then "&amp;"
    else if n = 0x27 then "&#x27;"
    else if n < 0x80 && hrefSafe n then (Char.ofNat n).toString
    else String.ofList ['%', hexUpper (n / 16), hexUpper (n % 16)])

/-- What the writer has written and what it remembers. -/
structure Writer where
  out : String := ""
  endNewline : Bool := true
  inHead : Bool := false
  alignments : List Alignment := []
  cell : Nat := 0
  /-- Inside an image's alternative text: how many spans deep, and the image's title. -/
  alt : Option (Nat × String) := none
  deriving Repr, Inhabited

namespace Writer

/-- Writes raw HTML. -/
def write (w : Writer) (s : String) : Writer :=
  { w with out := w.out ++ s, endNewline := if s.isEmpty then w.endNewline else s.endsWith "\n" }

/-- Writes `s`, on a fresh line. -/
def writeFresh (w : Writer) (s : String) : Writer :=
  if w.endNewline then w.write s else w.write ("\n" ++ s)

/-- Writes text escaped for a body. -/
def writeText (w : Writer) (s : String) : Writer :=
  { w with out := w.out ++ escapeBody s, endNewline := s.endsWith "\n" }

/-- The attribute written for a title, if it is not empty. -/
def titleAttr (title : String) : String :=
  if title.isEmpty then "" else "\" title=\"" ++ escapeAttr title

/-- Writes the opening of a tag. -/
def startTag (w : Writer) : Tag → Writer
  | .paragraph => w.writeFresh "<p>"
  | .heading level => w.writeFresh ("<h" ++ toString level ++ ">")
  | .blockQuote => w.writeFresh "<blockquote>\n"
  | .codeBlock info =>
    let w := if w.endNewline then w else w.write "\n"
    match info with
    | none => w.write "<pre><code>"
    | some i =>
      let lang := (i.splitOn " ").headD ""
      if lang.isEmpty then w.write "<pre><code>"
      else w.write ("<pre><code class=\"language-" ++ escapeAttr lang ++ "\">")
  | .htmlBlock => w
  | .list none => w.writeFresh "<ul>\n"
  | .list (some 1) => w.writeFresh "<ol>\n"
  | .list (some n) => w.writeFresh ("<ol start=\"" ++ toString n ++ "\">\n")
  | .item => w.writeFresh "<li>"
  | .table aligns => ({ w with alignments := aligns } : Writer).write "<table>"
  | .tableHead => ({ w with inHead := true, cell := 0 } : Writer).write "<thead><tr>"
  | .tableRow => ({ w with cell := 0 } : Writer).write "<tr>"
  | .tableCell =>
    let w := w.write (if w.inHead then "<th" else "<td")
    match w.alignments[w.cell]? with
    | some .left => w.write " style=\"text-align: left\">"
    | some .center => w.write " style=\"text-align: center\">"
    | some .right => w.write " style=\"text-align: right\">"
    | _ => w.write ">"
  | .emphasis => w.write "<em>"
  | .strong => w.write "<strong>"
  | .strikethrough => w.write "<del>"
  | .link .email dest title =>
    w.write ("<a href=\"mailto:" ++ escapeHref dest ++ titleAttr title ++ "\">")
  | .link _ dest title => w.write ("<a href=\"" ++ escapeHref dest ++ titleAttr title ++ "\">")
  | .image dest title =>
    ({ w with alt := some (0, title) } : Writer).write ("<img src=\"" ++ escapeHref dest ++ "\" alt=\"")

/-- Writes the closing of a tag. -/
def endTag (w : Writer) : Tag → Writer
  | .paragraph => w.write "</p>\n"
  | .heading level => w.write ("</h" ++ toString level ++ ">\n")
  | .blockQuote => w.write "</blockquote>\n"
  | .codeBlock _ => w.write "</code></pre>\n"
  | .htmlBlock => w
  | .list none => w.write "</ul>\n"
  | .list (some _) => w.write "</ol>\n"
  | .item => w.write "</li>\n"
  | .table _ => w.write "</tbody></table>\n"
  | .tableHead => ({ w with inHead := false } : Writer).write "</tr></thead><tbody>\n"
  | .tableRow => w.write "</tr>\n"
  | .tableCell => ({ w with cell := w.cell + 1 } : Writer).write (if w.inHead then "</th>" else "</td>")
  | .emphasis => w.write "</em>"
  | .strong => w.write "</strong>"
  | .strikethrough => w.write "</del>"
  | .link _ _ _ => w.write "</a>"
  | .image _ _ => w

/-- Takes one event inside an image's alternative text, `depth` spans deep. -/
def altStep (w : Writer) (depth : Nat) (title : String) : Event → Writer
  | .start _ => { w with alt := some (depth + 1, title) }
  | .stop _ =>
    if depth = 0 then ({ w with alt := none } : Writer).write (titleAttr title ++ "\" />")
    else { w with alt := some (depth - 1, title) }
  | .html _ => w
  | .inlineHtml s | .code s | .text s =>
    { w with out := w.out ++ escapeAttr s, endNewline := s.endsWith "\n" }
  | .softBreak | .hardBreak | .rule => w.write " "

/-- Takes one event. -/
def step (w : Writer) (e : Event) : Writer :=
  match w.alt with
  | some (depth, title) => w.altStep depth title e
  | none =>
    match e with
    | .start tag => w.startTag tag
    | .stop tag => w.endTag tag
    | .text s => w.writeText s
    | .code s => (w.write "<code>" |>.writeText s).write "</code>"
    | .html s | .inlineHtml s => w.write s
    | .softBreak => { w.write "\n" with endNewline := true }
    | .hardBreak => w.write "<br />\n"
    | .rule => w.writeFresh "<hr />\n"

end Writer

/-- The HTML of a stream of events. -/
def pushHtml (events : List Event) : String := (events.foldl Writer.step {}).out

end StudyPlanner.Markdown
