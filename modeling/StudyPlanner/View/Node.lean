import StudyPlanner.Text.Blank
/-!
# Pages as element trees

A rendered page is a list of nodes: elements with attributes, event listeners and children,
text, and HTML given as it is (an element's raw inner HTML). The type of what a listener does
is a parameter, so the same tree serves any page.

* Written out, an element is `<tag a="v" ...>children</tag>` with its attributes sorted by
  name and an explicit close tag for every element. Attribute values have `& < > "`
  escaped, text has `& < >` escaped, and raw HTML is written as it is. Listeners are not
  written.
* The text content of an element is the text of all its descendants, one after another;
  raw HTML is not text.
* Elements are found in document order (an element before its descendants, siblings left to
  right) by a selector: a tag, a trimmed text content, a piece of text content, attribute
  values, and which of the matches to take.
-/

namespace StudyPlanner.View

/-- A node of a rendered page; `α` is what its event listeners do. -/
inductive Node (α : Type) where
  | element (tag : String) (attrs : List (String × String)) (listeners : List (String × α))
      (children : List (Node α))
  | text (s : String)
  /-- HTML written as it is, as an element's inner HTML. -/
  | raw (html : String)
  deriving Repr, Inhabited

namespace Node

variable {α : Type}

/-- An element without listeners. -/
def el (tag : String) (attrs : List (String × String)) (children : List (Node α)) : Node α :=
  .element tag attrs [] children

/-- An element with listeners. -/
def elOn (tag : String) (attrs : List (String × String)) (listeners : List (String × α))
    (children : List (Node α)) : Node α :=
  .element tag attrs listeners children

end Node

/-! ## Writing HTML -/

/-- Escapes text: `& < >`. -/
def escapeText (s : String) : String :=
  String.join (s.toList.map fun c =>
    if c = '&' then "&amp;" else if c = '<' then "&lt;" else if c = '>' then "&gt;" else c.toString)

/-- Escapes an attribute value: `& < > "`. -/
def escapeValue (s : String) : String :=
  String.join (s.toList.map fun c =>
    if c = '&' then "&amp;" else if c = '<' then "&lt;" else if c = '>' then "&gt;"
    else if c = '"' then "&quot;" else c.toString)

/-- Inserts an attribute into a list sorted by name, after those of the same name. -/
def insertAttr (a : String × String) : List (String × String) → List (String × String)
  | [] => [a]
  | b :: rest => if a.1 < b.1 then a :: b :: rest else b :: insertAttr a rest

/-- Attributes sorted by name; attributes of one name keep their order. -/
def sortAttrs (attrs : List (String × String)) : List (String × String) :=
  attrs.foldl (fun acc a => insertAttr a acc) []

/-- The attributes of an element as written in its start tag. -/
def attrsHtml (attrs : List (String × String)) : String :=
  String.join ((sortAttrs attrs).map fun a => " " ++ a.1 ++ "=\"" ++ escapeValue a.2 ++ "\"")

mutual

/-- A node written as HTML. -/
def Node.html {α : Type} : Node α → String
  | .element tag attrs _ children => "<" ++ tag ++ attrsHtml attrs ++ ">" ++ nodesHtml children ++ "</" ++ tag ++ ">"
  | .text s => escapeText s
  | .raw h => h

/-- Nodes written as HTML, one after another. -/
def nodesHtml {α : Type} : List (Node α) → String
  | [] => ""
  | n :: rest => n.html ++ nodesHtml rest

end

mutual

/-- The text content of a node. -/
def Node.textContent {α : Type} : Node α → String
  | .element _ _ _ children => nodesText children
  | .text s => s
  | .raw _ => ""

/-- The text content of nodes, one after another. -/
def nodesText {α : Type} : List (Node α) → String
  | [] => ""
  | n :: rest => n.textContent ++ nodesText rest

end

/-! ## Finding elements -/

/-- An element found in a page: its tag, attributes, listeners, text content, and the
elements it stands in, innermost first. -/
structure Found (α : Type) where
  tag : String
  attrs : List (String × String)
  listeners : List (String × α)
  text : String
  ancestors : List (String × List (String × String) × List (String × α))
  deriving Inhabited

mutual

/-- The elements of a node in document order; `up` are the elements around it, innermost
first. -/
def Node.elements {α : Type} (up : List (String × List (String × String) × List (String × α))) :
    Node α → List (Found α)
  | .element tag attrs ls children =>
    { tag, attrs, listeners := ls, text := nodesText children, ancestors := up } ::
      nodesElements ((tag, attrs, ls) :: up) children
  | .text _ => []
  | .raw _ => []

/-- The elements of nodes in document order. -/
def nodesElements {α : Type} (up : List (String × List (String × String) × List (String × α))) :
    List (Node α) → List (Found α)
  | [] => []
  | n :: rest => n.elements up ++ nodesElements up rest

end

/-- Which element an action aims at. -/
structure Selector where
  tag : Option String := none
  text : Option String := none
  contains : Option String := none
  attrs : List (String × String) := []
  nth : Nat := 0
  deriving Repr, Inhabited

/-- Whether `needle` stands somewhere in `hay`. -/
def hasInfix (needle hay : List Char) : Bool :=
  let rec go : List Char → Bool
    | [] => needle.isEmpty
    | c :: rest => needle.isPrefixOf (c :: rest) || go rest
  go hay

/-- Whether an element has an attribute with the given value. -/
def hasAttr {α : Type} (f : Found α) (a : String × String) : Bool :=
  f.attrs.any fun b => b.1 == a.1 && b.2 == a.2

/-- Whether an element matches a selector, `nth` aside. -/
def Selector.matches {α : Type} (sel : Selector) (f : Found α) : Bool :=
  (sel.tag.all (· == f.tag)) &&
    (sel.text.all (· == Text.trim f.text)) &&
    (sel.contains.all fun t => hasInfix t.toList f.text.toList) &&
    sel.attrs.all (hasAttr f)

/-- The element a selector picks in a page. -/
def select {α : Type} (sel : Selector) (page : List (Node α)) : Option (Found α) :=
  ((nodesElements [] page).filter sel.matches)[sel.nth]?

/-- The listeners for an event on an element and the elements around it, innermost first:
the event bubbles up. -/
def Found.bubble {α : Type} (f : Found α) (event : String) : List α :=
  let own := f.listeners.filterMap fun l => if l.1 == event then some l.2 else none
  own ++ f.ancestors.flatMap fun a => a.2.2.filterMap fun l => if l.1 == event then some l.2 else none

/-- Whether an element is, or stands in, a button with a `disabled` attribute. -/
def Found.inDisabledButton {α : Type} (f : Found α) : Bool :=
  (f.tag == "button" && f.attrs.any (·.1 == "disabled")) ||
    f.ancestors.any fun a => a.1 == "button" && a.2.1.any (·.1 == "disabled")

/-- The `submit` listeners of the nearest form that is the element or stands around it. -/
def Found.formSubmit {α : Type} (f : Found α) : Option (List α) :=
  let pick (ls : List (String × α)) : List α := ls.filterMap fun l => if l.1 == "submit" then some l.2 else none
  if f.tag == "form" then some (pick f.listeners)
  else (f.ancestors.find? (·.1 == "form")).map fun a => pick a.2.2

end StudyPlanner.View
