/-!
# Kinds: the closed lists of choices in study records

A card moves through six states, a block is text, code or an image, a resource has one of
seven types and is split by one of six patterns, a topic lives on one of three levels, and a
search hit is a subject or a resource.

Each kind is a `Choice`: a list `all` of its values in a fixed order, a lower-case `label`
shown on pages and written in URLs, and a capitalised `name` used when records are exchanged
as data. On the wire a value is its place in `all`; reading a number that names no place gives
the first value, so every 32-bit number reads as some value and `ofWire (toWire x) = x`.
-/

namespace StudyPlanner.Model

/-- A kind with finitely many values, listed in wire order. -/
class Choice (α : Type) where
  /-- Every value, in the order of their wire numbers. -/
  all : List α
  /-- The value a wire number without a place reads as. -/
  first : α
  /-- The lower-case label shown on pages. -/
  label : α → String
  /-- The capitalised name used in exchanged records. -/
  name : α → String

namespace Choice

variable {α : Type} [Choice α] [DecidableEq α]

/-- The wire number of a value: its place in `all`. -/
def toWire (x : α) : Int32 := Int32.ofNat ((all : List α).idxOf x)

/-- The value a wire number names, or `first` when it names none. -/
def ofWire (n : Int32) : α :=
  if n.toInt < 0 then first else ((all : List α)[n.toInt.toNat]?).getD first

/-- The value whose label is the given text. -/
def ofLabel? (s : String) : Option α := (all : List α).find? fun x => label x == s

end Choice

/-- Where a card is in its review. -/
inductive CardState where
  | draft | reviewed | completed | approved | released | rejected
  deriving DecidableEq, Repr, Inhabited

instance : Choice CardState where
  all := [.draft, .reviewed, .completed, .approved, .released, .rejected]
  first := .draft
  label
    | .draft => "draft" | .reviewed => "reviewed" | .completed => "completed"
    | .approved => "approved" | .released => "released" | .rejected => "rejected"
  name
    | .draft => "Draft" | .reviewed => "Reviewed" | .completed => "Completed"
    | .approved => "Approved" | .released => "Released" | .rejected => "Rejected"

/-- What a card's block holds. -/
inductive BlockType where
  | text | code | image
  deriving DecidableEq, Repr, Inhabited

instance : Choice BlockType where
  all := [.text, .code, .image]
  first := .text
  label | .text => "text" | .code => "code" | .image => "image"
  name | .text => "Text" | .code => "Code" | .image => "Image"

/-- What kind of material a resource is. -/
inductive ResourceType where
  | book | website | course | channel | video | article | documentation
  deriving DecidableEq, Repr, Inhabited

instance : Choice ResourceType where
  all := [.book, .website, .course, .channel, .video, .article, .documentation]
  first := .book
  label
    | .book => "book" | .website => "website" | .course => "course" | .channel => "channel"
    | .video => "video" | .article => "article" | .documentation => "documentation"
  name
    | .book => "Book" | .website => "Website" | .course => "Course" | .channel => "Channel"
    | .video => "Video" | .article => "Article" | .documentation => "Documentation"

/-- The unit a resource is split into for study. -/
inductive ResourcePattern where
  | chapter | page | session | episode | lecture | section
  deriving DecidableEq, Repr, Inhabited

instance : Choice ResourcePattern where
  all := [.chapter, .page, .session, .episode, .lecture, .section]
  first := .chapter
  label
    | .chapter => "chapter" | .page => "page" | .session => "session"
    | .episode => "episode" | .lecture => "lecture" | .section => "section"
  name
    | .chapter => "Chapter" | .page => "Page" | .session => "Session"
    | .episode => "Episode" | .lecture => "Lecture" | .section => "Section"

/-- How deep a topic of a subject goes. -/
inductive TopicLevel where
  | surface | depth | origin
  deriving DecidableEq, Repr, Inhabited

instance : Choice TopicLevel where
  all := [.surface, .depth, .origin]
  first := .surface
  label | .surface => "surface" | .depth => "depth" | .origin => "origin"
  name | .surface => "Surface" | .depth => "Depth" | .origin => "Origin"

/-- What a search hit points at. -/
inductive SearchKind where
  | subject | resource
  deriving DecidableEq, Repr, Inhabited

instance : Choice SearchKind where
  all := [.subject, .resource]
  first := .subject
  label | .subject => "subject" | .resource => "resource"
  name | .subject => "Subject" | .resource => "Resource"

end StudyPlanner.Model
