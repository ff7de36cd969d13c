import StudyPlanner.Model.Kinds
import StudyPlanner.Calendar.Moment
/-!
# Study records

The records a person studies with. A *roadmap* orders *milestones*, each optionally tied to a
*subject* and a topic level. A subject has *resources* (books, courses, ...), split into
*sections*, which hold *cards*; a card is a headline and a list of *blocks*. Subjects also
have *topics* on three levels, and a card can be filed under a topic. A topic is addressed by
its subject, level and position (`TopicRef`).

Dates are optional `Moment`s; ids are 64-bit and positions 32-bit, as on the wire.
-/

namespace StudyPlanner.Model

open StudyPlanner.Calendar

/-- A milestone on a roadmap. -/
structure Milestone where
  id : Int64 := 0
  name : String := ""
  description : String := ""
  targetDate : Option Moment := none
  completed : Bool := false
  subjectId : Option Int64 := none
  level : TopicLevel := .surface
  deriving DecidableEq, Repr, Inhabited

/-- A roadmap and its milestones. -/
structure Roadmap where
  id : Int64 := 0
  name : String := ""
  description : String := ""
  milestones : List Milestone := []
  deriving DecidableEq, Repr, Inhabited

/-- A subject of study. -/
structure Subject where
  id : Int64 := 0
  name : String := ""
  description : String := ""
  deriving DecidableEq, Repr, Inhabited

/-- A resource of a subject: a book, a course, a channel, ... -/
structure Resource where
  id : Int64 := 0
  name : String := ""
  kind : ResourceType := .book
  link : String := ""
  pattern : ResourcePattern := .chapter
  production : Option Moment := none
  expiration : Option Moment := none
  order : Int32 := 0
  deriving DecidableEq, Repr, Inhabited

/-- What it takes to create a resource. -/
structure NewResource where
  subjectId : Int64 := 0
  name : String := ""
  kind : ResourceType := .book
  link : String := ""
  pattern : ResourcePattern := .chapter
  production : Option Moment := none
  expiration : Option Moment := none
  sections : UInt32 := 0
  deriving DecidableEq, Repr, Inhabited

/-- A section of a resource. -/
structure Section where
  id : Int64 := 0
  position : Int32 := 0
  reviewed : Bool := false
  cardCount : Int32 := 0
  deriving DecidableEq, Repr, Inhabited

/-- A block of a card: markdown text, code, or an image. -/
structure Block where
  kind : BlockType := .text
  content : String := ""
  metadata : String := ""
  extension : String := ""
  deriving DecidableEq, Repr, Inhabited

/-- A card: a headline and its blocks. -/
structure Card where
  id : Int64 := 0
  headline : String := ""
  state : CardState := .draft
  position : Int32 := 0
  blocks : List Block := []
  deriving DecidableEq, Repr, Inhabited

/-- The address of a topic: its subject, level and position. -/
structure TopicRef where
  subjectId : Int64 := 0
  level : TopicLevel := .surface
  position : Int32 := 0
  deriving DecidableEq, Repr, Inhabited

/-- A topic of a subject. -/
structure Topic where
  subjectId : Int64 := 0
  level : TopicLevel := .surface
  position : Int32 := 0
  name : String := ""
  deriving DecidableEq, Repr, Inhabited

/-- The address of a topic. -/
def Topic.reference (t : Topic) : TopicRef :=
  { subjectId := t.subjectId, level := t.level, position := t.position }

/-- A hit of a search. -/
structure SearchResult where
  kind : SearchKind := .subject
  id : Int64 := 0
  name : String := ""
  description : String := ""
  deriving DecidableEq, Repr, Inhabited

/-- A user's name and email address. -/
structure UserInfo where
  name : String := ""
  email : String := ""
  deriving DecidableEq, Repr, Inhabited

/-- How a user is addressed: the name, or the email address when the name is empty. -/
def UserInfo.displayName (u : UserInfo) : String := if u.name.isEmpty then u.email else u.name

/-- A successful sign-in: the session token and the user. -/
structure SignedIn where
  token : String := ""
  user : UserInfo := {}
  deriving DecidableEq, Repr, Inhabited

end StudyPlanner.Model
