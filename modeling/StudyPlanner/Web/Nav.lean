import StudyPlanner.Web.Query
import StudyPlanner.Model.Records
import StudyPlanner.Text.Quoted
/-!
# Page parameters

Each study page takes typed parameters from its URL query: the id of what it shows, names to
show before the data arrives, and *crumbs* (an id and a name) of the pages above it, for the
breadcrumbs. Writing parameters gives a query and reading that query gives them back.

Reading fails only on a required key: when it is absent (`missing`), or when its first value,
trimmed, is not a decimal integer of the right width (`invalid`, with the raw value). Optional
parts never fail: a crumb whose id does not read is left out and its name ignored; a section's
position, a topic's level and a card's state fall back to zero. Names default to empty.
-/

namespace StudyPlanner.Web

open StudyPlanner.Model

/-! ### Query keys -/

def keyRoadmapId : String := "roadmapId"
def keyRoadmapName : String := "roadmapName"
def keySubjectId : String := "subjectId"
def keySubjectName : String := "subjectName"
def keyResourceId : String := "resourceId"
def keyResourceName : String := "resourceName"
def keySectionId : String := "sectionId"
def keyPosition : String := "position"
def keyLevel : String := "level"
def keyTopicName : String := "topicName"
def keyCardId : String := "cardId"
def keyHeadline : String := "headline"
def keyState : String := "state"

/-- Why a page's query could not be read. -/
inductive NavError where
  | missing (key : String)
  | invalid (key value : String)
  deriving DecidableEq, Repr

/-- The wording of a navigation failure. -/
def NavError.message : NavError → String
  | .missing key => "missing `" ++ key ++ "` parameter"
  | .invalid key value => "`" ++ key ++ "` is not a number: " ++ Text.quote value

/-- A required 64-bit integer. -/
def requireInt64 (q : QueryMap) (key : String) : Except NavError Int64 :=
  match q.get? key with
  | none => .error (.missing key)
  | some v =>
    match Text.Decimal.readInt64? (Text.trim v) with
    | some n => .ok n
    | none => .error (.invalid key v)

/-- A required 32-bit integer. -/
def requireInt32 (q : QueryMap) (key : String) : Except NavError Int32 :=
  match q.get? key with
  | none => .error (.missing key)
  | some v =>
    match Text.Decimal.readInt32? (Text.trim v) with
    | some n => .ok n
    | none => .error (.invalid key v)

/-- A text value, empty when absent. -/
def textOf (q : QueryMap) (key : String) : String := (q.get? key).getD ""

/-- The id and name of a page above the current one, for breadcrumbs. -/
structure Crumb where
  id : Int64
  name : String
  deriving DecidableEq, Repr, Inhabited

namespace Crumb

/-- Reads a crumb when its id key holds a 64-bit integer. -/
def read (q : QueryMap) (idKey nameKey : String) : Option Crumb :=
  (q.getInt64? idKey).map fun id => { id, name := textOf q nameKey }

/-- Writes a crumb, if present: its id, then its name unless empty. -/
def write (c : Option Crumb) (w : QueryWriter) (idKey nameKey : String) : QueryWriter :=
  match c with
  | some c => (w.pushInt idKey c.id.toInt).push nameKey c.name
  | none => w

end Crumb

/-- The roadmap page: which roadmap, and its name. -/
structure RoadmapParams where
  roadmapId : Int64
  name : String := ""
  deriving DecidableEq, Repr, Inhabited

namespace RoadmapParams

def fromQuery (query : String) : Except NavError RoadmapParams := do
  let q := QueryMap.parse query
  let roadmapId ← requireInt64 q keyRoadmapId
  pure { roadmapId, name := textOf q keyRoadmapName }

def toQuery (p : RoadmapParams) : String :=
  (({} : QueryWriter).pushInt keyRoadmapId p.roadmapId.toInt |>.push keyRoadmapName p.name).finish

def crumb (p : RoadmapParams) : Crumb := { id := p.roadmapId, name := p.name }

end RoadmapParams

/-- The subject page: which subject, its name, and the roadmap it was reached from. -/
structure SubjectParams where
  subjectId : Int64
  name : String := ""
  roadmap : Option Crumb := none
  deriving DecidableEq, Repr, Inhabited

namespace SubjectParams

def fromQuery (query : String) : Except NavError SubjectParams := do
  let q := QueryMap.parse query
  let subjectId ← requireInt64 q keySubjectId
  pure { subjectId, name := textOf q keySubjectName,
         roadmap := Crumb.read q keyRoadmapId keyRoadmapName }

def toQuery (p : SubjectParams) : String :=
  let w := ({} : QueryWriter).pushInt keySubjectId p.subjectId.toInt |>.push keySubjectName p.name
  (Crumb.write p.roadmap w keyRoadmapId keyRoadmapName).finish

def crumb (p : SubjectParams) : Crumb := { id := p.subjectId, name := p.name }

end SubjectParams

/-- The resource page: which resource, its name, and the subject and roadmap above it. -/
structure ResourceParams where
  resourceId : Int64
  name : String := ""
  subject : Option Crumb := none
  roadmap : Option Crumb := none
  deriving DecidableEq, Repr, Inhabited

namespace ResourceParams

/-- The resource as reached from a subject page. -/
def within (p : ResourceParams) (s : SubjectParams) : ResourceParams :=
  { p with subject := some s.crumb, roadmap := s.roadmap }

def fromQuery (query : String) : Except NavError ResourceParams := do
  let q := QueryMap.parse query
  let resourceId ← requireInt64 q keyResourceId
  pure { resourceId, name := textOf q keyResourceName,
         subject := Crumb.read q keySubjectId keySubjectName,
         roadmap := Crumb.read q keyRoadmapId keyRoadmapName }

def toQuery (p : ResourceParams) : String :=
  let w := ({} : QueryWriter).pushInt keyResourceId p.resourceId.toInt |>.push keyResourceName p.name
  let w := Crumb.write p.subject w keySubjectId keySubjectName
  (Crumb.write p.roadmap w keyRoadmapId keyRoadmapName).finish

def crumb (p : ResourceParams) : Crumb := { id := p.resourceId, name := p.name }

end ResourceParams

/-- The section page: which section, its position, and the resource and subject above it. -/
structure SectionParams where
  sectionId : Int64
  position : Int32 := 0
  resource : Option Crumb := none
  subject : Option Crumb := none
  deriving DecidableEq, Repr, Inhabited

namespace SectionParams

/-- The section as reached from a resource page. -/
def within (p : SectionParams) (r : ResourceParams) : SectionParams :=
  { p with resource := some r.crumb, subject := r.subject }

def fromQuery (query : String) : Except NavError SectionParams := do
  let q := QueryMap.parse query
  let sectionId ← requireInt64 q keySectionId
  pure { sectionId, position := q.getInt32D keyPosition 0,
         resource := Crumb.read q keyResourceId keyResourceName,
         subject := Crumb.read q keySubjectId keySubjectName }

def toQuery (p : SectionParams) : String :=
  let w := ({} : QueryWriter).pushInt keySectionId p.sectionId.toInt |>.pushInt keyPosition p.position.toInt
  let w := Crumb.write p.resource w keyResourceId keyResourceName
  (Crumb.write p.subject w keySubjectId keySubjectName).finish

end SectionParams

/-- The topic page: which topic, its name, and its subject's name. -/
structure TopicParams where
  topic : TopicRef
  name : String := ""
  subjectName : String := ""
  deriving DecidableEq, Repr, Inhabited

namespace TopicParams

def fromQuery (query : String) : Except NavError TopicParams := do
  let q := QueryMap.parse query
  let subjectId ← requireInt64 q keySubjectId
  let level : TopicLevel := Choice.ofWire (q.getInt32D keyLevel 0)
  let position ← requireInt32 q keyPosition
  pure { topic := { subjectId, level, position }, name := textOf q keyTopicName,
         subjectName := textOf q keySubjectName }

def toQuery (p : TopicParams) : String :=
  (({} : QueryWriter).pushInt keySubjectId p.topic.subjectId.toInt
    |>.pushInt keyLevel (Choice.toWire p.topic.level).toInt
    |>.pushInt keyPosition p.topic.position.toInt
    |>.push keyTopicName p.name
    |>.push keySubjectName p.subjectName).finish

/-- The topic's subject as a crumb. -/
def subject (p : TopicParams) : Crumb := { id := p.topic.subjectId, name := p.subjectName }

end TopicParams

/-- The card page: which card, its headline and state, and the subject it belongs to. -/
structure CardParams where
  cardId : Int64
  headline : String := ""
  state : CardState := .draft
  subject : Option Crumb := none
  deriving DecidableEq, Repr, Inhabited

namespace CardParams

/-- The parameters of a card's page, without a subject. -/
def ofCard (c : Card) : CardParams := { cardId := c.id, headline := c.headline, state := c.state }

def fromQuery (query : String) : Except NavError CardParams := do
  let q := QueryMap.parse query
  let cardId ← requireInt64 q keyCardId
  pure { cardId, headline := textOf q keyHeadline, state := Choice.ofWire (q.getInt32D keyState 0),
         subject := Crumb.read q keySubjectId keySubjectName }

def toQuery (p : CardParams) : String :=
  let w := ({} : QueryWriter).pushInt keyCardId p.cardId.toInt |>.push keyHeadline p.headline
    |>.pushInt keyState (Choice.toWire p.state).toInt
  (Crumb.write p.subject w keySubjectId keySubjectName).finish

end CardParams

/-- Where a link or a button leads. -/
inductive Destination where
  | signIn
  | signUp
  | home
  | account
  | roadmap (p : RoadmapParams)
  | subject (p : SubjectParams)
  | resource (p : ResourceParams)
  | section (p : SectionParams)
  | topic (p : TopicParams)
  | card (p : CardParams)
  deriving DecidableEq, Repr

end StudyPlanner.Web
