import StudyPlanner.Model.Records
import StudyPlanner.Proto.Account
import StudyPlanner.Proto.Roadmaps
import StudyPlanner.Proto.Subjects
import StudyPlanner.Proto.Cards
import StudyPlanner.Proto.Topics
import StudyPlanner.Proto.Search
/-!
# Records to and from the wire

A reply's message becomes a study record field by field: lists keep their length and order,
kinds are read with `Choice.ofWire` (an unknown number is the kind's first value), dates with
`ofEpochSeconds` (zero and out-of-range numbers are no date), and a milestone's subject id
zero means no subject. Requests go the other way: kinds become their wire numbers, dates
their whole seconds (zero for none), and a topic its address.
-/

namespace StudyPlanner.Service

open StudyPlanner.Model

/-- A date from its wire seconds. -/
def dateOfWire (secs : Int64) : Option Calendar.Moment := Calendar.ofEpochSeconds secs.toInt

/-- A date's wire seconds. -/
def dateToWire (d : Option Calendar.Moment) : Int64 := Int64.ofInt (Calendar.toEpochSeconds d)

/-- A milestone from the wire: its target date read as a date, subject id `0` as no subject and
its level as a kind. -/
def milestoneOfWire (m : Proto.Milestone) : Milestone :=
  { id := m.id, name := m.name, description := m.description, targetDate := dateOfWire m.targetDate,
    completed := m.completed, subjectId := if m.subjectId = 0 then none else some m.subjectId,
    level := Choice.ofWire m.level }

/-- A roadmap from the wire, its milestones mapped one by one in order. -/
def roadmapOfWire (r : Proto.Roadmap) : Roadmap :=
  { id := r.id, name := r.name, description := r.description,
    milestones := r.milestones.map milestoneOfWire }

/-- A subject from the wire, every field copied. -/
def subjectOfWire (s : Proto.Subject) : Subject :=
  { id := s.id, name := s.name, description := s.description }

/-- A resource from the wire: its kind and pattern read as kinds, its production and expiry as
dates. -/
def resourceOfWire (r : Proto.Resource) : Resource :=
  { id := r.id, name := r.name, kind := Choice.ofWire r.kind, link := r.link,
    pattern := Choice.ofWire r.pattern, production := dateOfWire r.production,
    expiration := dateOfWire r.expiration, order := r.order }

/-- A section from the wire, every field copied. -/
def sectionOfWire (s : Proto.Section) : Section :=
  { id := s.id, position := s.position, reviewed := s.reviewed, cardCount := s.cardCount }

/-- A card block from the wire, its kind read as a kind. -/
def blockOfWire (b : Proto.Block) : Block :=
  { kind := Choice.ofWire b.kind, content := b.content, metadata := b.metadata,
    extension := b.extension }

/-- A card block for the wire, its kind as its wire number. -/
def blockToWire (b : Block) : Proto.Block :=
  { kind := Choice.toWire b.kind, content := b.content, metadata := b.metadata,
    extension := b.extension }

/-- A card from the wire: its state read as a kind and its blocks mapped one by one in order. -/
def cardOfWire (c : Proto.Card) : Card :=
  { id := c.id, headline := c.headline, state := Choice.ofWire c.state, position := c.position,
    blocks := c.blocks.map blockOfWire }

/-- A topic from the wire, its level read as a kind. -/
def topicOfWire (t : Proto.Topic) : Topic :=
  { subjectId := t.subjectId, level := Choice.ofWire t.level, position := t.position, name := t.name }

/-- The address a call gives a topic: its subject, its level's wire number and its position. -/
def topicAddress (t : TopicRef) : Proto.TopicAddress :=
  { subjectId := t.subjectId, level := Choice.toWire t.level, position := t.position }

/-- A search hit from the wire, its kind read as a kind. -/
def searchResultOfWire (r : Proto.SearchResult) : SearchResult :=
  { kind := Choice.ofWire r.kind, id := r.id, name := r.name, description := r.description }

/-- A user's name and email from the wire. -/
def userOfWire (u : Proto.User) : UserInfo := { name := u.name, email := u.email }

/-- A sign-in answer: the token and the user signed in. -/
def signedInOfWire (r : Proto.SignInResponse) : SignedIn :=
  { token := r.token, user := { name := r.name, email := r.email } }

/-- The wire count of sections: the count, or the largest 32-bit number when it is larger. -/
def sectionsToWire (n : UInt32) : Int32 :=
  if n.toNat < 2147483648 then Int32.ofNat n.toNat else Int32.ofInt 2147483647

/-- The request that creates a resource: kinds as wire numbers, dates as seconds, and the
section count as a 32-bit number. -/
def newResourceToWire (r : NewResource) : Proto.CreateResourceRequest :=
  { name := r.name, kind := Choice.toWire r.kind, link := r.link, pattern := Choice.toWire r.pattern,
    production := dateToWire r.production, expiration := dateToWire r.expiration,
    sections := sectionsToWire r.sections, subjectId := r.subjectId }

end StudyPlanner.Service
