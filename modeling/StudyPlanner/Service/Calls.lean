import StudyPlanner.Service.Operation
/-!
# The operations of the study service

One function per remote method. Each builds the request message from its arguments and names
the response message and how it maps to records. Only `signIn` and `signUp` go without the
session token. Operations that only change something answer with the empty message and
give `Unit`.
-/

namespace StudyPlanner.Service

open StudyPlanner.Model
open StudyPlanner.Proto

/-- Reads a reply as the response message `β` and maps it. -/
def readAs {α : Type} (β : Type) [WireMessage β] (f : β → α) (bs : List UInt8) :
    Except DecodeError α :=
  (WireMessage.decode β bs).map f

/-- An operation whose reply carries nothing. -/
def unitCall (method : String) (body : List UInt8) : Operation Unit :=
  { method, body, read := readAs Proto.Empty fun _ => () }

/-- Signs in with an email and a password, without a token; a success keeps the token it
returns in the session. -/
def signIn (email password : String) : Operation SignedIn :=
  { method := "SignIn", withToken := false,
    body := SignInRequest.encode { email, password },
    read := readAs SignInResponse signedInOfWire,
    after := fun r s => match r with
      | .ok si => s.setToken si.token
      | .error _ => s }

/-- Creates an account, without a token; the new user comes back. -/
def signUp (name email password : String) : Operation UserInfo :=
  { method := "SignUp", withToken := false,
    body := SignUpRequest.encode { name, email, password },
    read := readAs Proto.User userOfWire }

/-- Signs out at the service; the session's token is cleared whatever the outcome. -/
def signOut : Operation Unit :=
  { unitCall "SignOut" [] with after := fun _ s => s.clearToken }

/-- Every roadmap of the user, in the order listed. -/
def getRoadmaps : Operation (List Model.Roadmap) :=
  { method := "GetRoadmaps", body := [], read := readAs RoadmapList fun l => l.roadmaps.map roadmapOfWire }

/-- One roadmap with its milestones, by id. -/
def getRoadmap (id : Int64) : Operation Model.Roadmap :=
  { method := "GetRoadmap", body := IdRequest.encode { id }, read := readAs Proto.Roadmap roadmapOfWire }

/-- Creates a roadmap; it comes back as stored. -/
def createRoadmap (name description : String) : Operation Model.Roadmap :=
  { method := "CreateRoadmap", body := CreateRoadmapRequest.encode { name, description },
    read := readAs Proto.Roadmap roadmapOfWire }

/-- The milestones of a roadmap, in the order listed. -/
def getMilestones (roadmapId : Int64) : Operation (List Model.Milestone) :=
  { method := "GetMilestones", body := IdRequest.encode { id := roadmapId },
    read := readAs MilestoneList fun l => l.milestones.map milestoneOfWire }

/-- Creates a milestone of a roadmap: no subject is sent as `0`, no target date as `0`. -/
def createMilestone (roadmapId : Int64) (subjectId : Option Int64) (level : TopicLevel)
    (name description : String) (targetDate : Option Calendar.Moment) : Operation Model.Milestone :=
  let request : CreateMilestoneRequest :=
    { roadmapId := roadmapId, subjectId := subjectId.getD 0, level := Choice.toWire level,
      name := name, description := description, targetDate := dateToWire targetDate }
  { method := "CreateMilestone", body := request.encode,
    read := readAs Proto.Milestone milestoneOfWire }

/-- Every subject of the user, in the order listed. -/
def getSubjects : Operation (List Model.Subject) :=
  { method := "GetSubjects", body := [], read := readAs SubjectList fun l => l.subjects.map subjectOfWire }

/-- Creates a subject; it comes back as stored. -/
def createSubject (name description : String) : Operation Model.Subject :=
  { method := "CreateSubject", body := CreateSubjectRequest.encode { name, description },
    read := readAs Proto.Subject subjectOfWire }

/-- The subjects a query finds. -/
def searchSubjects (query : String) : Operation (List Model.Subject) :=
  { method := "SearchSubjects", body := SearchRequest.encode { query },
    read := readAs SubjectList fun l => l.subjects.map subjectOfWire }

/-- Searches subjects and resources at once. -/
def search (query : String) : Operation (List Model.SearchResult) :=
  { method := "Search", body := SearchRequest.encode { query },
    read := readAs SearchResultList fun l => l.results.map searchResultOfWire }

/-- The resources of a subject, in the order listed. -/
def getResources (subjectId : Int64) : Operation (List Model.Resource) :=
  { method := "GetResources", body := IdRequest.encode { id := subjectId },
    read := readAs ResourceList fun l => l.resources.map resourceOfWire }

/-- Creates a resource from what a form gave; it comes back as stored. -/
def createResource (r : NewResource) : Operation Model.Resource :=
  { method := "CreateResource", body := CreateResourceRequest.encode (newResourceToWire r),
    read := readAs Proto.Resource resourceOfWire }

/-- Attaches an existing resource to a subject. -/
def addResource (subjectId resourceId : Int64) : Operation Unit :=
  unitCall "AddResource" (AddResourceRequest.encode { subjectId, resourceId })

/-- The sections of a resource, in the order listed. -/
def getSections (resourceId : Int64) : Operation (List Model.Section) :=
  { method := "GetSections", body := IdRequest.encode { id := resourceId },
    read := readAs SectionList fun l => l.sections.map sectionOfWire }

/-- Marks a section as reviewed. -/
def markSectionReviewed (sectionId : Int64) : Operation Unit :=
  unitCall "MarkSectionReviewed" (IdRequest.encode { id := sectionId })

/-- The cards of a section, in the order listed. -/
def getSectionCards (sectionId : Int64) : Operation (List Model.Card) :=
  { method := "GetSectionCards", body := IdRequest.encode { id := sectionId },
    read := readAs CardList fun l => l.cards.map cardOfWire }

/-- The cards filed under a topic, addressed by its subject, level and position. -/
def getTopicCards (topic : TopicRef) : Operation (List Model.Card) :=
  { method := "GetTopicCards", body := TopicAddress.encode (topicAddress topic),
    read := readAs CardList fun l => l.cards.map cardOfWire }

/-- One card with its blocks, by id. -/
def getCard (cardId : Int64) : Operation Model.Card :=
  { method := "GetCard", body := IdRequest.encode { id := cardId }, read := readAs Proto.Card cardOfWire }

/-- Creates a card in a section with its headline and blocks. -/
def createCard (sectionId : Int64) (headline : String) (blocks : List Model.Block) :
    Operation Model.Card :=
  let request : CreateCardRequest :=
    { sectionId := sectionId, headline := headline, blocks := blocks.map blockToWire }
  { method := "CreateCard", body := request.encode,
    read := readAs Proto.Card cardOfWire }

/-- Moves a card to a position within a section, possibly another one. -/
def moveCard (cardId sectionId : Int64) (position : Int32) : Operation Unit :=
  unitCall "MoveCard" (MoveCardRequest.encode { cardId, sectionId, position })

/-- Files a card under a topic. -/
def addCardToTopic (cardId : Int64) (topic : TopicRef) : Operation Unit :=
  unitCall "AddCardToTopic" (AddCardToTopicRequest.encode { cardId := cardId, topic := some (topicAddress topic) })

/-- The topics of a subject at one level, in the order listed. -/
def getTopics (subjectId : Int64) (level : TopicLevel) : Operation (List Model.Topic) :=
  { method := "GetTopics", body := GetTopicsRequest.encode { subjectId := subjectId, level := Choice.toWire level },
    read := readAs TopicList fun l => l.topics.map topicOfWire }

/-- Creates a topic of a subject at a level. -/
def createTopic (subjectId : Int64) (level : TopicLevel) (name : String) : Operation Model.Topic :=
  { method := "CreateTopic",
    body := CreateTopicRequest.encode { subjectId := subjectId, level := Choice.toWire level, name := name },
    read := readAs Proto.Topic topicOfWire }

/-- Renames a topic; it comes back as stored. -/
def editTopic (topic : TopicRef) (name : String) : Operation Model.Topic :=
  { method := "EditTopic", body := EditTopicRequest.encode { topic := some (topicAddress topic), name := name },
    read := readAs Proto.Topic topicOfWire }

/-- Removes a topic. -/
def removeTopic (topic : TopicRef) : Operation Unit :=
  unitCall "RemoveTopic" (TopicAddress.encode (topicAddress topic))

/-- Moves a topic to another position within its subject and level. -/
def moveTopic (topic : TopicRef) (targetPosition : Int32) : Operation Unit :=
  unitCall "MoveTopic" (MoveTopicRequest.encode { topic := some (topicAddress topic), targetPosition := targetPosition })

end StudyPlanner.Service
