import StudyPlanner.App.Connection
import StudyPlanner.View.Components
import StudyPlanner.Web.Route
/-!
# What the user does and what the app does next

A page's elements carry *actions*: what happens when the user clicks, types into or submits
them. An action changes the page at once and may ask for more, as *effects*: going to another
route, or starting a *job* that calls the service. Jobs run later, one at a time, each to its
end; a job may be due only after a delay (the home page's search waits for the user to stop
typing).

A field's action takes the text the event carries; other actions ignore it.

Every call a page makes runs inside a job, and a job runs to its end at once, so no page is ever
seen halfway through a call: a form's button is never seen disabled while its call runs.
-/

namespace StudyPlanner.App

open Model Web View

/-! ## Actions of each page -/

/-- The sign-in form. -/
inductive SignInAction where
  | setEmail
  | setPassword
  | submit
  deriving DecidableEq, Repr

/-- The sign-up form. -/
inductive SignUpAction where
  | setName
  | setEmail
  | setPassword
  | setConfirm
  | submit
  deriving DecidableEq, Repr

/-- The home page: the subject search and the two forms that create a roadmap or a subject. -/
inductive HomeAction where
  | search
  | setRoadmapName
  | setRoadmapDescription
  | createRoadmap
  | toggleRoadmapForm
  | setSubjectName
  | setSubjectDescription
  | createSubject
  | toggleSubjectForm
  deriving DecidableEq, Repr

/-- The roadmap page's milestone form. -/
inductive RoadmapAction where
  | setName
  | setDescription
  | setTargetDate
  | setSubject
  | setLevel
  | create
  | toggleForm
  deriving DecidableEq, Repr

/-- The subject page: its resources (a form that creates one, a search that attaches one) and
its topics (one level at a time, each renamed in place, moved or removed). -/
inductive SubjectAction where
  | setName
  | setLink
  | setKind
  | setPattern
  | setSections
  | setProduction
  | setExpiration
  | create
  | toggleCreateForm
  | setSearchText
  | search
  | toggleSearchForm
  | attach (hit : SearchResult)
  | selectLevel (level : TopicLevel)
  | setTopicName
  | createTopic
  | setDraft
  | rename
  | cancelRename
  | startRename (topic : TopicRef) (name : String)
  | remove (topic : TopicRef)
  | moveTopic (topic : TopicRef) (target : Int32)
  deriving Repr

/-- The resource page: marking a section reviewed. -/
inductive ResourceAction where
  | markReviewed (sectionId : Int64)
  deriving DecidableEq, Repr

/-- The section page: the card form and moving cards. -/
inductive SectionAction where
  | setHeadline
  | setText
  | setCode
  | setLanguage
  | create
  | toggleForm
  | moveCard (cardId : Int64) (position : Int32)
  deriving DecidableEq, Repr

/-- The card page's form that files the card under a topic. -/
inductive CardAction where
  | selectLevel (level : TopicLevel)
  | setPosition
  | file
  deriving DecidableEq, Repr

/-- Anything an element of the app does. -/
inductive Action where
  /-- A link of the router: a plain click goes to the route, a modified one does nothing. -/
  | follow (dest : Route)
  /-- An anchor the app handles itself: any click goes to the route. -/
  | go (dest : Route)
  /-- A sign-out button: in the bar at the top, or on the account page. -/
  | signOut (inNavbar : Bool)
  | signIn (a : SignInAction)
  | signUp (a : SignUpAction)
  | home (a : HomeAction)
  | roadmap (a : RoadmapAction)
  | subject (a : SubjectAction)
  | resource (a : ResourceAction)
  | section (a : SectionAction)
  | card (a : CardAction)
  deriving Repr

/-! ## Jobs of each page

A load carries the number of the load it is (`version`): only the latest load of a value may
set it, and an older one is dropped before it calls. -/

/-- The home page's calls. -/
inductive HomeJob where
  | loadRoadmaps (version : Nat)
  | loadSubjects (version : Nat)
  | createRoadmap
  | createSubject
  /-- A search for the text typed, as the `generation`-th keystroke. -/
  | search (generation : Nat) (text : String)
  deriving Repr

/-- The roadmap page's calls. -/
inductive RoadmapJob where
  | loadRoadmap (version : Nat)
  | loadMilestones (version : Nat)
  | loadSubjects (version : Nat)
  | create
  deriving Repr

/-- The subject page's calls. -/
inductive SubjectJob where
  | loadResources (version : Nat)
  | create
  | search
  | attach (hit : SearchResult)
  | loadTopics (version : Nat)
  | createTopic
  | rename (topic : TopicRef)
  | remove (topic : TopicRef)
  | moveTopic (topic : TopicRef) (target : Int32)
  deriving Repr

/-- The resource page's calls. -/
inductive ResourceJob where
  | loadSections (version : Nat)
  | markReviewed (sectionId : Int64)
  deriving Repr

/-- The section page's calls. -/
inductive SectionJob where
  | loadCards (version : Nat)
  | create
  | moveCard (cardId : Int64) (position : Int32)
  deriving Repr

/-- The card page's calls. The filing form may come and go with the page's subject, so its
calls name which showing of the form (`panel`) they belong to. -/
inductive CardJob where
  | loadCard (version : Nat)
  | loadTopics (panel version : Nat)
  | file (panel : Nat)
  deriving Repr

/-- Any call the app makes. -/
inductive Job where
  | signIn
  | signUp
  | signOut (inNavbar : Bool)
  | home (j : HomeJob)
  | roadmap (j : RoadmapJob)
  | subject (j : SubjectJob)
  | resource (j : ResourceJob)
  | section (j : SectionJob)
  /-- The topic page's only call: loading its cards. -/
  | topicCards (version : Nat)
  | card (j : CardJob)
  deriving Repr

/-- What an action or a job asks of the app. -/
inductive Effect where
  | navigate (dest : Route)
  /-- Runs a job once `delay` milliseconds have passed. -/
  | spawn (delay : Nat) (job : Job)
  deriving Repr

/-- Starts a job now. -/
def Effect.start (job : Job) : Effect := .spawn 0 job

/-! ## Values loaded from the service -/

/-- A value a page loads: not there yet, or the outcome (a value or an error message) of its
latest load. `version` counts the loads started. -/
structure Loadable (α : Type) where
  outcome : Option (Except String α) := none
  version : Nat := 0
  deriving Repr

namespace Loadable

variable {α : Type}

/-- Starts another load; the value shown stays until the load ends. -/
def restart (r : Loadable α) : Loadable α := { r with version := r.version + 1 }

/-- Whether a load is the latest one. -/
def isLatest (r : Loadable α) (version : Nat) : Bool := version == r.version

/-- Ends load number `version`: its outcome is kept only if it is the latest load. -/
def finish (r : Loadable α) (version : Nat) (outcome : Except String α) : Loadable α :=
  if r.isLatest version then { r with outcome := some outcome } else r

/-- The loaded value, if the latest load gave one. -/
def value? (r : Loadable α) : Option α :=
  match r.outcome with
  | some (.ok v) => some v
  | _ => none

end Loadable

/-! ## Pieces every page uses -/

/-- A link of the router to a route. -/
def routeLink (dest : Route) (children : List (Node Action)) : Node Action :=
  link dest.url (.follow dest) children

/-- The breadcrumbs of a page: `Home`, the pages above it, and its own title. -/
def trail (links : List (String × Route)) (current : String) : Node Action :=
  breadcrumbs (.go .home) (links.map fun l => (l.1, .go l.2)) current

/-- A muted paragraph. -/
def muted (text : String) : Node Action := .el "p" [("class", "muted")] [.text text]

/-- A list of values loaded from the service: a note while loading, an alert on failure, the
`empty` note for no values, and `shown` otherwise. -/
def loadedList {α : Type} (r : Loadable (List α)) (loading empty : String)
    (shown : List α → List (Node Action)) : List (Node Action) :=
  match r.outcome with
  | none => [muted loading]
  | some (.error e) => alert (some (Notice.error e))
  | some (.ok []) => [muted empty]
  | some (.ok xs) => shown xs

/-- A form's submit button. Its call runs to its end at once, so it is never seen disabled. -/
def submitButton (label : String) : Node Action := loadingButton false label workingLabel primaryButton

/-- A form that runs `onSubmit` when submitted. -/
def form (cls : String) (onSubmit : Action) (children : List (Node Action)) : Node Action :=
  .elOn "form" [("class", cls)] [("submit", onSubmit)] children

/-- A text input with its current value and the action that takes what is typed. -/
def textInput (type placeholder value : String) (onInput : Action) : Node Action :=
  .elOn "input" [("type", type), ("placeholder", placeholder), ("value", value)]
    [("input", onInput)] []

/-- A text area with its current value and the action that takes what is typed. -/
def textArea (attrs : List (String × String)) (value : String) (onInput : Action) : Node Action :=
  .elOn "textarea" (attrs ++ [("value", value)]) [("input", onInput)] []

/-- A choice among `options` (value and label), showing `value`. -/
def choiceSelect (value : String) (onChange : Action) (options : List (String × String)) :
    Node Action :=
  .elOn "select" [("value", value)] [("change", onChange)]
    (options.map fun o => .el "option" [("value", o.1)] [.text o.2])

/-- The options of a choice of kinds, by wire number and label. -/
def kindOptions (α : Type) [Choice α] [DecidableEq α] : List (String × String) :=
  (Choice.all : List α).map fun k => (toString (Choice.toWire k).toInt, Choice.label k)

/-- The wire number of a kind as an option's value. -/
def kindValue {α : Type} [Choice α] [DecidableEq α] (k : α) : String := toString (Choice.toWire k).toInt

/-- The kind an option's value names: its wire number, or `0` when the value is no 32-bit
number. -/
def kindOfValue {α : Type} [Choice α] (value : String) : α :=
  Choice.ofWire ((Text.Decimal.readInt32? value).getD 0)

end StudyPlanner.App
