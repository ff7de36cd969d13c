import StudyPlanner.App.Action
import StudyPlanner.Form.Check
import StudyPlanner.Service.Calls
/-!
# The home page

The home page lists the roadmaps and the subjects, each with a form (in a panel, closed at
first) that creates one, and has a search box for subjects.

* Creating needs a name; name and description are trimmed. On success the form is cleared, the
  page says what was created, and the list is loaded again.
* The search is *debounced*: each keystroke counts as a new generation and waits
  `searchDelay` milliseconds; only a wait that ends with its generation still the latest
  searches, and only an answer whose generation is still the latest is shown. A blank search
  clears the results without a call.
-/

namespace StudyPlanner.App

open Model Web View Service

namespace HomePage

/-- How long a search waits for the next keystroke, in milliseconds. -/
def searchDelay : Nat := 300

/-- The home page. -/
structure State where
  notice : Option Notice := none
  roadmaps : Loadable (List Roadmap) := {}
  subjects : Loadable (List Subject) := {}
  roadmapName : String := ""
  roadmapDescription : String := ""
  roadmapFormOpen : Bool := false
  subjectName : String := ""
  subjectDescription : String := ""
  subjectFormOpen : Bool := false
  searchText : String := ""
  generation : Nat := 0
  found : Option (Except String (List Subject)) := none
  deriving Repr

/-- The page as it first shows, loading both lists. -/
def start : State × List Effect :=
  ({ roadmaps := { version := 1 }, subjects := { version := 1 } },
   [.start (.home (.loadRoadmaps 1)), .start (.home (.loadSubjects 1))])

/-- What an action does to the page. -/
def handle (a : HomeAction) (value : String) (s : State) : State × List Effect :=
  match a with
  | .search =>
    let g := s.generation + 1
    ({ s with searchText := value, generation := g }, [.spawn searchDelay (.home (.search g value))])
  | .setRoadmapName => ({ s with roadmapName := value }, [])
  | .setRoadmapDescription => ({ s with roadmapDescription := value }, [])
  | .createRoadmap => (s, [.start (.home .createRoadmap)])
  | .toggleRoadmapForm => ({ s with roadmapFormOpen := !s.roadmapFormOpen }, [])
  | .setSubjectName => ({ s with subjectName := value }, [])
  | .setSubjectDescription => ({ s with subjectDescription := value }, [])
  | .createSubject => (s, [.start (.home .createSubject)])
  | .toggleSubjectForm => ({ s with subjectFormOpen := !s.subjectFormOpen }, [])

/-- How a search goes on once its wait is over. -/
inductive SearchStart where
  /-- A later keystroke came meanwhile: nothing more is done. -/
  | stale
  /-- The text is blank: the results are cleared without a call. -/
  | clear
  /-- The service is asked for the trimmed text. -/
  | ask (query : String)
  deriving DecidableEq, Repr

/-- How the search of the `g`-th keystroke, for `text`, goes on once its wait is over. -/
def searchStart (g : Nat) (text : String) (s : State) : SearchStart :=
  if g != s.generation then .stale
  else
    let query := Text.trim text
    if query.isEmpty then .clear else .ask query

/-- The page once the answer to the search of the `g`-th keystroke comes: the answer is shown
if no later keystroke came meanwhile, and otherwise dropped (`none`). -/
def searchAnswered (g : Nat) (r : Except String (List Subject)) (s : State) : Option State :=
  if g != s.generation then none else some { s with found := some r }

/-- Runs one of the page's calls. -/
def run (j : HomeJob) (s : State) (c : Connection) : State × Connection × List Effect :=
  match j with
  | .loadRoadmaps v =>
    if !s.roadmaps.isLatest v then (s, c, [])
    else
      let (r, c) := c.fetch getRoadmaps
      ({ s with roadmaps := s.roadmaps.finish v r }, c, [])
  | .loadSubjects v =>
    if !s.subjects.isLatest v then (s, c, [])
    else
      let (r, c) := c.fetch getSubjects
      ({ s with subjects := s.subjects.finish v r }, c, [])
  | .createRoadmap =>
    let s := { s with notice := none }
    let name := Text.trim s.roadmapName
    match Form.required "Roadmap name" name with
    | .error e => ({ s with notice := some (.error e.message) }, c, [])
    | .ok () =>
      match c.call (createRoadmap name (Text.trim s.roadmapDescription)) with
      | (.ok r, c) =>
        let roadmaps := s.roadmaps.restart
        ({ s with roadmapName := "", roadmapDescription := "", roadmaps,
                  notice := some (.success ("Created roadmap " ++ r.name)) },
         c, [.start (.home (.loadRoadmaps roadmaps.version))])
      | (.error e, c) => ({ s with notice := some (.error e.message) }, c, [])
  | .createSubject =>
    let s := { s with notice := none }
    let name := Text.trim s.subjectName
    match Form.required "Subject name" name with
    | .error e => ({ s with notice := some (.error e.message) }, c, [])
    | .ok () =>
      match c.call (createSubject name (Text.trim s.subjectDescription)) with
      | (.ok r, c) =>
        let subjects := s.subjects.restart
        ({ s with subjectName := "", subjectDescription := "", subjects,
                  notice := some (.success ("Created subject " ++ r.name)) },
         c, [.start (.home (.loadSubjects subjects.version))])
      | (.error e, c) => ({ s with notice := some (.error e.message) }, c, [])
  | .search g text =>
    match searchStart g text s with
    | .stale => (s, c, [])
    | .clear => ({ s with found := none }, c, [])
    | .ask query =>
      let (r, c) := c.fetch (searchSubjects query)
      ((searchAnswered g r s).getD s, c, [])

/-- The route of a subject's page. -/
def subjectRoute (x : Subject) : Route := .subject (SubjectParams.toQuery { subjectId := x.id, name := x.name })

/-- The route of a roadmap's page. -/
def roadmapRoute (x : Roadmap) : Route := .roadmap (RoadmapParams.toQuery { roadmapId := x.id, name := x.name })

/-- A list entry: a link, and the description when there is one. -/
def entry (dest : Route) (name description : String) : Node Action :=
  .el "li" [] ([routeLink dest [.text name]] ++ (if description.isEmpty then [] else [muted description]))

/-- The search results. -/
def searchResults : Option (Except String (List Subject)) → List (Node Action)
  | none => []
  | some (.error e) => alert (some (Notice.error e))
  | some (.ok []) => [muted "No subjects match."]
  | some (.ok xs) =>
    [.el "ul" [("class", "list")] (xs.map fun x => .el "li" [] [routeLink (subjectRoute x) [.text x.name]])]

/-- A form that creates something with a name and a description. -/
def createForm (title : String) (isOpen : Bool) (toggle : Action) (onSubmit : Action)
    (name description : String) (setName setDescription : Action) (label : String) : Node Action :=
  panel title isOpen toggle
    [form "form" onSubmit
      [textInput "text" "Name" name setName,
       textArea [("placeholder", "Description")] description setDescription,
       submitButton label]]

/-- The page. -/
def render (s : State) : List (Node Action) :=
  [.el "h1" [] [.text "Home"]] ++ alert s.notice ++
  [.el "section" [("class", "search")]
     (textInput "search" "Search subjects..." s.searchText (.home .search) :: searchResults s.found),
   .el "div" [("class", "columns")]
     [.el "section" []
        ([.el "h2" [] [.text "Roadmaps"]] ++
          loadedList s.roadmaps "Loading roadmaps..." "No roadmaps yet."
            (fun xs => [.el "ul" [("class", "list")] (xs.map fun x => entry (roadmapRoute x) x.name x.description)]) ++
          [createForm "New roadmap" s.roadmapFormOpen (.home .toggleRoadmapForm) (.home .createRoadmap)
             s.roadmapName s.roadmapDescription (.home .setRoadmapName) (.home .setRoadmapDescription)
             "Create roadmap"]),
      .el "section" []
        ([.el "h2" [] [.text "Subjects"]] ++
          loadedList s.subjects "Loading subjects..." "No subjects yet."
            (fun xs => [.el "ul" [("class", "list")] (xs.map fun x => entry (subjectRoute x) x.name x.description)]) ++
          [createForm "New subject" s.subjectFormOpen (.home .toggleSubjectForm) (.home .createSubject)
             s.subjectName s.subjectDescription (.home .setSubjectName) (.home .setSubjectDescription)
             "Create subject"])]]

end HomePage

end StudyPlanner.App
