import StudyPlanner.App.Action
import StudyPlanner.Form.Check
import StudyPlanner.Service.Calls
import StudyPlanner.Calendar.Text
/-!
# The roadmap page

A roadmap's page shows its name (the one its link carried until the roadmap loads), its
description, and its milestones, with a form (in a panel, closed at first) that adds one.

* A milestone shows its name, its due day, the subject it is about — by the name the subject
  list gives it, or `subject` — with its level, and its description.
* The form's subject choice lists the subjects; a failed load of them leaves it empty.
* Adding needs a name and a target date that is blank or a day. The subject is sent when the
  choice is a number, and the level as chosen. On success name, description and date are
  cleared (subject and level stay), and the milestones are loaded again.
* Going to the same page with other parameters loads the roadmap and its milestones again.
-/

namespace StudyPlanner.App

open Model Web View Service

namespace RoadmapPage

/-- The roadmap page. -/
structure State where
  params : RoadmapParams
  notice : Option Notice := none
  roadmap : Loadable Roadmap := {}
  milestones : Loadable (List Milestone) := {}
  subjects : Loadable (List Subject) := {}
  name : String := ""
  description : String := ""
  targetDate : String := ""
  subjectId : String := ""
  level : TopicLevel := .surface
  formOpen : Bool := false
  deriving Repr

/-- The page as it first shows, loading the roadmap, its milestones and the subjects. -/
def start (p : RoadmapParams) : State × List Effect :=
  ({ params := p, roadmap := { version := 1 }, milestones := { version := 1 },
     subjects := { version := 1 } },
   [.start (.roadmap (.loadRoadmap 1)), .start (.roadmap (.loadMilestones 1)),
    .start (.roadmap (.loadSubjects 1))])

/-- The page given other parameters: the roadmap and its milestones load again. -/
def update (p : RoadmapParams) (s : State) : State × List Effect :=
  if p = s.params then (s, [])
  else
    let roadmap := s.roadmap.restart
    let milestones := s.milestones.restart
    ({ s with params := p, roadmap, milestones },
     [.start (.roadmap (.loadRoadmap roadmap.version)),
      .start (.roadmap (.loadMilestones milestones.version))])

/-- What an action does to the page. -/
def handle (a : RoadmapAction) (value : String) (s : State) : State × List Effect :=
  match a with
  | .setName => ({ s with name := value }, [])
  | .setDescription => ({ s with description := value }, [])
  | .setTargetDate => ({ s with targetDate := value }, [])
  | .setSubject => ({ s with subjectId := value }, [])
  | .setLevel => ({ s with level := kindOfValue value }, [])
  | .create => (s, [.start (.roadmap .create)])
  | .toggleForm => ({ s with formOpen := !s.formOpen }, [])

/-- Adds the milestone the form describes. -/
def create (s : State) (c : Connection) : State × Connection × List Effect :=
  let s := { s with notice := none }
  let name := Text.trim s.name
  let checked : Form.Checked (Option Calendar.Moment) := do
    Form.required "Milestone name" name
    Form.dateInput s.targetDate
  match checked with
  | .error e => ({ s with notice := some (.error e.message) }, c, [])
  | .ok date =>
    let subject := Text.Decimal.readInt64? s.subjectId
    match c.call (createMilestone s.params.roadmapId subject s.level name (Text.trim s.description) date) with
    | (.ok m, c) =>
      let milestones := s.milestones.restart
      ({ s with name := "", description := "", targetDate := "", milestones,
                notice := some (.success ("Added milestone " ++ m.name)) },
       c, [.start (.roadmap (.loadMilestones milestones.version))])
    | (.error e, c) => ({ s with notice := some (.error e.message) }, c, [])

/-- Runs one of the page's calls. -/
def run (j : RoadmapJob) (s : State) (c : Connection) : State × Connection × List Effect :=
  match j with
  | .loadRoadmap v =>
    if !s.roadmap.isLatest v then (s, c, [])
    else
      let (r, c) := c.fetch (getRoadmap s.params.roadmapId)
      ({ s with roadmap := s.roadmap.finish v r }, c, [])
  | .loadMilestones v =>
    if !s.milestones.isLatest v then (s, c, [])
    else
      let (r, c) := c.fetch (getMilestones s.params.roadmapId)
      ({ s with milestones := s.milestones.finish v r }, c, [])
  | .loadSubjects v =>
    if !s.subjects.isLatest v then (s, c, [])
    else
      let (r, c) := c.fetch getSubjects
      ({ s with subjects := s.subjects.finish v (.ok ((match r with | .ok xs => xs | .error _ => []))) }, c, [])
  | .create => create s c

/-- A milestone in the list. -/
def milestoneEntry (s : State) (names : List (Int64 × String)) (m : Milestone) : Node Action :=
  let about : List (Node Action) := match m.subjectId with
    | none => []
    | some id =>
      let name := (names.lookup id).getD ""
      let dest : Route := .subject (SubjectParams.toQuery
        { subjectId := id, name := name, roadmap := some s.params.crumb })
      [.text " · ", routeLink dest [.text (if name.isEmpty then "subject" else name)],
       .el "span" [("class", "badge")] [.text (Choice.label m.level)]]
  .el "li" [("class", if m.completed then "milestone done" else "milestone")]
    ([.el "strong" [] [.text m.name],
      .el "span" [("class", "muted")] [.text (" due " ++ Calendar.showDay m.targetDate)]] ++ about ++
      (if m.description.isEmpty then [] else [muted m.description]))

/-- The page. -/
def render (s : State) : List (Node Action) :=
  let (title, about) := match s.roadmap.value? with
    | some r => (r.name, r.description)
    | none => (s.params.name, "")
  let names : List (Int64 × String) := (s.subjects.value?.getD []).map fun x => (x.id, x.name)
  [trail [] title, .el "h1" [] [.text title]] ++
  (if about.isEmpty then [] else [muted about]) ++
  alert s.notice ++
  [.el "h2" [] [.text "Milestones"]] ++
  loadedList s.milestones "Loading milestones..." "No milestones yet."
    (fun ms => [.el "ul" [("class", "list")] (ms.map (milestoneEntry s names))]) ++
  [panel "New milestone" s.formOpen (.roadmap .toggleForm)
    [form "form" (.roadmap .create)
      [textInput "text" "Name" s.name (.roadmap .setName),
       textArea [("placeholder", "Description")] s.description (.roadmap .setDescription),
       .el "label" [] [.text "Target date ",
         .elOn "input" [("type", "date"), ("value", s.targetDate)] [("input", .roadmap .setTargetDate)] []],
       .el "label" [] [.text "Subject ",
         choiceSelect s.subjectId (.roadmap .setSubject)
           (("", "None") :: names.map fun n => (toString n.1.toInt, n.2))],
       .el "label" [] [.text "Level ",
         choiceSelect (kindValue s.level) (.roadmap .setLevel) (kindOptions TopicLevel)],
       submitButton "Add milestone"]]]

end RoadmapPage

end StudyPlanner.App
