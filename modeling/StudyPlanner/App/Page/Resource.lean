import StudyPlanner.App.Action
import StudyPlanner.Service.Calls
/-!
# The resource page

A resource's page lists its sections: how many are reviewed, and for each a link to its page,
its number of cards, and either a `reviewed` badge or a button that marks it reviewed (after
which the sections load again). Its breadcrumbs lead to the roadmap and the subject it was
reached from. Going to the same page with other parameters loads the sections again.
-/

namespace StudyPlanner.App

open Model Web View Service

namespace ResourcePage

/-- The resource page. -/
structure State where
  params : ResourceParams
  notice : Option Notice := none
  sections : Loadable (List Section) := {}
  deriving Repr

/-- Loads the sections again. -/
def reload (s : State) : State × List Effect :=
  let sections := s.sections.restart
  ({ s with sections }, [.start (.resource (.loadSections sections.version))])

/-- The page as it first shows, loading the sections. -/
def start (p : ResourceParams) : State × List Effect := reload { params := p }

/-- The page given other parameters: the sections load again. -/
def update (p : ResourceParams) (s : State) : State × List Effect :=
  if p = s.params then (s, []) else reload { s with params := p }

/-- What an action does to the page. -/
def handle (a : ResourceAction) (s : State) : State × List Effect :=
  match a with
  | .markReviewed id => (s, [.start (.resource (.markReviewed id))])

/-- Runs one of the page's calls. -/
def run (j : ResourceJob) (s : State) (c : Connection) : State × Connection × List Effect :=
  match j with
  | .loadSections v =>
    if !s.sections.isLatest v then (s, c, [])
    else
      let (r, c) := c.fetch (getSections s.params.resourceId)
      ({ s with sections := s.sections.finish v r }, c, [])
  | .markReviewed id =>
    let s := { s with notice := none }
    match c.call (markSectionReviewed id) with
    | (.ok (), c) =>
      let (s, es) := reload s
      (s, c, es)
    | (.error e, c) => ({ s with notice := some (.error e.message) }, c, [])

/-- The pages above the resource: its roadmap and its subject. -/
def links (p : ResourceParams) : List (String × Route) :=
  (match p.roadmap with
   | some r => [(r.name, Route.roadmap (RoadmapParams.toQuery { roadmapId := r.id, name := r.name }))]
   | none => []) ++
  (match p.subject with
   | some x => [(x.name, Route.subject (SubjectParams.toQuery
       { subjectId := x.id, name := x.name, roadmap := p.roadmap }))]
   | none => [])

/-- A section in the list. -/
def sectionEntry (p : ResourceParams) (x : Section) : Node Action :=
  let dest : Route := .section (SectionParams.toQuery
    (SectionParams.within { sectionId := x.id, position := x.position } p))
  .el "li" []
    [routeLink dest [.text ("Section " ++ toString x.position.toInt)],
     .el "span" [("class", "muted")] [.text (" · " ++ toString x.cardCount.toInt ++ " cards")],
     if x.reviewed then .el "span" [("class", "badge badge-reviewed")] [.text "reviewed"]
     else .elOn "button" [("class", "btn btn-small btn-outline"), ("type", "button")]
       [("click", .resource (.markReviewed x.id))] [.text "Mark reviewed"]]

/-- The page. -/
def render (s : State) : List (Node Action) :=
  let title := if s.params.name.isEmpty then "Resource" else s.params.name
  [trail (links s.params) title, .el "h1" [] [.text title]] ++
  alert s.notice ++
  loadedList s.sections "Loading sections..." "This resource has no sections."
    (fun xs =>
      [muted (toString (xs.filter (·.reviewed)).length ++ " of " ++ toString xs.length ++
         " sections reviewed"),
       .el "ul" [("class", "list")] (xs.map (sectionEntry s.params))])

end ResourcePage

end StudyPlanner.App
