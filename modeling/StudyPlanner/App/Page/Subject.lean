import StudyPlanner.App.Action
import StudyPlanner.Form.Check
import StudyPlanner.Service.Calls
import StudyPlanner.Calendar.Text
import StudyPlanner.Render.Links
/-!
# The subject page

A subject's page has two columns: its resources and its topics.

Resources:

* Each resource links to its page and shows its kind, a link to the resource itself when that
  is a web link, and its production and expiration days when it has either.
* A form (in a panel, closed at first) creates a resource: it needs a name, a positive number
  of sections and days that are blank or days. On success the form is cleared (its kind and
  pattern stay, the sections go back to `1`) and the resources load again.
* A search (in another panel) finds resources by text; its hits can be attached to the subject
  one by one, which clears the search and loads the resources again.

Topics, one level at a time (the first level at first):

* Choosing a level closes any rename and loads that level's topics, even when it is the level
  shown.
* Each topic links to its page and can be moved up or down (the first cannot move up, the last
  not down), renamed in place, or removed; each change loads the topics again.
* A form adds a topic to the level shown.

Going to the same page with other parameters loads both columns again.
-/

namespace StudyPlanner.App

open Model Web View Service

namespace SubjectPage

/-- The subject page. -/
structure State where
  params : SubjectParams
  resourceNotice : Option Notice := none
  resources : Loadable (List Resource) := {}
  name : String := ""
  link : String := ""
  kind : ResourceType := .book
  pattern : ResourcePattern := .chapter
  production : String := ""
  expiration : String := ""
  sections : String := "1"
  createOpen : Bool := false
  searchText : String := ""
  found : List SearchResult := []
  searchOpen : Bool := false
  topicNotice : Option Notice := none
  level : TopicLevel := .surface
  topics : Loadable (List Topic) := {}
  topicName : String := ""
  editing : Option TopicRef := none
  draft : String := ""
  deriving Repr

/-- Loads the resources again. -/
def reloadResources (s : State) : State × List Effect :=
  let resources := s.resources.restart
  ({ s with resources }, [.start (.subject (.loadResources resources.version))])

/-- Loads the topics again. -/
def reloadTopics (s : State) : State × List Effect :=
  let topics := s.topics.restart
  ({ s with topics }, [.start (.subject (.loadTopics topics.version))])

/-- The page as it first shows, loading its resources and topics. -/
def start (p : SubjectParams) : State × List Effect :=
  let (s, e1) := reloadResources { params := p }
  let (s, e2) := reloadTopics s
  (s, e1 ++ e2)

/-- The page given other parameters: both columns load again. -/
def update (p : SubjectParams) (s : State) : State × List Effect :=
  if p = s.params then (s, [])
  else
    let (s, e1) := reloadResources { s with params := p }
    let (s, e2) := reloadTopics s
    (s, e1 ++ e2)

/-- What an action does to the page. -/
def handle (a : SubjectAction) (value : String) (s : State) : State × List Effect :=
  match a with
  | .setName => ({ s with name := value }, [])
  | .setLink => ({ s with link := value }, [])
  | .setKind => ({ s with kind := kindOfValue value }, [])
  | .setPattern => ({ s with pattern := kindOfValue value }, [])
  | .setSections => ({ s with sections := value }, [])
  | .setProduction => ({ s with production := value }, [])
  | .setExpiration => ({ s with expiration := value }, [])
  | .create => (s, [.start (.subject .create)])
  | .toggleCreateForm => ({ s with createOpen := !s.createOpen }, [])
  | .setSearchText => ({ s with searchText := value }, [])
  | .search => (s, [.start (.subject .search)])
  | .toggleSearchForm => ({ s with searchOpen := !s.searchOpen }, [])
  | .attach hit => (s, [.start (.subject (.attach hit))])
  | .selectLevel l => reloadTopics { s with editing := none, level := l }
  | .setTopicName => ({ s with topicName := value }, [])
  | .createTopic => (s, [.start (.subject .createTopic)])
  | .setDraft => ({ s with draft := value }, [])
  | .rename =>
    match s.editing with
    | none => (s, [])
    | some t => (s, [.start (.subject (.rename t))])
  | .cancelRename => ({ s with editing := none }, [])
  | .startRename t name => ({ s with draft := name, editing := some t }, [])
  | .remove t => (s, [.start (.subject (.remove t))])
  | .moveTopic t target => (s, [.start (.subject (.moveTopic t target))])

/-- What the resource form describes, once checked. -/
def newResource (s : State) : Form.Checked NewResource := do
  let name := Text.trim s.name
  Form.required "Resource name" name
  let count ← Form.positiveCount "Sections" s.sections
  let production ← Form.dateInput s.production
  let expiration ← Form.dateInput s.expiration
  pure { subjectId := s.params.subjectId, name, kind := s.kind, link := Text.trim s.link,
         pattern := s.pattern, production, expiration, sections := count }

/-- Runs one of the page's calls. -/
def run (j : SubjectJob) (s : State) (c : Connection) : State × Connection × List Effect :=
  match j with
  | .loadResources v =>
    if !s.resources.isLatest v then (s, c, [])
    else
      let (r, c) := c.fetch (getResources s.params.subjectId)
      ({ s with resources := s.resources.finish v r }, c, [])
  | .create =>
    let s := { s with resourceNotice := none }
    match newResource s with
    | .error e => ({ s with resourceNotice := some (.error e.message) }, c, [])
    | .ok r =>
      match c.call (createResource r) with
      | (.ok created, c) =>
        let (s, es) := reloadResources
          { s with name := "", link := "", production := "", expiration := "", sections := "1",
                   resourceNotice := some (.success ("Created resource " ++ created.name)) }
        (s, c, es)
      | (.error e, c) => ({ s with resourceNotice := some (.error e.message) }, c, [])
  | .search =>
    let s := { s with resourceNotice := none }
    let text := Text.trim s.searchText
    match Form.required "Search text" text with
    | .error e => ({ s with resourceNotice := some (.error e.message) }, c, [])
    | .ok () =>
      match c.call (search text) with
      | (.ok results, c) =>
        let hits := results.filter fun r => r.kind = .resource
        let s := if hits.isEmpty then { s with resourceNotice := some (.info "No resources match.") } else s
        ({ s with found := hits }, c, [])
      | (.error e, c) => ({ s with resourceNotice := some (.error e.message) }, c, [])
  | .attach hit =>
    let s := { s with resourceNotice := none }
    match c.call (addResource s.params.subjectId hit.id) with
    | (.ok (), c) =>
      let (s, es) := reloadResources
        { s with found := [], searchText := "", resourceNotice := some (.success ("Added " ++ hit.name)) }
      (s, c, es)
    | (.error e, c) => ({ s with resourceNotice := some (.error e.message) }, c, [])
  | .loadTopics v =>
    if !s.topics.isLatest v then (s, c, [])
    else
      let (r, c) := c.fetch (getTopics s.params.subjectId s.level)
      ({ s with topics := s.topics.finish v r }, c, [])
  | .createTopic =>
    let s := { s with topicNotice := none }
    let name := Text.trim s.topicName
    match Form.required "Topic name" name with
    | .error e => ({ s with topicNotice := some (.error e.message) }, c, [])
    | .ok () =>
      match c.call (createTopic s.params.subjectId s.level name) with
      | (.ok _, c) =>
        let (s, es) := reloadTopics { s with topicName := "" }
        (s, c, es)
      | (.error e, c) => ({ s with topicNotice := some (.error e.message) }, c, [])
  | .rename t =>
    let s := { s with topicNotice := none }
    let name := Text.trim s.draft
    match Form.required "Topic name" name with
    | .error e => ({ s with topicNotice := some (.error e.message) }, c, [])
    | .ok () =>
      match c.call (editTopic t name) with
      | (.ok _, c) =>
        let (s, es) := reloadTopics { s with editing := none }
        (s, c, es)
      | (.error e, c) => ({ s with topicNotice := some (.error e.message) }, c, [])
  | .remove t =>
    let s := { s with topicNotice := none }
    match c.call (removeTopic t) with
    | (.ok (), c) =>
      let (s, es) := reloadTopics s
      (s, c, es)
    | (.error e, c) => ({ s with topicNotice := some (.error e.message) }, c, [])
  | .moveTopic t target =>
    let s := { s with topicNotice := none }
    match c.call (moveTopic t target) with
    | (.ok (), c) =>
      let (s, es) := reloadTopics s
      (s, c, es)
    | (.error e, c) => ({ s with topicNotice := some (.error e.message) }, c, [])

/-! ## Resources -/

/-- A resource in the list. -/
def resourceEntry (s : State) (r : Resource) : Node Action :=
  let dest : Route := .resource (ResourceParams.toQuery
    (ResourceParams.within { resourceId := r.id, name := r.name } s.params))
  .el "li" []
    ([routeLink dest [.text r.name], .el "span" [("class", "badge")] [.text (Choice.label r.kind)]] ++
      (if Render.isWebLink r.link then
        [.text " ", .el "a" [("href", r.link), ("target", "_blank"), ("rel", "noopener")] [.text "link"]]
       else []) ++
      (if r.production.isSome || r.expiration.isSome then
        [muted (Calendar.showDay r.production ++ " → " ++ Calendar.showDay r.expiration)]
       else []))

/-- A labelled date input. -/
def dateField (label value : String) (onInput : Action) : Node Action :=
  .el "label" [] [.text label,
    .elOn "input" [("type", "date"), ("value", value)] [("input", onInput)] []]

/-- The resources column. -/
def resourcesColumn (s : State) : List (Node Action) :=
  alert s.resourceNotice ++
  loadedList s.resources "Loading resources..." "No resources yet."
    (fun rs => [.el "ul" [("class", "list")] (rs.map (resourceEntry s))]) ++
  [panel "New resource" s.createOpen (.subject .toggleCreateForm)
    [form "form" (.subject .create)
      [textInput "text" "Name" s.name (.subject .setName),
       textInput "url" "Link" s.link (.subject .setLink),
       .el "label" [] [.text "Type ",
         choiceSelect (kindValue s.kind) (.subject .setKind) (kindOptions ResourceType)],
       .el "label" [] [.text "Split into ",
         choiceSelect (kindValue s.pattern) (.subject .setPattern) (kindOptions ResourcePattern)],
       .elOn "input" [("type", "number"), ("min", "1"), ("placeholder", "Sections"), ("value", s.sections)]
         [("input", .subject .setSections)] [],
       dateField "Produced " s.production (.subject .setProduction),
       dateField "Expires " s.expiration (.subject .setExpiration),
       submitButton "Create resource"]],
   panel "Add existing resource" s.searchOpen (.subject .toggleSearchForm)
    [form "form form-inline" (.subject .search)
      [textInput "search" "Search resources..." s.searchText (.subject .setSearchText),
       submitButton "Search"],
     .el "ul" [("class", "list")] (s.found.map fun hit =>
       .el "li" [] [.text (hit.name ++ " "),
         .elOn "button" [("class", "btn btn-small btn-outline"), ("type", "button")]
           [("click", .subject (.attach hit))] [.text "Add"]])]]

/-! ## Topics -/

/-- A small button of a topic's row. -/
def rowButton (label : String) (disabled : Bool) (onClick : Action) : Node Action :=
  .elOn "button" ([("class", "btn btn-small btn-outline"), ("type", "button")] ++ disabledAttr disabled)
    [("click", onClick)] [.text label]

/-- A topic in the list, the `index`-th of topics up to `last`. -/
def topicEntry (s : State) (last : Nat) (index : Nat) (t : Topic) : Node Action :=
  let ref := t.reference
  if s.editing = some ref then
    .el "li" []
      [form "form form-inline" (.subject .rename)
        [.elOn "input" [("type", "text"), ("value", s.draft)] [("input", .subject .setDraft)] [],
         .el "button" [("class", "btn btn-small btn-primary"), ("type", "submit")] [.text "Save"],
         rowButton "Cancel" false (.subject .cancelRename)]]
  else
    let dest : Route := .topic (TopicParams.toQuery
      { topic := ref, name := t.name, subjectName := s.params.name })
    .el "li" []
      [routeLink dest [.text t.name],
       .el "span" [("class", "row-actions")]
         [rowButton "↑" (index = 0) (.subject (.moveTopic ref (t.position - 1))),
          rowButton "↓" (index = last) (.subject (.moveTopic ref (t.position + 1))),
          rowButton "Rename" false (.subject (.startRename ref t.name)),
          rowButton "Remove" false (.subject (.remove ref))]]

/-- The topics column. -/
def topicsColumn (s : State) : List (Node Action) :=
  let levelName := Choice.label s.level
  [levelTabs s.level fun l => .subject (.selectLevel l)] ++
  alert s.topicNotice ++
  loadedList s.topics "Loading topics..." ("No " ++ levelName ++ " topics yet.")
    (fun ts => [.el "ol" [("class", "list")]
      ((List.range ts.length).zip ts |>.map fun p => topicEntry s (ts.length - 1) p.1 p.2)]) ++
  [form "form form-inline" (.subject .createTopic)
    [textInput "text" ("New " ++ levelName ++ " topic") s.topicName (.subject .setTopicName),
     submitButton "Add topic"]]

/-- The page. -/
def render (s : State) : List (Node Action) :=
  let p := s.params
  let links : List (String × Route) := match p.roadmap with
    | some r => [(r.name, .roadmap (RoadmapParams.toQuery { roadmapId := r.id, name := r.name }))]
    | none => []
  let title := if p.name.isEmpty then "Subject" else p.name
  [trail links title, .el "h1" [] [.text title],
   .el "div" [("class", "columns")]
     [.el "section" [] (.el "h2" [] [.text "Resources"] :: resourcesColumn s),
      .el "section" [] (.el "h2" [] [.text "Topics"] :: topicsColumn s)]]

end SubjectPage

end StudyPlanner.App
