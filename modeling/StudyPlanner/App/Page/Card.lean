import StudyPlanner.App.Action
import StudyPlanner.Service.Calls
/-!
# The card page

A card's page shows its headline and state (those its link carried until the card loads) and
its blocks. When the page knows the card's subject it also has a form that files the card
under one of the subject's topics: a level tab, then a choice among that level's topics.

* Choosing a level clears the chosen topic and loads the level's topics, even when it is the
  level shown.
* Filing needs a chosen topic (`Choose a topic` otherwise) and says whether it worked.
* The form belongs to the subject the page had when the form appeared: its topics stay that
  subject's while the page's parameters change, and it starts afresh when it disappears and
  comes back. Each showing of the form has its own number (`panel`).
* Going to the same page with other parameters loads the card again.
-/

namespace StudyPlanner.App

open Model Web View Service

namespace CardPage

/-- The filing form. -/
structure Filing where
  /-- Which showing of the form this is. -/
  panel : Nat
  /-- The subject whose topics the form offers. -/
  subjectId : Int64
  notice : Option Notice := none
  level : TopicLevel := .surface
  position : String := ""
  topics : Loadable (List Topic) := {}
  deriving Repr

/-- The card page. -/
structure State where
  params : CardParams
  card : Loadable Card := {}
  filing : Option Filing := none
  /-- How many times the filing form has appeared. -/
  panels : Nat := 0
  deriving Repr

/-- Loads the filing form's topics again. -/
def reloadTopics (f : Filing) : Filing × List Effect :=
  let topics := f.topics.restart
  ({ f with topics }, [.start (.card (.loadTopics f.panel topics.version))])

/-- Shows the filing form if the page knows the card's subject and does not show it yet, and
hides it if the page no longer knows the subject. -/
def placeFiling (s : State) : State × List Effect :=
  match s.params.subject, s.filing with
  | none, _ => ({ s with filing := none }, [])
  | some _, some _ => (s, [])
  | some subject, none =>
    let (f, es) := reloadTopics { panel := s.panels + 1, subjectId := subject.id }
    ({ s with filing := some f, panels := s.panels + 1 }, es)

/-- Loads the card again. -/
def reloadCard (s : State) : State × List Effect :=
  let card := s.card.restart
  ({ s with card }, [.start (.card (.loadCard card.version))])

/-- The page as it first shows, loading the card and, with a subject, its topics. -/
def start (p : CardParams) : State × List Effect :=
  let (s, e1) := reloadCard { params := p }
  let (s, e2) := placeFiling s
  (s, e1 ++ e2)

/-- The page given other parameters: the card loads again. -/
def update (p : CardParams) (s : State) : State × List Effect :=
  if p = s.params then (s, [])
  else
    let (s, e1) := reloadCard { s with params := p }
    let (s, e2) := placeFiling s
    (s, e1 ++ e2)

/-- Changes the filing form, if it is shown. -/
def withFiling (s : State) (f : Filing → Filing × List Effect) : State × List Effect :=
  match s.filing with
  | none => (s, [])
  | some x =>
    let (x, es) := f x
    ({ s with filing := some x }, es)

/-- What an action does to the page. -/
def handle (a : CardAction) (value : String) (s : State) : State × List Effect :=
  match a with
  | .selectLevel l => withFiling s fun f => reloadTopics { f with position := "", level := l }
  | .setPosition => withFiling s fun f => ({ f with position := value }, [])
  | .file =>
    match s.filing with
    | none => (s, [])
    | some f => (s, [.start (.card (.file f.panel))])

/-- Files the card under the chosen topic of the form's subject. -/
def file (cardId subjectId : Int64) (f : Filing) (c : Connection) : Filing × Connection :=
  let f := { f with notice := none }
  match Text.Decimal.readInt32? f.position with
  | none => ({ f with notice := some (.error "Choose a topic") }, c)
  | some position =>
    match c.call (addCardToTopic cardId { subjectId, level := f.level, position }) with
    | (.ok (), c) => ({ f with notice := some (.success "Card filed under the topic") }, c)
    | (.error e, c) => ({ f with notice := some (.error e.message) }, c)

/-- Runs one of the page's calls. -/
def run (j : CardJob) (s : State) (c : Connection) : State × Connection × List Effect :=
  match j with
  | .loadCard v =>
    if !s.card.isLatest v then (s, c, [])
    else
      let (r, c) := c.fetch (getCard s.params.cardId)
      ({ s with card := s.card.finish v r }, c, [])
  | .loadTopics panel v =>
    match s.filing with
    | some f =>
      if f.panel != panel || !f.topics.isLatest v then (s, c, [])
      else
        let (r, c) := c.fetch (getTopics f.subjectId f.level)
        ({ s with filing := some { f with topics := f.topics.finish v r } }, c, [])
    | none => (s, c, [])
  | .file panel =>
    match s.filing, s.params.subject with
    | some f, some subject =>
      if f.panel != panel then (s, c, [])
      else
        let (f, c) := file s.params.cardId subject.id f c
        ({ s with filing := some f }, c, [])
    | _, _ => (s, c, [])

/-- The filing form. -/
def filingForm (f : Filing) : Node Action :=
  let choices : List (String × String) := match f.topics.value? with
    | some ts => ts.map fun t => (toString t.position.toInt, t.name)
    | none => []
  .el "section" [("class", "panel-body")]
    ([.el "h2" [] [.text "File under a topic"],
      levelTabs f.level fun l => .card (.selectLevel l)] ++
     alert f.notice ++
     [form "form form-inline" (.card .file)
       [choiceSelect f.position (.card .setPosition) (("", "Choose a topic...") :: choices),
        submitButton "File card"]])

/-- The page. -/
def render (s : State) : List (Node Action) :=
  let p := s.params
  let links : List (String × Route) := match p.subject with
    | some x => [(x.name, .subject (SubjectParams.toQuery { subjectId := x.id, name := x.name }))]
    | none => []
  let (headline, state) := match s.card.value? with
    | some card => (card.headline, card.state)
    | none => (p.headline, p.state)
  let body : List (Node Action) := match s.card.outcome with
    | some (.ok card) => [cardBlocks card.blocks]
    | some (.error e) => alert (some (Notice.error e))
    | none => [muted "Loading card..."]
  [trail links headline,
   .el "h1" [] [.text (headline ++ " "), cardStateBadge state],
   .el "article" [("class", "card")] body] ++
  (match s.filing with
   | some f => [filingForm f]
   | none => [])

end CardPage

end StudyPlanner.App
