import StudyPlanner.App.Action
import StudyPlanner.Service.Calls
/-!
# The topic page

A topic's page shows its name (or `Topic <position>` without one), its level, and the cards
filed under it, each a link to the card's page with the card's state. Its breadcrumbs lead to
the subject. Going to the same page with other parameters loads the cards again.
-/

namespace StudyPlanner.App

open Model Web View Service

namespace TopicPage

/-- The topic page. -/
structure State where
  params : TopicParams
  cards : Loadable (List Card) := {}
  deriving Repr

/-- Loads the cards again. -/
def reload (s : State) : State × List Effect :=
  let cards := s.cards.restart
  ({ s with cards }, [.start (.topicCards cards.version)])

/-- The page as it first shows, loading the cards. -/
def start (p : TopicParams) : State × List Effect := reload { params := p }

/-- The page given other parameters: the cards load again. -/
def update (p : TopicParams) (s : State) : State × List Effect :=
  if p = s.params then (s, []) else reload { s with params := p }

/-- Loads the cards filed under the topic. -/
def run (v : Nat) (s : State) (c : Connection) : State × Connection × List Effect :=
  if !s.cards.isLatest v then (s, c, [])
  else
    let (r, c) := c.fetch (getTopicCards s.params.topic)
    ({ s with cards := s.cards.finish v r }, c, [])

/-- The page. -/
def render (s : State) : List (Node Action) :=
  let p := s.params
  let subject := p.subject
  let subjectLabel := if subject.name.isEmpty then "Subject" else subject.name
  let title := if p.name.isEmpty then "Topic " ++ toString p.topic.position.toInt else p.name
  [trail [(subjectLabel, .subject (SubjectParams.toQuery { subjectId := subject.id, name := subject.name }))] title,
   .el "h1" [] [.text title],
   muted (Choice.label p.topic.level ++ " level")] ++
  loadedList s.cards "Loading cards..." "No cards filed under this topic yet."
    (fun cs => [.el "ul" [("class", "list")] (cs.map fun card =>
      .el "li" []
        [routeLink (.card (CardParams.toQuery { CardParams.ofCard card with subject := some subject }))
           [.text card.headline],
         cardStateBadge card.state])])

end TopicPage

end StudyPlanner.App
