import StudyPlanner.App.Action
import StudyPlanner.Form.Check
import StudyPlanner.Service.Calls
/-!
# The section page

A section's page lists its cards in order — each a link to the card's page, its state, and
buttons that move it up or down (the first cannot move up, the last not down) — with a form
(in a panel, closed at first) that creates a card.

A card needs a headline, which is trimmed. Its blocks are a text block with the text as typed,
when that is not blank, then a code block with the code as typed and the trimmed language,
when the code is not blank. On success every field is cleared and the cards load again.
Going to the same page with other parameters loads the cards again.
-/

namespace StudyPlanner.App

open Model Web View Service

namespace SectionPage

/-- The section page. -/
structure State where
  params : SectionParams
  notice : Option Notice := none
  cards : Loadable (List Card) := {}
  headline : String := ""
  text : String := ""
  code : String := ""
  language : String := ""
  formOpen : Bool := false
  deriving Repr

/-- Loads the cards again. -/
def reload (s : State) : State × List Effect :=
  let cards := s.cards.restart
  ({ s with cards }, [.start (.section (.loadCards cards.version))])

/-- The page as it first shows, loading the cards. -/
def start (p : SectionParams) : State × List Effect := reload { params := p }

/-- The page given other parameters: the cards load again. -/
def update (p : SectionParams) (s : State) : State × List Effect :=
  if p = s.params then (s, []) else reload { s with params := p }

/-- What an action does to the page. -/
def handle (a : SectionAction) (value : String) (s : State) : State × List Effect :=
  match a with
  | .setHeadline => ({ s with headline := value }, [])
  | .setText => ({ s with text := value }, [])
  | .setCode => ({ s with code := value }, [])
  | .setLanguage => ({ s with language := value }, [])
  | .create => (s, [.start (.section .create)])
  | .toggleForm => ({ s with formOpen := !s.formOpen }, [])
  | .moveCard id position => (s, [.start (.section (.moveCard id position))])

/-- The blocks of the card the form describes. -/
def blocks (s : State) : List Block :=
  (if Text.isBlankText s.text then [] else [{ kind := .text, content := s.text }]) ++
  (if Text.isBlankText s.code then [] else
    [{ kind := .code, content := s.code, metadata := Text.trim s.language }])

/-- Runs one of the page's calls. -/
def run (j : SectionJob) (s : State) (c : Connection) : State × Connection × List Effect :=
  match j with
  | .loadCards v =>
    if !s.cards.isLatest v then (s, c, [])
    else
      let (r, c) := c.fetch (getSectionCards s.params.sectionId)
      ({ s with cards := s.cards.finish v r }, c, [])
  | .create =>
    let s := { s with notice := none }
    let headline := Text.trim s.headline
    match Form.required "Headline" headline with
    | .error e => ({ s with notice := some (.error e.message) }, c, [])
    | .ok () =>
      match c.call (createCard s.params.sectionId headline (blocks s)) with
      | (.ok card, c) =>
        let (s, es) := reload
          { s with headline := "", text := "", code := "", language := "",
                   notice := some (.success ("Created card " ++ card.headline)) }
        (s, c, es)
      | (.error e, c) => ({ s with notice := some (.error e.message) }, c, [])
  | .moveCard id position =>
    let s := { s with notice := none }
    match c.call (moveCard id s.params.sectionId position) with
    | (.ok (), c) =>
      let (s, es) := reload s
      (s, c, es)
    | (.error e, c) => ({ s with notice := some (.error e.message) }, c, [])

/-- The pages above the section: its subject and its resource. -/
def links (p : SectionParams) : List (String × Route) :=
  (match p.subject with
   | some x => [(x.name, Route.subject (SubjectParams.toQuery { subjectId := x.id, name := x.name }))]
   | none => []) ++
  (match p.resource with
   | some r => [(r.name, Route.resource (ResourceParams.toQuery
       { resourceId := r.id, name := r.name, subject := p.subject }))]
   | none => [])

/-- A small button of a card's row. -/
def moveButton (label : String) (disabled : Bool) (onClick : Action) : Node Action :=
  .elOn "button" ([("class", "btn btn-small btn-outline"), ("type", "button")] ++ disabledAttr disabled)
    [("click", onClick)] [.text label]

/-- A card in the list, the `index`-th of cards up to `last`. -/
def cardEntry (p : SectionParams) (last index : Nat) (card : Card) : Node Action :=
  let dest : Route := .card (CardParams.toQuery { CardParams.ofCard card with subject := p.subject })
  .el "li" []
    [routeLink dest [.text card.headline],
     cardStateBadge card.state,
     .el "span" [("class", "row-actions")]
       [moveButton "↑" (index = 0) (.section (.moveCard card.id (card.position - 1))),
        moveButton "↓" (index = last) (.section (.moveCard card.id (card.position + 1)))]]

/-- The page. -/
def render (s : State) : List (Node Action) :=
  let title := "Section " ++ toString s.params.position.toInt
  [trail (links s.params) title, .el "h1" [] [.text title]] ++
  alert s.notice ++
  loadedList s.cards "Loading cards..." "No cards in this section yet."
    (fun cs => [.el "ol" [("class", "list")]
      ((List.range cs.length).zip cs |>.map fun p => cardEntry s.params (cs.length - 1) p.1 p.2)]) ++
  [panel "New card" s.formOpen (.section .toggleForm)
    [form "form" (.section .create)
      [textInput "text" "Headline" s.headline (.section .setHeadline),
       textArea [("placeholder", "Text (markdown)"), ("rows", "6")] s.text (.section .setText),
       textArea [("class", "code-input"), ("placeholder", "Code (optional)"), ("rows", "4")] s.code
         (.section .setCode),
       textInput "text" "Code language, e.g. rust" s.language (.section .setLanguage),
       submitButton "Create card"]]]

end SectionPage

end StudyPlanner.App
