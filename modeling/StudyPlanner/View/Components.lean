import StudyPlanner.View.Node
import StudyPlanner.Render.Block
/-!
# Shared page components

The pieces every page is built from, as element trees. A component that reacts to the user
takes the actions its listeners carry.

* `alert` shows a notice in a page's alert region, and nothing without one.
* `loadingButton` is a form's submit button: disabled with another label while the form's
  call is running.
* `panel` is a titled section whose body shows when the panel is open; its toggle shows `−`
  when open and `+` when closed.
* `breadcrumbs` is `Home / ancestors / current`; an ancestor without a name shows `…`.
* `levelTabs` has one tab per topic level, the selected one marked active.
* `navbar` has the brand link, the account link and a sign-out button.
* `cardBlocks` shows a card's blocks as HTML, or says that the card has none.
-/

namespace StudyPlanner.View

open Model

/-- How a notice looks. -/
inductive NoticeLevel where
  | info
  | success
  | error
  deriving DecidableEq, Repr, Inhabited

/-- The class of a notice's alert. -/
def NoticeLevel.cssClass : NoticeLevel → String
  | .info => "alert alert-info"
  | .success => "alert alert-success"
  | .error => "alert alert-error"

/-- A message shown in a page's alert region. -/
structure Notice where
  level : NoticeLevel
  text : String
  deriving DecidableEq, Repr, Inhabited

namespace Notice

/-- An informative notice. -/
def info (text : String) : Notice := { level := .info, text }

/-- A notice that something worked. -/
def success (text : String) : Notice := { level := .success, text }

/-- A notice that something failed. -/
def error (text : String) : Notice := { level := .error, text }

end Notice

variable {α : Type}

/-- A page's alert region: the notice, or nothing. -/
def alert : Option Notice → List (Node α)
  | none => []
  | some n => [.el "div" [("class", n.level.cssClass), ("role", "alert")] [.text n.text]]

/-- The `disabled` attribute of a button: present only while it is disabled. -/
def disabledAttr (disabled : Bool) : List (String × String) :=
  if disabled then [("disabled", "true")] else []

/-- The label a submit button shows while its form's call runs, unless the form names one. -/
def workingLabel : String := "Working..."

/-- The class of a submit button, unless the form names one. -/
def primaryButton : String := "btn btn-primary"

/-- A submit button that is disabled and shows `loadingLabel` while `loading`. -/
def loadingButton (loading : Bool) (label loadingLabel cls : String) : Node α :=
  .el "button" ([("class", cls), ("type", "submit")] ++ disabledAttr loading)
    [.text (if loading then loadingLabel else label)]

/-- The sign-out button. -/
def signOutButton (loading : Bool) (onClick : α) : Node α :=
  .elOn "button" ([("class", "btn btn-outline")] ++ disabledAttr loading) [("click", onClick)]
    [.text (if loading then "Signing out..." else "Sign out")]

/-- A titled panel; its body shows while it is open. -/
def panel (title : String) (isOpen : Bool) (toggle : α) (body : List (Node α)) : Node α :=
  .el "section" [("class", "panel")]
    ([.elOn "button" [("class", "panel-toggle"), ("type", "button")] [("click", toggle)]
        [.el "span" [] [.text (if isOpen then "−" else "+")], .text (" " ++ title)]] ++
      (if isOpen then [.el "div" [("class", "panel-body")] body] else []))

/-- A link inside the app: an anchor to `href` whose clicks the app handles. -/
def link (href : String) (onClick : α) (children : List (Node α)) : Node α :=
  .elOn "a" [("href", href)] [("click", onClick)] children

/-- An anchor that does not leave the page (`#`) and runs an action when clicked. -/
def actionLink (onClick : α) (children : List (Node α)) : Node α :=
  .elOn "a" [("href", "#")] [("click", onClick)] children

/-- `Home / ancestors / current`. -/
def breadcrumbs (home : α) (links : List (String × α)) (current : String) : Node α :=
  let sep : Node α := .el "span" [("class", "breadcrumb-sep")] [.text "/"]
  .el "nav" [("class", "breadcrumbs")]
    ([actionLink home [.text "Home"]] ++
      links.flatMap (fun l => [sep, actionLink l.2 [.text (if l.1.isEmpty then "…" else l.1)]]) ++
      [sep, .el "span" [("class", "breadcrumb-current")] [.text current]])

/-- One tab per topic level, `selected` marked active. -/
def levelTabs (selected : TopicLevel) (onSelect : TopicLevel → α) : Node α :=
  .el "div" [("class", "tabs"), ("role", "tablist")]
    ((Choice.all : List TopicLevel).map fun level =>
      .elOn "button"
        [("type", "button"), ("role", "tab"), ("class", if level = selected then "tab tab-active" else "tab")]
        [("click", onSelect level)] [.text (Choice.label level)])

/-- The bar at the top of signed-in pages. -/
def navbar (home account signOut : α) (signingOut : Bool) : Node α :=
  .el "header" [("class", "navbar")]
    [.elOn "a" [("class", "navbar-brand"), ("href", "#")] [("click", home)] [.text "Studymap"],
     .el "div" [("class", "navbar-links")]
       [actionLink account [.text "Account"], signOutButton signingOut signOut]]

/-- A card's state as a badge. -/
def cardStateBadge (state : CardState) : Node α :=
  .el "span" [("class", "badge badge-" ++ Choice.label state)] [.text (Choice.label state)]

/-- A card's blocks as HTML, or a note that it has none. -/
def cardBlocks (blocks : List Block) : Node α :=
  if blocks.isEmpty then .el "p" [("class", "muted")] [.text "This card has no content yet."]
  else .el "div" [("class", "card-body")] [.raw (Render.renderBlocks blocks)]

end StudyPlanner.View
