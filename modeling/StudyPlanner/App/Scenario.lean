import StudyPlanner.App.Runtime
import StudyPlanner.Config.Client
/-!
# Running the app through a scenario

A scenario starts the app at a route and then acts on the page step by step: a click, typing
into a field, a change of a choice, or submitting a form. After each step — unless the step
says not to — the app settles: every job runs to its end. What the app shows is taken after the
first settling and after every step.

* **Starting.** The app reads its configuration and connects to the endpoint it names for the
  local host; a bad endpoint leaves only a page saying the app is unavailable. The session is
  seeded with the token and device id given, and the first route is entered; the address bar
  shows the route as given until the app first goes somewhere.
* **Standalone.** Started on its own, the app uses the configuration bundled with it, and its
  session store cannot be seen from outside.
* **Finding the target.** A step's selector picks an element of what is shown; none means the
  step does nothing (`noTarget`). A click on or inside a disabled button does nothing either
  (`disabled`). A click bubbles up from its target; a submit goes to the nearest form that is
  the target or holds it.
* **What is shown.** A snapshot holds the address bar, the HTML, the requests the service got
  during the step, and the session's token and device id. Before it is reported, the service's
  address is replaced by a fixed host name and every generated device id by a placeholder, so
  that reports do not depend on where the service ran or on the ids drawn.
-/

namespace StudyPlanner.App

open Model Web View Service Config

/-- The kinds of step. -/
inductive StepKind where
  | click
  | input
  | change
  | submit
  deriving DecidableEq, Repr, Inhabited

/-- One step of a scenario. -/
structure Step where
  kind : StepKind
  target : Selector
  event : EventInfo := {}
  /-- Whether the app settles after the step. -/
  settle : Bool := true
  deriving Repr, Inhabited

/-- Why a step did nothing. -/
inductive StepError where
  | noTarget
  | disabled
  deriving DecidableEq, Repr

/-- How the app is started. -/
structure Scenario where
  /-- The first route, as typed. -/
  route : String
  /-- Whether the app runs on its own, with its bundled configuration. -/
  standalone : Bool := false
  /-- A configuration file's text. -/
  config : Option String := none
  token : Option String := none
  device : Option String := none
  script : Script := {}
  steps : List Step := []
  deriving Repr

/-- What the app shows at one moment. -/
structure Snapshot where
  route : String
  html : String
  requests : List Received
  token : Option String
  device : Option String
  error : Option StepError := none
  deriving Repr

/-- What a scenario gives: a first route that is no route, with the router's message, or every
snapshot. -/
inductive Outcome where
  | badRoute (message : String)
  | ran (initial : Snapshot) (steps : List Snapshot)
  deriving Repr

/-! ## Starting -/

/-- The configuration file bundled with the app. -/
def bundledConfig : String :=
  "# Endpoint of the study service. Pages served from a local host use\n" ++
  "# local_endpoint, everything else production_endpoint.\n" ++
  "local_endpoint = \"http://localhost:8080\"\n" ++
  "production_endpoint = \"https://api.studymap.app\"\n" ++
  "local_hosts = [\"localhost\", \"127.0.0.1\"]\n"

/-- The address of the scripted service. -/
def scriptedEndpoint : String := "http://127.0.0.1:5"

/-- The configuration a scenario starts with: the bundled one when standalone, the given one
(the defaults when it does not read), or else one that points at the scripted service. -/
def Scenario.clientConfig (sc : Scenario) : ClientConfig :=
  if sc.standalone then (ClientConfig.ofToml bundledConfig).toOption.getD {}
  else match sc.config with
    | some text => (ClientConfig.ofToml text).toOption.getD {}
    | none => { localEndpoint := scriptedEndpoint }

/-- The session a scenario starts with. -/
def Scenario.session (sc : Scenario) : Session :=
  if sc.standalone then {}
  else
    let s : Session := {}
    let s := match sc.token with
      | some t => s.setToken t
      | none => s
    match sc.device with
    | some d => { s with store := s.store.set deviceKey d }
    | none => s

/-- The page shown when the app cannot connect. -/
def unavailablePage (message : String) : List (Node Action) :=
  [.el "div" [("class", "page page-narrow")]
    ([.el "h1" [] [.text "Studymap is unavailable"]] ++ alert (some (Notice.error message)))]

/-! ## Reporting -/

/-- Whether a character is a lower-case hexadecimal digit. -/
def isHexLower (c : Char) : Bool := c.isDigit || ('a' ≤ c && c ≤ 'f')

/-- Whether 36 characters form a version-4 UUID, as generated device ids are written. -/
def isUuidV4 (cs : List Char) : Bool :=
  cs.length == 36 &&
    ((List.range 36).zip cs).all fun (i, c) =>
      if i == 8 || i == 13 || i == 18 || i == 23 then c == '-'
      else if i == 14 then c == '4'
      else if i == 19 then c == '8' || c == '9' || c == 'a' || c == 'b'
      else isHexLower c

/-- Replaces every occurrence of the text `p :: ps` in a character list, left to right. -/
def replaceAll (p : Char) (ps replacement : List Char) : List Char → List Char
  | [] => []
  | c :: rest =>
    if (p :: ps).isPrefixOf (c :: rest) then
      replacement ++ replaceAll p ps replacement (rest.drop ps.length)
    else c :: replaceAll p ps replacement rest
termination_by cs => cs.length
decreasing_by all_goals simp only [List.length_drop, List.length_cons]; omega

/-- Replaces every generated device id in a character list, left to right. -/
def scrubDevices : List Char → List Char
  | [] => []
  | c :: rest =>
    if isUuidV4 (c :: rest.take 35) then
      "<generated-device>".toList ++ scrubDevices (rest.drop 35)
    else c :: scrubDevices rest
termination_by cs => cs.length
decreasing_by all_goals simp only [List.length_drop, List.length_cons]; omega

/-- A text as reported: the scripted service's address and generated device ids hidden. -/
def scrub (s : String) : String :=
  String.ofList (scrubDevices (replaceAll '1' "27.0.0.1:5".toList "oracle-server".toList s.toList))

/-- A received request as reported. -/
def Received.scrub (r : Received) : Received :=
  { r with path := App.scrub r.path, headers := r.headers.map fun h => (h.1, App.scrub h.2) }

/-- A snapshot as reported. -/
def Snapshot.scrub (s : Snapshot) : Snapshot :=
  { s with route := App.scrub s.route, html := App.scrub s.html, requests := s.requests.map Received.scrub,
           token := s.token.map App.scrub, device := s.device.map App.scrub }

/-! ## Running -/

/-- The app once started: running, or showing only that it is unavailable. -/
inductive Instance where
  | unavailable (message : String)
  | running (st : Runtime)
  deriving Repr

/-- Starts the app of a scenario at its first route, and settles it. -/
def Scenario.start (sc : Scenario) (r : Route) : Instance :=
  match sc.clientConfig.connect with
  | .error e => .unavailable e.message
  | .ok endpoint =>
    let conn : Connection := { session := sc.session, endpoint, server := { script := sc.script } }
    let st : Runtime := { conn, shown := sc.route, route := r }
    .running ((Runtime.showPage Runtime.go st r).settle Runtime.settleFuel)

/-- What the app shows. -/
def Instance.render : Instance → List (Node Action)
  | .unavailable message => unavailablePage message
  | .running st => st.render

/-- How many requests the service has received. -/
def Instance.received : Instance → List Received
  | .unavailable _ => []
  | .running st => st.conn.server.received

/-- The actions an event of kind `kind` on element `f` triggers, or why it triggers none. -/
def eventActions (kind : StepKind) (f : Found Action) : Except StepError (List Action) :=
  match kind with
  | .click => if f.inDisabledButton then .error .disabled else .ok (f.bubble "click")
  | .input => .ok (f.bubble "input")
  | .change => .ok (f.bubble "change")
  | .submit =>
    match f.formSubmit with
    | some actions => .ok actions
    | none => .error .noTarget

/-- Takes one step: the app afterwards, and why the step did nothing, if it did. -/
def Instance.step (inst : Instance) (step : Step) : Instance × Option StepError :=
  match select step.target inst.render with
  | none => (inst, some .noTarget)
  | some f =>
    match eventActions step.kind f, inst with
    | .error e, _ => (inst, some e)
    | .ok _, .unavailable m => (.unavailable m, none)
    | .ok actions, .running st =>
      let st := st.actAll step.event actions
      (.running (if step.settle then st.settle Runtime.settleFuel else st), none)

/-- What the app shows now, with the requests received after the first `seen`. -/
def Instance.snapshot (sc : Scenario) (inst : Instance) (seen : Nat) (error : Option StepError) :
    Snapshot :=
  let store : Option Store := match inst with
    | .running st => if sc.standalone then none else some st.conn.session.store
    | .unavailable _ => none
  Snapshot.scrub
    { route := (match inst with
        | .running st => st.shown
        | .unavailable _ => sc.route),
      html := nodesHtml inst.render,
      requests := inst.received.drop seen,
      token := store.bind (·.get? tokenKey),
      device := store.bind (·.get? deviceKey),
      error }

/-- Takes the steps one by one, with a snapshot after each. -/
def runSteps (sc : Scenario) : Instance → List Step → List Snapshot
  | _, [] => []
  | inst, step :: rest =>
    let seen := inst.received.length
    let (inst, error) := inst.step step
    inst.snapshot sc seen error :: runSteps sc inst rest

/-- Runs a scenario. -/
def Scenario.run (sc : Scenario) : Outcome :=
  match Route.read sc.route with
  | .error message => .badRoute message
  | .ok r =>
    let inst := sc.start r
    .ran (inst.snapshot sc 0 none) (runSteps sc inst sc.steps)

end StudyPlanner.App
