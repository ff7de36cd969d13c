import StudyPlanner.App.Page.Entry
import StudyPlanner.App.Page.Account
import StudyPlanner.App.Page.Home
import StudyPlanner.App.Page.Roadmap
import StudyPlanner.App.Page.Subject
import StudyPlanner.App.Page.Resource
import StudyPlanner.App.Page.Section
import StudyPlanner.App.Page.Topic
import StudyPlanner.App.Page.Card
/-!
# The app at run time

The app is a router over the routes of `Web.Route`. Sign-in, sign-up and unknown paths stand
alone; every other route shows inside the signed-in *frame*: the bar at the top and the page
under it.

* **Entering a route.** The frame checks the session when it appears: without a token it shows
  nothing and sends the app to the sign-in page. A study page whose parameters do not read, and
  an unknown path, send the app home. The sign-in page sends a signed-in visitor home.
* **Staying on a page.** Going to the route of the page shown keeps the page and its state; a
  study page given other parameters loads again what depends on them. Going anywhere else
  shows the new page afresh, and the old page's pending jobs are dropped.
* **Showings.** Every showing of a page, and of the frame, gets its own number; a pending job
  belongs to the showing that started it and runs only while that showing lasts.
* **Settling.** Pending jobs run one at a time: the earliest due first, and among those due at
  once the one started first. The clock moves to a job's due time when nothing is due sooner.

Redirects and settling are bounded by fuel; a run that uses it up stops where it is.
-/

namespace StudyPlanner.App

open Model Web View Service

/-- Whether a route shows inside the signed-in frame. -/
def framed : Route → Bool
  | .signIn | .signUp | .notFound _ => false
  | _ => true

/-- The page the router shows, with its state. -/
inductive Page where
  | signIn (s : SignInPage.State)
  | signUp (s : SignUpPage.State)
  /-- Nothing, while the app is sent elsewhere: an unknown path, a study page whose parameters
  do not read, or the frame without a token. -/
  | away
  | home (s : HomePage.State)
  | roadmap (s : RoadmapPage.State)
  | subject (s : SubjectPage.State)
  | resource (s : ResourcePage.State)
  | section (s : SectionPage.State)
  | topic (s : TopicPage.State)
  | card (s : CardPage.State)
  | account
  deriving Repr

/-- A job waiting to run: when it is due (in milliseconds), which showing it belongs to, and
what it is. -/
structure Pending where
  due : Nat
  owner : Nat
  job : Job
  deriving Repr

/-- The running app. -/
structure Runtime where
  conn : Connection
  /-- The route as the address bar shows it. -/
  shown : String
  route : Route
  /-- The showing of the signed-in frame, while it is shown. -/
  frame : Option Nat := none
  page : Page := .away
  /-- The showing of the page. -/
  owner : Nat := 0
  /-- How many showings have been numbered. -/
  showings : Nat := 0
  /-- The clock, in milliseconds. -/
  now : Nat := 0
  pending : List Pending := []
  deriving Repr

/-- What an event carries besides its target: the form value, and for a click its modifier
keys and mouse button. -/
structure EventInfo where
  value : String := ""
  ctrl : Bool := false
  shift : Bool := false
  button : Nat := 0
  deriving Repr, Inhabited

/-- Whether a click is a plain primary click, which is all a router link follows. -/
def EventInfo.plain (e : EventInfo) : Bool := !e.ctrl && !e.shift && e.button == 0

namespace Runtime

/-- Asks for a job on behalf of showing `owner`. -/
def schedule (st : Runtime) (owner delay : Nat) (job : Job) : Runtime :=
  { st with pending := st.pending ++ [{ due := st.now + delay, owner, job }] }

/-- Carries out effects on behalf of showing `owner`; `nav` goes to a route. -/
def applyEffects (nav : Runtime → Route → Runtime) (owner : Nat) (st : Runtime) :
    List Effect → Runtime
  | [] => st
  | .navigate r :: rest => applyEffects nav owner (nav st r) rest
  | .spawn delay job :: rest => applyEffects nav owner (st.schedule owner delay job) rest

/-- A page entered afresh at a route, the connection after entering it, and its effects. -/
def enter (c : Connection) : Route → Page × Connection × List Effect
  | .signIn =>
    let (s, es) := SignInPage.start c.signedIn
    (.signIn s, c, es)
  | .signUp => (.signUp {}, c, [])
  | .notFound _ => (.away, c, [.navigate .home])
  | .home =>
    let (s, es) := HomePage.start
    (.home s, c, es)
  | .account => (.account, AccountPage.start c, [])
  | .roadmap q =>
    match RoadmapParams.fromQuery q with
    | .ok p => let (s, es) := RoadmapPage.start p; (.roadmap s, c, es)
    | .error _ => (.away, c, [.navigate .home])
  | .subject q =>
    match SubjectParams.fromQuery q with
    | .ok p => let (s, es) := SubjectPage.start p; (.subject s, c, es)
    | .error _ => (.away, c, [.navigate .home])
  | .resource q =>
    match ResourceParams.fromQuery q with
    | .ok p => let (s, es) := ResourcePage.start p; (.resource s, c, es)
    | .error _ => (.away, c, [.navigate .home])
  | .section q =>
    match SectionParams.fromQuery q with
    | .ok p => let (s, es) := SectionPage.start p; (.section s, c, es)
    | .error _ => (.away, c, [.navigate .home])
  | .topic q =>
    match TopicParams.fromQuery q with
    | .ok p => let (s, es) := TopicPage.start p; (.topic s, c, es)
    | .error _ => (.away, c, [.navigate .home])
  | .card q =>
    match CardParams.fromQuery q with
    | .ok p => let (s, es) := CardPage.start p; (.card s, c, es)
    | .error _ => (.away, c, [.navigate .home])

/-- The page shown, kept for a route that shows the same page: the page with its new
parameters and the effects of the change, or `none` when the route needs a fresh page. -/
def keep (page : Page) (r : Route) : Option (Page × List Effect) :=
  match r, page with
  | .signIn, .signIn s => some (.signIn s, [])
  | .signUp, .signUp s => some (.signUp s, [])
  | .home, .home s => some (.home s, [])
  | .account, .account => some (.account, [])
  | .roadmap q, .roadmap s =>
    (RoadmapParams.fromQuery q).toOption.map fun p => let (s, es) := RoadmapPage.update p s; (.roadmap s, es)
  | .subject q, .subject s =>
    (SubjectParams.fromQuery q).toOption.map fun p => let (s, es) := SubjectPage.update p s; (.subject s, es)
  | .resource q, .resource s =>
    (ResourceParams.fromQuery q).toOption.map fun p => let (s, es) := ResourcePage.update p s; (.resource s, es)
  | .section q, .section s =>
    (SectionParams.fromQuery q).toOption.map fun p => let (s, es) := SectionPage.update p s; (.section s, es)
  | .topic q, .topic s =>
    (TopicParams.fromQuery q).toOption.map fun p => let (s, es) := TopicPage.update p s; (.topic s, es)
  | .card q, .card s =>
    (CardParams.fromQuery q).toOption.map fun p => let (s, es) := CardPage.update p s; (.card s, es)
  | _, _ => none

/-- Shows the page of route `r` (already in the address bar): the frame first when the route
needs it, then the page, kept or fresh. `nav` goes on to another route. -/
def showPage (nav : Runtime → Route → Runtime) (st : Runtime) (r : Route) : Runtime :=
  let st : Runtime := if framed r then st else { st with frame := none }
  let fresh (st : Runtime) : Runtime :=
    let owner := st.showings + 1
    let (page, conn, es) := enter st.conn r
    applyEffects nav owner { st with page, conn, owner, showings := owner } es
  if framed r && st.frame.isNone then
    let frame := st.showings + 1
    let st := { st with frame := some frame, showings := frame }
    if st.conn.signedIn then fresh st
    else nav { st with page := .away, owner := 0 } .signIn
  else
    match keep st.page r with
    | some (page, es) => applyEffects nav st.owner { st with page } es
    | none => fresh st

/-- Goes to a route: the address bar shows its URL and the app shows its page. Redirects go on
while `fuel` lasts. -/
def navigate : Nat → Runtime → Route → Runtime
  | 0, st, _ => st
  | fuel + 1, st, r => showPage (navigate fuel) { st with shown := r.url, route := r } r

/-- How many redirects one navigation may make. -/
def navFuel : Nat := 64

/-- Goes to a route. -/
def go (st : Runtime) (r : Route) : Runtime := navigate navFuel st r

/-- Whether showing `owner` is still shown. -/
def live (st : Runtime) (owner : Nat) : Bool := owner == st.owner || st.frame == some owner

/-- Carries out effects of the current page. -/
def pageEffects (st : Runtime) (es : List Effect) : Runtime := applyEffects go st.owner st es

/-- Runs a pending job, if its showing lasts. -/
def runJob (st : Runtime) (p : Pending) : Runtime :=
  if !st.live p.owner then st
  else
    let c := st.conn
    let done (page : Page) (r : Connection × List Effect) : Runtime :=
      applyEffects go p.owner { st with page, conn := r.1 } r.2
    match p.job, st.page with
    | .signOut _, page => done page (signOutNow c)
    | .signIn, .signIn s => let (s, r) := SignInPage.run s c; done (.signIn s) r
    | .signUp, .signUp s => let (s, r) := SignUpPage.run s c; done (.signUp s) r
    | .home j, .home s => let (s, r) := HomePage.run j s c; done (.home s) r
    | .roadmap j, .roadmap s => let (s, r) := RoadmapPage.run j s c; done (.roadmap s) r
    | .subject j, .subject s => let (s, r) := SubjectPage.run j s c; done (.subject s) r
    | .resource j, .resource s => let (s, r) := ResourcePage.run j s c; done (.resource s) r
    | .section j, .section s => let (s, r) := SectionPage.run j s c; done (.section s) r
    | .topicCards v, .topic s => let (s, r) := TopicPage.run v s c; done (.topic s) r
    | .card j, .card s => let (s, r) := CardPage.run j s c; done (.card s) r
    | _, _ => st

/-- The first of the jobs due earliest, and the others. -/
def nextDue (ps : List Pending) : Option (Pending × List Pending) :=
  match ps with
  | [] => none
  | p :: rest =>
    match nextDue rest with
    | some (q, others) => if q.due < p.due then some (q, p :: others) else some (p, rest)
    | none => some (p, rest)

/-- Runs pending jobs until none is left, while `fuel` lasts. -/
def settle : Nat → Runtime → Runtime
  | 0, st => st
  | fuel + 1, st =>
    match nextDue st.pending with
    | none => st
    | some (p, rest) =>
      let st := { st with pending := rest, now := max st.now p.due }
      settle fuel (st.runJob p)

/-- How many jobs one settling may run. -/
def settleFuel : Nat := 100000

/-! ## Events -/

/-- Does what an action does, with the event that triggered it. -/
def act (st : Runtime) (e : EventInfo) (a : Action) : Runtime :=
  match a, st.page with
  | .follow r, _ => if e.plain then st.go r else st
  | .go r, _ => st.go r
  | .signOut inNavbar, _ =>
    match inNavbar, st.frame with
    | true, some frame => st.schedule frame 0 (.signOut true)
    | true, none => st
    | false, _ => st.schedule st.owner 0 (.signOut false)
  | .signIn a, .signIn s => let (s, es) := SignInPage.handle a e.value s; pageEffects { st with page := .signIn s } es
  | .signUp a, .signUp s => let (s, es) := SignUpPage.handle a e.value s; pageEffects { st with page := .signUp s } es
  | .home a, .home s => let (s, es) := HomePage.handle a e.value s; pageEffects { st with page := .home s } es
  | .roadmap a, .roadmap s => let (s, es) := RoadmapPage.handle a e.value s; pageEffects { st with page := .roadmap s } es
  | .subject a, .subject s => let (s, es) := SubjectPage.handle a e.value s; pageEffects { st with page := .subject s } es
  | .resource a, .resource s => let (s, es) := ResourcePage.handle a s; pageEffects { st with page := .resource s } es
  | .section a, .section s => let (s, es) := SectionPage.handle a e.value s; pageEffects { st with page := .section s } es
  | .card a, .card s => let (s, es) := CardPage.handle a e.value s; pageEffects { st with page := .card s } es
  | _, _ => st

/-- Does the actions of an event, one after another. -/
def actAll (st : Runtime) (e : EventInfo) (actions : List Action) : Runtime :=
  actions.foldl (fun st a => st.act e a) st

/-! ## What the app shows -/

/-- The page shown, without the frame. -/
def pageNodes (st : Runtime) : List (Node Action) :=
  match st.page with
  | .signIn s => SignInPage.render s
  | .signUp s => SignUpPage.render s
  | .away => []
  | .home s => HomePage.render s
  | .roadmap s => RoadmapPage.render s
  | .subject s => SubjectPage.render s
  | .resource s => ResourcePage.render s
  | .section s => SectionPage.render s
  | .topic s => TopicPage.render s
  | .card s => CardPage.render s
  | .account => AccountPage.render st.conn

/-- Everything the app shows. -/
def render (st : Runtime) : List (Node Action) :=
  match st.frame with
  | some _ =>
    [navbar (.go .home) (.go .account) (.signOut true) false,
     .el "main" [("class", "page")] st.pageNodes]
  | none => st.pageNodes

end Runtime

end StudyPlanner.App
