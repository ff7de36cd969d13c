import StudyPlanner.Proofs.Showings
/-!
# Pages call the service only when they are let

A page reaches the service only from a job, and a job runs only while the showing that started
it lasts. Three gates stand before every call, and each turns a request away without one.

* **The session.** The signed-in frame checks the session when it appears. Without a token it
  shows nothing of the page and sends the app to the sign-in page: no job of the page is
  started, and every job still waiting belongs to a showing that is gone, so settling
  afterwards calls nothing (`signedOut_route_calls_nothing`). This holds in every state a
  scenario reaches (`Scenario.Reaches`), whose waiting jobs are all numbered.
* **The parameters.** A study page whose parameters do not read (`BadParams`) is never entered:
  the app goes home at once, and the only jobs started are the home page's two loads
  (`badParams_go_home`).
* **The form.** Each form's job checks what was typed before it calls. When a check fails
  (`Rejects`) the job ends there: the connection is as it was, nothing else happens, and the
  page's alert holds the check's message (`rejected_form_calls_nothing`).
-/

namespace StudyPlanner.App

open Model Web Service

/-! ### The session -/

namespace Runtime

variable {st : Runtime} {r : Route}

/-- Going to a route of the frame without a token, when the frame is not shown yet: the app
ends on the sign-in page, and neither going there nor settling afterwards makes a call. -/
theorem signedOut_route_calls_nothing (hr : framed r = true) (hf : st.frame = none)
    (hs : st.conn.signedIn = false) (h : st.Numbered) (fuel : Nat) :
    ((st.go r).settle fuel).conn = st.conn ∧ ((st.go r).settle fuel).route = .signIn ∧
      ((st.go r).settle fuel).render = SignInPage.render {} := by
  have hgo := go_signedOut hr hf hs
  -- every job waiting was numbered before the sign-in page's showing
  have hidle : (st.go r).Idle := by
    rw [hgo]
    exact idle_of_fresh rfl fun p hp => Nat.lt_succ_of_lt (Nat.lt_succ_of_le (h.pending_le p hp))
  obtain ⟨pending, now, heq⟩ := settle_of_idle fuel (st.go r) hidle
  rw [heq, hgo]
  exact ⟨rfl, rfl, rfl⟩

end Runtime

/-! ### The parameters -/

/-- The route of a study page whose parameters do not read. -/
inductive BadParams : Route → Prop
  | roadmap {q : String} {e : NavError} : RoadmapParams.fromQuery q = .error e →
      BadParams (.roadmap q)
  | subject {q : String} {e : NavError} : SubjectParams.fromQuery q = .error e →
      BadParams (.subject q)
  | resource {q : String} {e : NavError} : ResourceParams.fromQuery q = .error e →
      BadParams (.resource q)
  | «section» {q : String} {e : NavError} : SectionParams.fromQuery q = .error e →
      BadParams (.section q)
  | topic {q : String} {e : NavError} : TopicParams.fromQuery q = .error e →
      BadParams (.topic q)
  | card {q : String} {e : NavError} : CardParams.fromQuery q = .error e →
      BadParams (.card q)

namespace BadParams

variable {r : Route}

theorem framed (h : BadParams r) : App.framed r = true := by
  cases h <;> rfl

/-- No page is kept for such a route: a study page kept shows its new parameters. -/
theorem keep_eq (h : BadParams r) (page : Page) : Runtime.keep page r = none := by
  cases h <;> cases page <;> simp_all [Runtime.keep, Except.toOption]

/-- Entering such a route shows nothing, keeps the connection, and goes home. -/
theorem enter_eq (h : BadParams r) (c : Connection) :
    Runtime.enter c r = (.away, c, [.navigate .home]) := by
  cases h <;> simp_all [Runtime.enter]

end BadParams

namespace Runtime

variable {st : Runtime} {r : Route}

/-- Inside the frame, a route whose parameters do not read is shown afresh as nothing, and the
app goes on home, where the home page is shown afresh. -/
theorem showFresh_badParams {f : Nat} (st : Runtime) (n : Nat) (hb : BadParams r)
    (hf : st.frame = some f) :
    showFresh (navigate (n + 1)) st r =
      { st with shown := Route.home.url, route := .home, page := .home HomePage.start.1,
                owner := st.showings + 2, showings := st.showings + 2,
                pending := st.pending ++
                  [{ due := st.now, owner := st.showings + 2, job := .home (.loadRoadmaps 1) },
                   { due := st.now, owner := st.showings + 2, job := .home (.loadSubjects 1) }] } := by
  simp only [showFresh, hb.enter_eq, applyEffects, navigate_succ]
  refine (showPage_shown _ rfl ?_ rfl).trans (showFresh_home _)
  simp [hf]

/-- Going to a study route whose parameters do not read, with the frame shown or a token in
the session: the address bar and the page are home's, the connection is as it was, and the
only jobs started are the home page's two loads. -/
theorem badParams_go_home (hb : BadParams r)
    (hin : st.frame.isSome = true ∨ st.conn.signedIn = true) :
    (st.go r).route = .home ∧ (st.go r).shown = Route.home.url ∧ (st.go r).conn = st.conn ∧
      (st.go r).page = .home HomePage.start.1 ∧
      (st.go r).pending = st.pending ++
        [{ due := st.now, owner := (st.go r).owner, job := .home (.loadRoadmaps 1) },
         { due := st.now, owner := (st.go r).owner, job := .home (.loadSubjects 1) }] := by
  cases hf : st.frame with
  | some f =>
    -- the frame is shown: the page is entered afresh inside it
    rw [go_eq, showPage_shown { st with shown := r.url, route := r } hb.framed (by simp [hf])
      (hb.keep_eq _), showFresh_badParams { st with shown := r.url, route := r } 62 hb hf]
    exact ⟨rfl, rfl, rfl, rfl, rfl⟩
  | none =>
    -- the frame appears, finds the token, and the page is entered afresh inside it
    have hs : st.conn.signedIn = true := by simpa [hf] using hin
    rw [go_eq, showPage_signedIn { st with shown := r.url, route := r } hb.framed hf hs,
      showFresh_badParams { st with shown := r.url, route := r, frame := some (st.showings + 1),
                                    showings := st.showings + 1 } 62 hb rfl]
    exact ⟨rfl, rfl, rfl, rfl, rfl⟩

end Runtime

/-! ### The forms -/

/-- A form's job that the page's checks turn down, with the message they give and the page as
it is left: the same page, its alert holding that message. The checks are those each form
makes before it calls, in its order. -/
inductive Rejects : Job → Page → String → Page → Prop
  | signIn {s : SignInPage.State} {e : Form.FormError} :
      Form.signIn (Text.trim s.email) s.password = .error e →
      Rejects .signIn (.signIn s) e.message (.signIn { s with notice := some (.error e.message) })
  | signUp {s : SignUpPage.State} {e : Form.FormError} :
      Form.signUp (Text.trim s.name) (Text.trim s.email) s.password s.confirm = .error e →
      Rejects .signUp (.signUp s) e.message (.signUp { s with notice := some (.error e.message) })
  | createRoadmap {s : HomePage.State} {e : Form.FormError} :
      Form.required "Roadmap name" (Text.trim s.roadmapName) = .error e →
      Rejects (.home .createRoadmap) (.home s) e.message
        (.home { s with notice := some (.error e.message) })
  | createSubject {s : HomePage.State} {e : Form.FormError} :
      Form.required "Subject name" (Text.trim s.subjectName) = .error e →
      Rejects (.home .createSubject) (.home s) e.message
        (.home { s with notice := some (.error e.message) })
  /-- The milestone form checks the name, then the target date. -/
  | createMilestone {s : RoadmapPage.State} {e : Form.FormError} :
      (Form.required "Milestone name" (Text.trim s.name) = .error e ∨
        Form.required "Milestone name" (Text.trim s.name) = .ok () ∧
          Form.dateInput s.targetDate = .error e) →
      Rejects (.roadmap .create) (.roadmap s) e.message
        (.roadmap { s with notice := some (.error e.message) })
  /-- The resource form checks the name, the count of sections, then both days. -/
  | createResource {s : SubjectPage.State} {e : Form.FormError} :
      SubjectPage.newResource s = .error e →
      Rejects (.subject .create) (.subject s) e.message
        (.subject { s with resourceNotice := some (.error e.message) })
  | searchResources {s : SubjectPage.State} {e : Form.FormError} :
      Form.required "Search text" (Text.trim s.searchText) = .error e →
      Rejects (.subject .search) (.subject s) e.message
        (.subject { s with resourceNotice := some (.error e.message) })
  | createTopic {s : SubjectPage.State} {e : Form.FormError} :
      Form.required "Topic name" (Text.trim s.topicName) = .error e →
      Rejects (.subject .createTopic) (.subject s) e.message
        (.subject { s with topicNotice := some (.error e.message) })
  | renameTopic {s : SubjectPage.State} {t : TopicRef} {e : Form.FormError} :
      Form.required "Topic name" (Text.trim s.draft) = .error e →
      Rejects (.subject (.rename t)) (.subject s) e.message
        (.subject { s with topicNotice := some (.error e.message) })
  | createCard {s : SectionPage.State} {e : Form.FormError} :
      Form.required "Headline" (Text.trim s.headline) = .error e →
      Rejects (.section .create) (.section s) e.message
        (.section { s with notice := some (.error e.message) })
  /-- Filing a card needs a topic chosen: a position that reads as a 32-bit number. -/
  | fileCard {s : CardPage.State} {f : CardPage.Filing} {subject : Crumb} :
      s.filing = some f → s.params.subject = some subject →
      Text.Decimal.readInt32? f.position = none →
      Rejects (.card (.file f.panel)) (.card s) "Choose a topic"
        (.card { s with filing := some { f with notice := some (.error "Choose a topic") } })

namespace Runtime

variable {st : Runtime} {p : Pending} {m : String} {page : Page}

/-- A form's job that its checks turn down makes no call and changes nothing but the page,
which shows the check's message. -/
theorem rejected_form_calls_nothing (hlive : st.live p.owner = true)
    (h : Rejects p.job st.page m page) : st.runJob p = { st with page } := by
  obtain ⟨due, owner, job⟩ := p
  generalize hshown : st.page = shown at h
  -- the job's showing lasts, so it runs on the page shown
  simp only [runJob, hlive, Bool.not_true, Bool.false_eq_true, if_false]
  cases h with
  | signIn hcheck => simp only [hshown, SignInPage.run, hcheck, applyEffects]
  | signUp hcheck => simp only [hshown, SignUpPage.run, hcheck, applyEffects]
  | createRoadmap hcheck => simp only [hshown, HomePage.run, hcheck, applyEffects]
  | createSubject hcheck => simp only [hshown, HomePage.run, hcheck, applyEffects]
  | createMilestone hcheck =>
    rcases hcheck with hname | ⟨hname, hdate⟩
    · simp only [hshown, RoadmapPage.run, RoadmapPage.create, hname, bind, Except.bind,
        applyEffects]
    · simp only [hshown, RoadmapPage.run, RoadmapPage.create, hname, hdate, bind, Except.bind,
        applyEffects]
  | createResource hcheck =>
    -- the job checks the form with its alert cleared, which the checks do not read
    rename_i s _
    have hcheck' : SubjectPage.newResource { s with resourceNotice := none } = .error _ := hcheck
    simp only [hshown, SubjectPage.run, hcheck', applyEffects]
  | searchResources hcheck => simp only [hshown, SubjectPage.run, hcheck, applyEffects]
  | createTopic hcheck => simp only [hshown, SubjectPage.run, hcheck, applyEffects]
  | renameTopic hcheck => simp only [hshown, SubjectPage.run, hcheck, applyEffects]
  | createCard hcheck => simp only [hshown, SectionPage.run, hcheck, applyEffects]
  | fileCard hfiling hsubject hposition =>
    simp only [hshown, CardPage.run, hfiling, hsubject, bne_self_eq_false, Bool.false_eq_true,
      if_false, CardPage.file, hposition, applyEffects]

end Runtime

/-! ### All three gates -/

/-- Pages call the service only when the session, the parameters and the form all let them:
from any state a scenario reaches, a route of the frame entered without a token shows the
sign-in page and calls nothing, even once settled; a study route whose parameters do not read
goes home having started nothing but the home page's loads; and a form whose checks fail makes
no call and shows their message. -/
theorem pages_call_only_when_admitted :
    (∀ (sc : Scenario) (st : Runtime), sc.Reaches (.running st) →
      ∀ (r : Route) (fuel : Nat), framed r = true → st.frame = none →
        st.conn.signedIn = false →
        ((st.go r).settle fuel).conn = st.conn ∧ ((st.go r).settle fuel).route = .signIn ∧
          ((st.go r).settle fuel).render = SignInPage.render {}) ∧
    (∀ (st : Runtime) (r : Route), BadParams r →
        (st.frame.isSome = true ∨ st.conn.signedIn = true) →
        (st.go r).route = .home ∧ (st.go r).shown = Route.home.url ∧ (st.go r).conn = st.conn ∧
          (st.go r).page = .home HomePage.start.1 ∧
          (st.go r).pending = st.pending ++
            [{ due := st.now, owner := (st.go r).owner, job := .home (.loadRoadmaps 1) },
             { due := st.now, owner := (st.go r).owner, job := .home (.loadSubjects 1) }]) ∧
    (∀ (st : Runtime) (p : Pending) (m : String) (page : Page), st.live p.owner = true →
        Rejects p.job st.page m page → st.runJob p = { st with page }) :=
  ⟨fun _ _ hreach _ fuel hr hf hs =>
      Runtime.signedOut_route_calls_nothing hr hf hs hreach.numbered fuel,
    fun _ _ hb hin => Runtime.badParams_go_home hb hin,
    fun _ _ _ _ hlive h => Runtime.rejected_form_calls_nothing hlive h⟩

/-- A scenario started at `/` with an empty session shows the sign-in page; going home from
there sends no request to the service. -/
theorem signed_out_home_sends_nothing :
    ∃ st, ({ route := "/" } : Scenario).start .signIn = .running st ∧
      ((st.go .home).settle Runtime.settleFuel).conn.server.received = [] := by
  -- the scenario connects to the scripted service and shows the sign-in page
  have hconnect :
      ({ route := "/" } : Scenario).clientConfig.connect = .ok ⟨scriptedEndpoint⟩ := by
    decide +kernel
  obtain ⟨st, hst, hframe, hout, hnone⟩ : ∃ st, ({ route := "/" } : Scenario).start .signIn =
      .running st ∧ st.frame = none ∧ st.conn.signedIn = false ∧ st.conn.server.received = [] :=
    ⟨_, by rw [Scenario.start, hconnect], by rfl, by rfl, by rfl⟩
  have hreach : ({ route := "/" } : Scenario).Reaches (.running st) :=
    hst ▸ .start (by decide +kernel)
  refine ⟨st, hst, ?_⟩
  rw [(pages_call_only_when_admitted.1 _ st hreach .home Runtime.settleFuel rfl hframe hout).1]
  exact hnone

end StudyPlanner.App
