import StudyPlanner.Proofs.GuardedCalls
/-!
# Page actions follow one protocol

A page changes something at the service only from a job: creating a roadmap, a subject, a
milestone, a resource, a topic or a card, attaching a resource, renaming, removing or moving a
topic, moving a card, marking a section reviewed, filing a card under a topic, and signing up.
Once the page's checks pass (`Mutation`, one case per action) every such job goes the same way
(`page_actions_follow_one_protocol`):

* it clears the alert it reports in and makes exactly one call, the action's own;
* when the call succeeds, the form's free-text inputs go back to how the page first shows them
  (the count of sections to `1`; attaching clears the search text and its hits; renaming
  closes its editor instead), the alert says what was done or nothing, and the one list the
  action changes is loaded again, once, as its latest load; filing a card and signing up load
  nothing;
* when it fails, the page stays as it was but for the alert, which shows the error, and
  nothing is loaded.

The checks themselves, and what a job does when they fail, are in `Proofs.GuardedCalls`.
-/

namespace StudyPlanner.App

open Model Web View Service

/-! ### What the forms send does not depend on their alert -/

@[simp] theorem SectionPage.blocks_notice (s : SectionPage.State) (n : Option Notice) :
    SectionPage.blocks { s with notice := n } = SectionPage.blocks s := rfl

@[simp] theorem SubjectPage.newResource_resourceNotice (s : SubjectPage.State)
    (n : Option Notice) :
    SubjectPage.newResource { s with resourceNotice := n } = SubjectPage.newResource s := rfl

/-! ### The actions -/

/-- A page's job that changes something at the service, on the page it runs on, once the
page's checks pass. It names the one call the job makes (`op`), the page with the alert the job
reports in set to a notice (`shown`), the page after a success with that alert set
(`cleared`: the form's free-text inputs as the page first shows them, the list the action
changes restarted), the text a success reports, and the load a success starts. -/
inductive Mutation : Job → Page → (α : Type) → Operation α → (Option Notice → Page) →
    (Option Notice → Page) → (α → Option String) → Option Job → Prop
  | createRoadmap {s : HomePage.State} :
      Form.required "Roadmap name" (Text.trim s.roadmapName) = .ok () →
      Mutation (.home .createRoadmap) (.home s) Roadmap
        (Service.createRoadmap (Text.trim s.roadmapName) (Text.trim s.roadmapDescription))
        (fun n => .home { s with notice := n })
        (fun n => .home { s with roadmapName := "", roadmapDescription := "",
                                 roadmaps := s.roadmaps.restart, notice := n })
        (fun r => some ("Created roadmap " ++ r.name))
        (some (.home (.loadRoadmaps (s.roadmaps.version + 1))))
  | createSubject {s : HomePage.State} :
      Form.required "Subject name" (Text.trim s.subjectName) = .ok () →
      Mutation (.home .createSubject) (.home s) Subject
        (Service.createSubject (Text.trim s.subjectName) (Text.trim s.subjectDescription))
        (fun n => .home { s with notice := n })
        (fun n => .home { s with subjectName := "", subjectDescription := "",
                                 subjects := s.subjects.restart, notice := n })
        (fun r => some ("Created subject " ++ r.name))
        (some (.home (.loadSubjects (s.subjects.version + 1))))
  /-- The subject and the level of the milestone form are choices, and stay. -/
  | createMilestone {s : RoadmapPage.State} {date : Option Calendar.Moment} :
      Form.required "Milestone name" (Text.trim s.name) = .ok () →
      Form.dateInput s.targetDate = .ok date →
      Mutation (.roadmap .create) (.roadmap s) Milestone
        (Service.createMilestone s.params.roadmapId (Text.Decimal.readInt64? s.subjectId) s.level
          (Text.trim s.name) (Text.trim s.description) date)
        (fun n => .roadmap { s with notice := n })
        (fun n => .roadmap { s with name := "", description := "", targetDate := "",
                                    milestones := s.milestones.restart, notice := n })
        (fun m => some ("Added milestone " ++ m.name))
        (some (.roadmap (.loadMilestones (s.milestones.version + 1))))
  /-- The kind and the pattern of a resource are choices, and stay; the count of sections goes
  back to `1`. -/
  | createResource {s : SubjectPage.State} {r : NewResource} :
      SubjectPage.newResource s = .ok r →
      Mutation (.subject .create) (.subject s) Resource (Service.createResource r)
        (fun n => .subject { s with resourceNotice := n })
        (fun n => .subject { s with name := "", link := "", production := "", expiration := "",
                                    sections := "1", resources := s.resources.restart,
                                    resourceNotice := n })
        (fun created => some ("Created resource " ++ created.name))
        (some (.subject (.loadResources (s.resources.version + 1))))
  /-- Attaching a hit of the search clears the search text and its hits. -/
  | attach {s : SubjectPage.State} {hit : SearchResult} :
      Mutation (.subject (.attach hit)) (.subject s) Unit
        (addResource s.params.subjectId hit.id)
        (fun n => .subject { s with resourceNotice := n })
        (fun n => .subject { s with found := [], searchText := "",
                                    resources := s.resources.restart, resourceNotice := n })
        (fun _ => some ("Added " ++ hit.name))
        (some (.subject (.loadResources (s.resources.version + 1))))
  | createTopic {s : SubjectPage.State} :
      Form.required "Topic name" (Text.trim s.topicName) = .ok () →
      Mutation (.subject .createTopic) (.subject s) Topic
        (Service.createTopic s.params.subjectId s.level (Text.trim s.topicName))
        (fun n => .subject { s with topicNotice := n })
        (fun n => .subject { s with topicName := "", topics := s.topics.restart,
                                    topicNotice := n })
        (fun _ => none)
        (some (.subject (.loadTopics (s.topics.version + 1))))
  /-- A rename closes its editor, and its draft stays. -/
  | rename {s : SubjectPage.State} {t : TopicRef} :
      Form.required "Topic name" (Text.trim s.draft) = .ok () →
      Mutation (.subject (.rename t)) (.subject s) Topic (editTopic t (Text.trim s.draft))
        (fun n => .subject { s with topicNotice := n })
        (fun n => .subject { s with editing := none, topics := s.topics.restart,
                                    topicNotice := n })
        (fun _ => none)
        (some (.subject (.loadTopics (s.topics.version + 1))))
  | remove {s : SubjectPage.State} {t : TopicRef} :
      Mutation (.subject (.remove t)) (.subject s) Unit (removeTopic t)
        (fun n => .subject { s with topicNotice := n })
        (fun n => .subject { s with topics := s.topics.restart, topicNotice := n })
        (fun _ => none)
        (some (.subject (.loadTopics (s.topics.version + 1))))
  | moveTopic {s : SubjectPage.State} {t : TopicRef} {target : Int32} :
      Mutation (.subject (.moveTopic t target)) (.subject s) Unit (Service.moveTopic t target)
        (fun n => .subject { s with topicNotice := n })
        (fun n => .subject { s with topics := s.topics.restart, topicNotice := n })
        (fun _ => none)
        (some (.subject (.loadTopics (s.topics.version + 1))))
  | createCard {s : SectionPage.State} :
      Form.required "Headline" (Text.trim s.headline) = .ok () →
      Mutation (.section .create) (.section s) Card
        (Service.createCard s.params.sectionId (Text.trim s.headline) (SectionPage.blocks s))
        (fun n => .section { s with notice := n })
        (fun n => .section { s with headline := "", text := "", code := "", language := "",
                                    cards := s.cards.restart, notice := n })
        (fun card => some ("Created card " ++ card.headline))
        (some (.section (.loadCards (s.cards.version + 1))))
  | moveCard {s : SectionPage.State} {cardId : Int64} {position : Int32} :
      Mutation (.section (.moveCard cardId position)) (.section s) Unit
        (Service.moveCard cardId s.params.sectionId position)
        (fun n => .section { s with notice := n })
        (fun n => .section { s with cards := s.cards.restart, notice := n })
        (fun _ => none)
        (some (.section (.loadCards (s.cards.version + 1))))
  | markReviewed {s : ResourcePage.State} {sectionId : Int64} :
      Mutation (.resource (.markReviewed sectionId)) (.resource s) Unit
        (markSectionReviewed sectionId)
        (fun n => .resource { s with notice := n })
        (fun n => .resource { s with sections := s.sections.restart, notice := n })
        (fun _ => none)
        (some (.resource (.loadSections (s.sections.version + 1))))
  /-- Filing a card reports in the filing form, clears nothing and loads nothing. -/
  | fileCard {s : CardPage.State} {f : CardPage.Filing} {subject : Crumb} {position : Int32} :
      s.filing = some f → s.params.subject = some subject →
      Text.Decimal.readInt32? f.position = some position →
      Mutation (.card (.file f.panel)) (.card s) Unit
        (addCardToTopic s.params.cardId { subjectId := subject.id, level := f.level, position })
        (fun n => .card { s with filing := some { f with notice := n } })
        (fun n => .card { s with filing := some { f with notice := n } })
        (fun _ => some "Card filed under the topic")
        none
  /-- Signing up clears every field of the form and loads nothing. -/
  | signUp {s : SignUpPage.State} :
      Form.signUp (Text.trim s.name) (Text.trim s.email) s.password s.confirm = .ok () →
      Mutation .signUp (.signUp s) UserInfo
        (Service.signUp (Text.trim s.name) (Text.trim s.email) s.password)
        (fun n => .signUp { s with notice := n })
        (fun n => .signUp { notice := n })
        (fun user => some ("Account created for " ++ user.displayName ++ ". You can sign in now."))
        none

namespace Mutation

variable {job : Job} {page : Page} {α : Type} {op : Operation α}
  {shown cleared : Option Notice → Page} {said : α → Option String} {load : Option Job}

/-- The page a job runs on is `shown` at the alert it has: `shown` changes the alert alone. -/
theorem eq_shown (h : Mutation job page α op shown cleared said load) : ∃ n, page = shown n := by
  cases h with
  | @fileCard s f _ _ hfiling _ _ =>
    -- the filing form shown is `f`, at its own alert
    obtain ⟨params, card, filing, panels⟩ := s
    subst hfiling
    exact ⟨f.notice, rfl⟩
  | _ => exact ⟨_, rfl⟩

end Mutation

namespace Runtime

variable {st : Runtime} {p : Pending} {α : Type} {op : Operation α}
  {shown cleared : Option Notice → Page} {said : α → Option String} {load : Option Job}

/-- Page actions follow one protocol. Whichever action's job runs on the page shown, once the
page's checks pass: the page is `shown` at its own alert, the job makes exactly the action's one
call, and then either the call succeeds, the page is `cleared` with the alert saying what was
done (or nothing) and the action's one load is started, or the call fails, the page is as it
was but for the alert, which shows the error, and nothing more is started. -/
theorem page_actions_follow_one_protocol (hlive : st.live p.owner = true)
    (h : Mutation p.job st.page α op shown cleared said load) :
    (∃ n, st.page = shown n) ∧
      st.runJob p =
        match st.conn.call op with
        | (.ok v, c) =>
          { st with page := cleared ((said v).map Notice.success), conn := c,
                    pending := st.pending ++
                      load.toList.map fun j => { due := st.now, owner := p.owner, job := j } }
        | (.error e, c) => { st with page := shown (some (.error e.message)), conn := c } := by
  refine ⟨h.eq_shown, ?_⟩
  obtain ⟨due, owner, job⟩ := p
  generalize hpage : st.page = page at h
  generalize hcall : st.conn.call op = out
  -- the job's showing lasts, so it runs on the page shown
  simp only [runJob, hlive, Bool.not_true, Bool.false_eq_true, if_false]
  cases h with
  | createRoadmap hcheck =>
    simp only [hpage, HomePage.run, hcheck, hcall]
    obtain ⟨_ | v, c⟩ := out <;> rfl
  | createSubject hcheck =>
    simp only [hpage, HomePage.run, hcheck, hcall]
    obtain ⟨_ | v, c⟩ := out <;> rfl
  | createMilestone hname hdate =>
    simp only [hpage, RoadmapPage.run, RoadmapPage.create, hname, hdate, bind, Except.bind, hcall]
    obtain ⟨_ | v, c⟩ := out <;> rfl
  | createResource hcheck =>
    simp only [hpage, SubjectPage.run, SubjectPage.newResource_resourceNotice, hcheck, hcall]
    obtain ⟨_ | v, c⟩ := out <;> rfl
  | attach =>
    simp only [hpage, SubjectPage.run, hcall]
    obtain ⟨_ | v, c⟩ := out <;> rfl
  | createTopic hcheck =>
    simp only [hpage, SubjectPage.run, hcheck, hcall]
    obtain ⟨_ | v, c⟩ := out <;> rfl
  | rename hcheck =>
    simp only [hpage, SubjectPage.run, hcheck, hcall]
    obtain ⟨_ | v, c⟩ := out <;> rfl
  | remove =>
    simp only [hpage, SubjectPage.run, hcall]
    obtain ⟨_ | v, c⟩ := out <;> rfl
  | moveTopic =>
    simp only [hpage, SubjectPage.run, hcall]
    obtain ⟨_ | v, c⟩ := out <;> rfl
  | createCard hcheck =>
    simp only [hpage, SectionPage.run, SectionPage.blocks_notice, hcheck, hcall]
    obtain ⟨_ | v, c⟩ := out <;> rfl
  | moveCard =>
    simp only [hpage, SectionPage.run, hcall]
    obtain ⟨_ | v, c⟩ := out <;> rfl
  | markReviewed =>
    simp only [hpage, ResourcePage.run, hcall]
    obtain ⟨_ | v, c⟩ := out <;> rfl
  | fileCard hfiling hsubject hposition =>
    simp only [hpage, CardPage.run, hfiling, hsubject, bne_self_eq_false, Bool.false_eq_true,
      if_false, CardPage.file, hposition, hcall]
    obtain ⟨_ | u, c⟩ := out
    · rfl
    · -- filing matches the unit the call returns, and starts no load
      cases u
      simp only [applyEffects, Option.toList, List.map_nil, List.append_nil]
      rfl
  | signUp hcheck =>
    simp only [hpage, SignUpPage.run, hcheck, hcall]
    obtain ⟨_ | v, c⟩ := out
    · rfl
    · -- signing up starts no load
      simp only [applyEffects, Option.toList, List.map_nil, List.append_nil]
      rfl

/-- Creating the roadmap `Rust` from the home page: whatever the service answers, the job leaves
the connection as the one call that creates the roadmap leaves it. -/
theorem creating_a_roadmap_calls_once :
    let st : Runtime :=
      { conn := { endpoint := ⟨"http://127.0.0.1:5"⟩ }, shown := "/", route := .home,
        page := .home { roadmapName := "Rust" } }
    let p : Pending := { due := 0, owner := 0, job := .home .createRoadmap }
    st.live p.owner = true ∧ Form.required "Roadmap name" (Text.trim "Rust") = .ok () ∧
      (st.runJob p).conn =
        (st.conn.call (Service.createRoadmap (Text.trim "Rust") (Text.trim ""))).2 := by
  intro st p
  have hlive : st.live p.owner = true := rfl
  have hcheck : Form.required "Roadmap name" (Text.trim "Rust") = .ok () := rfl
  refine ⟨hlive, hcheck, ?_⟩
  rw [(page_actions_follow_one_protocol hlive (.createRoadmap hcheck)).2]
  split <;> next heq => rw [heq]

end Runtime

end StudyPlanner.App
