import StudyPlanner.App.Scenario
import Mathlib.Data.List.Perm.Basic
/-!
# Showings and the jobs that belong to them

Every showing of a page, and of the signed-in frame, gets the next number, and every job the
app starts belongs to the showing that asked for it. A job runs only while its showing lasts;
this module follows the numbers through the app and says when a job can still run.

* How `showPage` enters a route, said once: the frame turning away a visitor without a token
  (`showPage_signedOut`), a page shown afresh (`showFresh`: `showPage_signedIn`,
  `showPage_shown`, `showPage_unframed`), and what a fresh page is at the routes the app sends
  people to (`showFresh_signIn`, `showFresh_home`).
* `Runtime.Numbered`: the showing of the page, of the frame and of every waiting job has been
  numbered already. It holds when the app starts and every way the app moves keeps it: going
  to a route, an action, a job, settling, a scenario's steps; so every instance a scenario
  reaches (`Scenario.Reaches`) is numbered (`Scenario.Reaches.numbered`).
* `Runtime.Idle`: no waiting job is live. Settling such a state runs nothing, so it leaves all
  but the queue and the clock as they were (`settle_of_idle`). A numbered state whose page was
  just shown afresh, with no frame, is idle (`idle_of_fresh`): every job still waiting belongs
  to an older showing.
-/

namespace StudyPlanner.App

open Model Web

namespace Runtime

variable {nav : Runtime → Route → Runtime} {st : Runtime} {r : Route}

/-! ### Entering a route -/

/-- A page entered afresh at route `r`, as `showPage` shows it when it keeps nothing: the next
showing's number, the page and connection that `enter` gives, then the page's effects. -/
def showFresh (nav : Runtime → Route → Runtime) (st : Runtime) (r : Route) : Runtime :=
  let owner := st.showings + 1
  let (page, conn, es) := enter st.conn r
  applyEffects nav owner { st with page, conn, owner, showings := owner } es

theorem navigate_succ (fuel : Nat) :
    navigate (fuel + 1) st r = showPage (navigate fuel) { st with shown := r.url, route := r } r :=
  rfl

theorem go_eq : st.go r = showPage (navigate 63) { st with shown := r.url, route := r } r := rfl

/-- The frame appears without a token: nothing is shown and the app goes to the sign-in page. -/
theorem showPage_signedOut (st : Runtime) (hr : framed r = true) (hf : st.frame = none)
    (hs : st.conn.signedIn = false) :
    showPage nav st r =
      nav { st with frame := some (st.showings + 1), showings := st.showings + 1, page := .away,
                    owner := 0 } .signIn := by
  simp [showPage, hr, hf, hs]

/-- The frame appears with a token: it takes the next number, then the page is shown afresh. -/
theorem showPage_signedIn (st : Runtime) (hr : framed r = true) (hf : st.frame = none)
    (hs : st.conn.signedIn = true) :
    showPage nav st r =
      showFresh nav { st with frame := some (st.showings + 1), showings := st.showings + 1 } r := by
  simp [showPage, showFresh, hr, hf, hs]

/-- Inside the frame, a route that keeps nothing of the page shows its page afresh. -/
theorem showPage_shown (st : Runtime) (hr : framed r = true) (hf : st.frame.isSome = true)
    (hk : keep st.page r = none) :
    showPage nav st r = showFresh nav st r := by
  obtain ⟨f, hf⟩ := Option.isSome_iff_exists.mp hf
  simp [showPage, showFresh, hr, hf, hk]

/-- A route outside the frame takes the frame away. -/
theorem showPage_unframed (st : Runtime) (hr : framed r = false) (hk : keep st.page r = none) :
    showPage nav st r = showFresh nav { st with frame := none } r := by
  simp [showPage, showFresh, hr, hk]

theorem showFresh_signIn (st : Runtime) (hs : st.conn.signedIn = false) :
    showFresh nav st .signIn =
      { st with page := .signIn {}, owner := st.showings + 1, showings := st.showings + 1 } := by
  simp only [showFresh, enter, SignInPage.start, hs, Bool.false_eq_true, if_false, applyEffects]

/-- The home page shown afresh starts loading its two lists, and nothing else. -/
theorem showFresh_home (st : Runtime) :
    showFresh nav st .home =
      { st with page := .home HomePage.start.1, owner := st.showings + 1,
                showings := st.showings + 1,
                pending := st.pending ++
                  [{ due := st.now, owner := st.showings + 1, job := .home (.loadRoadmaps 1) },
                   { due := st.now, owner := st.showings + 1, job := .home (.loadSubjects 1) }] } := by
  simp only [showFresh, enter, HomePage.start, Effect.start, applyEffects, schedule,
    List.append_assoc, List.cons_append, List.nil_append, Nat.add_zero]

/-- Going to a route of the frame while the frame is not shown and the session holds no token
ends on the sign-in page, shown afresh; the connection and the waiting jobs stay as they were. -/
theorem go_signedOut (hr : framed r = true) (hf : st.frame = none)
    (hs : st.conn.signedIn = false) :
    st.go r = { st with shown := Route.signIn.url, route := .signIn, frame := none,
                        page := .signIn {}, owner := st.showings + 2, showings := st.showings + 2 } := by
  rw [go_eq, showPage_signedOut { st with shown := r.url, route := r } hr hf hs, navigate_succ,
    showPage_unframed _ rfl rfl]
  exact showFresh_signIn _ hs

/-! ### Numbered showings -/

/-- Every showing the app refers to has been numbered: the page's, the frame's, and that of
every job waiting to run. -/
structure Numbered (st : Runtime) : Prop where
  owner_le : st.owner ≤ st.showings
  frame_le : ∀ f, st.frame = some f → f ≤ st.showings
  pending_le : ∀ p ∈ st.pending, p.owner ≤ st.showings

/-- A way of going to a route that keeps the numbering and never takes a number back. -/
def KeepsNumbered (nav : Runtime → Route → Runtime) : Prop :=
  ∀ st r, st.Numbered → (nav st r).Numbered ∧ st.showings ≤ (nav st r).showings

theorem numbered_schedule {owner delay : Nat} {job : Job} (h : st.Numbered)
    (ho : owner ≤ st.showings) : (st.schedule owner delay job).Numbered := by
  refine ⟨h.owner_le, h.frame_le, fun p hp => ?_⟩
  rcases List.mem_append.mp hp with hp | hp
  · exact h.pending_le p hp
  · rw [List.mem_singleton.mp hp]
    exact ho

/-- Effects carried out for a numbered showing keep the numbering. -/
theorem numbered_applyEffects (hnav : KeepsNumbered nav) (owner : Nat) :
    ∀ (es : List Effect) (st : Runtime), st.Numbered → owner ≤ st.showings →
      (applyEffects nav owner st es).Numbered ∧ st.showings ≤ (applyEffects nav owner st es).showings
  | [], st, h, _ => ⟨h, Nat.le_refl _⟩
  | .navigate r :: rest, st, h, ho => by
    obtain ⟨hn, hle⟩ := hnav st r h
    obtain ⟨hrest, hle'⟩ := numbered_applyEffects hnav owner rest (nav st r) hn (by omega)
    exact ⟨hrest, Nat.le_trans hle hle'⟩
  | .spawn delay job :: rest, st, h, ho =>
    numbered_applyEffects hnav owner rest (st.schedule owner delay job) (numbered_schedule h ho) ho

theorem numbered_showFresh (hnav : KeepsNumbered nav) (h : st.Numbered) :
    (showFresh nav st r).Numbered ∧ st.showings ≤ (showFresh nav st r).showings := by
  simp only [showFresh]
  obtain ⟨page, conn, es⟩ := enter st.conn r
  have hfresh : ({ st with page, conn, owner := st.showings + 1, showings := st.showings + 1 } :
      Runtime).Numbered :=
    ⟨Nat.le_refl _, fun f hf => Nat.le_succ_of_le (h.frame_le f hf),
      fun p hp => Nat.le_succ_of_le (h.pending_le p hp)⟩
  obtain ⟨hn, hle⟩ := numbered_applyEffects hnav _ es _ hfresh (Nat.le_refl _)
  exact ⟨hn, Nat.le_of_succ_le hle⟩

theorem numbered_openFrame (h : st.Numbered) :
    ({ st with frame := some (st.showings + 1), showings := st.showings + 1 } : Runtime).Numbered :=
  ⟨Nat.le_succ_of_le h.owner_le, fun f hf => by simp at hf ⊢; omega,
    fun p hp => Nat.le_succ_of_le (h.pending_le p hp)⟩

/-- Showing a route keeps the numbering: whether the frame turns the visitor away, the page is
kept or it is shown afresh. -/
theorem numbered_showPage (hnav : KeepsNumbered nav) (h : st.Numbered) :
    (showPage nav st r).Numbered ∧ st.showings ≤ (showPage nav st r).showings := by
  have hnone : ({ st with frame := none } : Runtime).Numbered :=
    ⟨h.owner_le, fun f hf => by simp at hf, h.pending_le⟩
  cases hr : framed r with
  | true =>
    cases hf : st.frame with
    | none =>
      cases hs : st.conn.signedIn with
      | false =>
        -- turned away: the sign-in page comes after the frame's number
        have hturned :
            ({ st with frame := some (st.showings + 1), showings := st.showings + 1, page := .away,
                       owner := 0 } : Runtime).Numbered :=
          ⟨Nat.zero_le _, fun f hf => by simp at hf ⊢; omega,
            fun p hp => Nat.le_succ_of_le (h.pending_le p hp)⟩
        rw [showPage_signedOut st hr hf hs]
        obtain ⟨hn, hle⟩ := hnav _ .signIn hturned
        exact ⟨hn, Nat.le_of_succ_le hle⟩
      | true =>
        rw [showPage_signedIn st hr hf hs]
        obtain ⟨hn, hle⟩ := numbered_showFresh hnav (numbered_openFrame h)
        exact ⟨hn, Nat.le_of_succ_le hle⟩
    | some f =>
      cases hk : keep st.page r with
      | none =>
        rw [showPage_shown st hr (by simp [hf]) hk]
        exact numbered_showFresh hnav h
      | some kept =>
        -- the page is kept: its effects belong to its own showing
        simp only [showPage, hr, ↓reduceIte, hf, Option.isNone_some, Bool.and_false,
          Bool.false_eq_true, hk]
        refine numbered_applyEffects hnav _ kept.2 _ ?_ h.owner_le
        exact ⟨h.owner_le, fun g hg => h.frame_le g (hf.trans hg), h.pending_le⟩
  | false =>
    cases hk : keep st.page r with
    | none =>
      rw [showPage_unframed st hr hk]
      exact numbered_showFresh hnav hnone
    | some kept =>
      simp only [showPage, hr, Bool.false_eq_true, ↓reduceIte, Option.isNone_none, Bool.and_true,
        hk]
      refine numbered_applyEffects hnav _ kept.2 _ ?_ h.owner_le
      exact ⟨h.owner_le, hnone.frame_le, h.pending_le⟩

theorem keepsNumbered_navigate : ∀ fuel, KeepsNumbered (navigate fuel)
  | 0 => fun _ _ h => ⟨h, Nat.le_refl _⟩
  | fuel + 1 => fun _ _ h =>
    numbered_showPage (keepsNumbered_navigate fuel) ⟨h.owner_le, h.frame_le, h.pending_le⟩

theorem keepsNumbered_go : KeepsNumbered go := keepsNumbered_navigate navFuel

/-- A job runs for its own showing: it keeps the numbering when its showing was numbered. -/
theorem numbered_runJob {p : Pending} (h : st.Numbered) (hp : p.owner ≤ st.showings) :
    (st.runJob p).Numbered ∧ st.showings ≤ (st.runJob p).showings := by
  have hdone : ∀ page conn es,
      (applyEffects go p.owner { st with page, conn } es).Numbered ∧
        st.showings ≤ (applyEffects go p.owner { st with page, conn } es).showings :=
    fun _ _ es => numbered_applyEffects keepsNumbered_go _ es _
      ⟨h.owner_le, h.frame_le, h.pending_le⟩ hp
  unfold runJob
  split
  · exact ⟨h, Nat.le_refl _⟩
  · split
    -- a job of another page than the one shown does nothing
    case h_11 => exact ⟨h, Nat.le_refl _⟩
    case h_1 => exact hdone _ _ _
    -- otherwise the page's run gives its new state, the connection and the effects
    all_goals
      dsimp only
      exact hdone _ _ _

/-- The job `nextDue` picks and the ones it leaves are the jobs it was given. -/
theorem nextDue_perm {p : Pending} {rest : List Pending} :
    ∀ {ps : List Pending}, nextDue ps = some (p, rest) → (p :: rest).Perm ps
  | [], h => by simp [nextDue] at h
  | q :: qs, h => by
    simp only [nextDue] at h
    cases hn : nextDue qs with
    | none =>
      simp only [hn, Option.some.injEq, Prod.mk.injEq] at h
      obtain ⟨rfl, rfl⟩ := h
      exact List.Perm.refl _
    | some x =>
      obtain ⟨q', others⟩ := x
      have ih : (q' :: others).Perm qs := nextDue_perm hn
      simp only [hn] at h
      split at h
      · -- a job of the rest is due sooner
        simp only [Option.some.injEq, Prod.mk.injEq] at h
        obtain ⟨rfl, rfl⟩ := h
        exact (List.Perm.swap q _ others).trans (ih.cons q)
      · simp only [Option.some.injEq, Prod.mk.injEq] at h
        obtain ⟨rfl, rfl⟩ := h
        exact List.Perm.refl _

theorem numbered_settle :
    ∀ (fuel : Nat) (st : Runtime), st.Numbered →
      (st.settle fuel).Numbered ∧ st.showings ≤ (st.settle fuel).showings
  | 0, _, h => ⟨h, Nat.le_refl _⟩
  | fuel + 1, st, h => by
    simp only [settle]
    cases hn : nextDue st.pending with
    | none => exact ⟨h, Nat.le_refl _⟩
    | some x =>
      obtain ⟨p, rest⟩ := x
      have hperm := nextDue_perm hn
      have h₁ : ({ st with pending := rest, now := max st.now p.due } : Runtime).Numbered :=
        ⟨h.owner_le, h.frame_le,
          fun q hq => h.pending_le q (hperm.subset (List.mem_cons_of_mem _ hq))⟩
      obtain ⟨h₂, hle₂⟩ := numbered_runJob h₁ (h.pending_le p (hperm.subset List.mem_cons_self))
      obtain ⟨h₃, hle₃⟩ := numbered_settle fuel _ h₂
      exact ⟨h₃, Nat.le_trans hle₂ hle₃⟩

/-- An action keeps the numbering: its jobs belong to the page's showing or the frame's. -/
theorem numbered_act (h : st.Numbered) (e : EventInfo) (a : Action) :
    (st.act e a).Numbered ∧ st.showings ≤ (st.act e a).showings := by
  have hpage : ∀ page es, (pageEffects { st with page } es).Numbered ∧
      st.showings ≤ (pageEffects { st with page } es).showings :=
    fun _ es => numbered_applyEffects keepsNumbered_go _ es _
      ⟨h.owner_le, h.frame_le, h.pending_le⟩ h.owner_le
  unfold act
  split
  next r =>
    split
    · exact keepsNumbered_go st r h
    · exact ⟨h, Nat.le_refl _⟩
  next r => exact keepsNumbered_go st r h
  next =>
    split
    next frame hf => exact ⟨numbered_schedule h (h.frame_le frame hf), Nat.le_refl _⟩
    next => exact ⟨h, Nat.le_refl _⟩
    next => exact ⟨numbered_schedule h h.owner_le, Nat.le_refl _⟩
  -- an action of another page than the one shown does nothing
  case h_12 => exact ⟨h, Nat.le_refl _⟩
  all_goals exact hpage _ _

theorem numbered_actAll (e : EventInfo) :
    ∀ (actions : List Action) (st : Runtime), st.Numbered →
      (st.actAll e actions).Numbered ∧ st.showings ≤ (st.actAll e actions).showings
  | [], _, h => ⟨h, Nat.le_refl _⟩
  | a :: rest, st, h => by
    obtain ⟨h₁, hle₁⟩ := numbered_act h e a
    obtain ⟨h₂, hle₂⟩ := numbered_actAll e rest _ h₁
    exact ⟨h₂, Nat.le_trans hle₁ hle₂⟩

/-! ### Jobs that can no longer run -/

/-- No waiting job belongs to a showing that is still shown. -/
def Idle (st : Runtime) : Prop := ∀ p ∈ st.pending, st.live p.owner = false

theorem runJob_of_not_live {p : Pending} (h : st.live p.owner = false) : st.runJob p = st := by
  simp [runJob, h]

/-- Settling a state with no live job runs nothing: only the queue and the clock move. -/
theorem settle_of_idle :
    ∀ (fuel : Nat) (st : Runtime), st.Idle → ∃ pending now, st.settle fuel = { st with pending, now }
  | 0, st, _ => ⟨st.pending, st.now, rfl⟩
  | fuel + 1, st, h => by
    simp only [settle]
    cases hn : nextDue st.pending with
    | none => exact ⟨st.pending, st.now, rfl⟩
    | some x =>
      obtain ⟨p, rest⟩ := x
      have hperm := nextDue_perm hn
      let st₁ : Runtime := { st with pending := rest, now := max st.now p.due }
      -- the job picked belongs to a showing that is gone, and so do the ones left
      have hp : st₁.live p.owner = false := h p (hperm.subset List.mem_cons_self)
      have h₁ : st₁.Idle := fun q hq => h q (hperm.subset (List.mem_cons_of_mem _ hq))
      obtain ⟨pending, now, heq⟩ := settle_of_idle fuel st₁ h₁
      refine ⟨pending, now, ?_⟩
      show settle fuel (st₁.runJob p) = _
      rw [runJob_of_not_live hp]
      exact heq

/-- A page shown afresh, with no frame, leaves every job of an earlier showing dead. -/
theorem idle_of_fresh (hf : st.frame = none) (h : ∀ p ∈ st.pending, p.owner < st.owner) :
    st.Idle := by
  intro p hp
  simp [live, hf, Nat.ne_of_lt (h p hp)]

end Runtime

/-! ### Scenarios -/

/-- The showings of a running app are numbered; an app that could not start has none. -/
def Instance.Numbered : Instance → Prop
  | .unavailable _ => True
  | .running st => st.Numbered

/-- A scenario starts the app with its showings numbered. -/
theorem Scenario.numbered_start (sc : Scenario) (r : Route) : (sc.start r).Numbered := by
  unfold Scenario.start
  split
  · trivial
  · -- nothing is numbered yet, and nothing waits
    refine (Runtime.numbered_settle _ _ (Runtime.numbered_showPage Runtime.keepsNumbered_go ?_).1).1
    exact ⟨Nat.le_refl 0, fun _ hf => by simp at hf, fun _ hp => by simp at hp⟩

/-- Every step of a scenario keeps the showings numbered. -/
theorem Instance.numbered_step {inst : Instance} (h : inst.Numbered) (step : Step) :
    (inst.step step).1.Numbered := by
  unfold Instance.step
  split
  · exact h
  · split
    · exact h
    · trivial
    · rename_i actions st _ _
      have h₁ := (Runtime.numbered_actAll step.event actions st h).1
      split
      · exact (Runtime.numbered_settle _ _ h₁).1
      · exact h₁

/-- The instances a scenario passes through: the app started at the route its first address
reads as, then the steps taken one after another. -/
inductive Scenario.Reaches (sc : Scenario) : Instance → Prop
  | start {r : Route} : Route.parse sc.route = some r → sc.Reaches (sc.start r)
  | step {inst : Instance} (step : Step) : sc.Reaches inst → sc.Reaches (inst.step step).1

/-- Every instance a scenario reaches has its showings numbered. -/
theorem Scenario.Reaches.numbered {sc : Scenario} {inst : Instance} (h : sc.Reaches inst) :
    inst.Numbered := by
  induction h with
  | start _ => exact sc.numbered_start _
  | step step _ ih => exact Instance.numbered_step ih step

end StudyPlanner.App
