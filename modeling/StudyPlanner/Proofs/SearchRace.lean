import StudyPlanner.App.Page.Home
import Mathlib.Data.List.Induction
import Mathlib.Data.List.Nodup
/-!
# The search box shows only the newest answer

The home page's search waits after each keystroke and asks the service only when no later
keystroke came meanwhile; the answer is shown only when, once more, no later keystroke came
while it was on its way. The app runs a search's two halves back to back (`HomePage.run`), but
in a browser the task of a keystroke stops twice, at its timer and at its call, and keystrokes,
timers and replies interleave in any order. This module follows the search through every such
interleaving, with the page's own steps: the keystroke handler, `searchStart` when a timer goes
off and `searchAnswered` when a reply comes (`Searching.step`). A run outputs the calls it makes
and the results it writes. The app's own job is one such interleaving, the reply coming right
after the timer (`run_search_eq_steps`).

`search_shows_only_newest` says, for every run and every event in it:

* a call is made by the task of the latest keystroke, when its timer goes off, for that
  keystroke's text trimmed, which is not blank, and by no task twice;
* the results are written only by the task of the latest keystroke: cleared when its text is
  blank, and otherwise set to the reply to its own call;
* the results shown are those of the last write.

So a reply to an older keystroke never replaces what is shown. The proof keeps one invariant
(`SearchInv`) through every step (`SearchInv.step`): the tasks are those of the keystrokes,
numbered in order, and a task that has called is past waiting, and a task that waits for its
reply has called with its own text.
-/

namespace StudyPlanner.App.HomePage

open Model Service

/-! ### The search as its tasks interleave -/

/-- Where the task of one keystroke stands. -/
inductive TaskPhase where
  /-- Its timer has not gone off. -/
  | waiting
  /-- Its call for the query is on its way. -/
  | asking (query : String)
  /-- It is done. -/
  | finished
  deriving DecidableEq, Repr

/-- The query a task waits on a reply for. -/
def TaskPhase.query? : TaskPhase → Option String
  | .asking q => some q
  | _ => none

/-- The task a keystroke spawns: the keystroke's number, the text typed and where it stands. -/
structure SearchTask where
  generation : Nat
  text : String
  phase : TaskPhase := .waiting
  deriving Repr

/-- Something that happens to the search. -/
inductive SearchEvent where
  /-- The user types, and the box holds `text`. -/
  | keystroke (text : String)
  /-- The timer of the task of the `generation`-th keystroke goes off. -/
  | expire (generation : Nat)
  /-- The reply to the call of the task of the `generation`-th keystroke comes. -/
  | reply (generation : Nat) (answer : Except String (List Subject))

/-- What the search does that can be seen. -/
inductive SearchOutput where
  /-- The task of the `generation`-th keystroke asks the service for `query`. -/
  | call (generation : Nat) (query : String)
  /-- The task of the `generation`-th keystroke writes the results shown. -/
  | write (generation : Nat) (found : Option (Except String (List Subject)))
  deriving DecidableEq

/-- The search tasks among an action's effects. -/
def searchTasks (es : List Effect) : List SearchTask :=
  es.filterMap fun
    | .spawn _ (.home (.search g text)) => some { generation := g, text }
    | _ => none

/-- Moves the task of the `g`-th keystroke on to `p`. -/
def SearchTask.moveTo (g : Nat) (p : TaskPhase) (t : SearchTask) : SearchTask :=
  if t.generation = g then { t with phase := p } else t

/-- The page with the search tasks spawned so far. -/
structure Searching where
  page : State
  tasks : List SearchTask := []

namespace Searching

/-- Moves the task of the `g`-th keystroke on to `p`. -/
def moveTo (st : Searching) (g : Nat) (p : TaskPhase) : Searching :=
  { st with tasks := st.tasks.map (SearchTask.moveTo g p) }

/-- A keystroke: the page's handler runs, and the task it spawns starts waiting. -/
def keystroke (st : Searching) (text : String) : Searching :=
  let (page, es) := handle .search text st.page
  { page, tasks := st.tasks ++ searchTasks es }

/-- The timer of the `g`-th keystroke's task goes off, if that task waits for it. -/
def expire (st : Searching) (g : Nat) : Searching × List SearchOutput :=
  match st.tasks.find? (fun t => t.generation == g && t.phase == .waiting) with
  | none => (st, [])
  | some t =>
    match searchStart g t.text st.page with
    | .stale => (st.moveTo g .finished, [])
    | .clear => ({ st.moveTo g .finished with page := { st.page with found := none } }, [.write g none])
    | .ask q => (st.moveTo g (.asking q), [.call g q])

/-- The reply to the `g`-th keystroke's call comes, if that task waits for one. -/
def reply (st : Searching) (g : Nat) (r : Except String (List Subject)) :
    Searching × List SearchOutput :=
  match st.tasks.find? (fun t => t.generation == g && t.phase.query?.isSome) with
  | none => (st, [])
  | some _ =>
    match searchAnswered g r st.page with
    | none => (st.moveTo g .finished, [])
    | some page => ({ st.moveTo g .finished with page }, [.write g page.found])

/-- One event, and what it outputs. -/
def step (st : Searching) : SearchEvent → Searching × List SearchOutput
  | .keystroke text => (st.keystroke text, [])
  | .expire g => st.expire g
  | .reply g r => st.reply g r

/-- The page as it first shows, with no search yet. -/
def start : Searching := { page := HomePage.start.1 }

/-- Events one after another from the start, and all they output. -/
def run (evs : List SearchEvent) : Searching × List SearchOutput :=
  evs.foldl (fun acc e => ((acc.1.step e).1, acc.2 ++ (acc.1.step e).2)) (start, [])

end Searching

/-! ### What a run is to say -/

/-- The text a keystroke leaves in the box. -/
def SearchEvent.typed? : SearchEvent → Option String
  | .keystroke text => some text
  | _ => none

/-- The texts typed, one per keystroke. -/
def typed (evs : List SearchEvent) : List String := evs.filterMap SearchEvent.typed?

/-- The results an output writes. -/
def SearchOutput.written? : SearchOutput → Option (Option (Except String (List Subject)))
  | .write _ v => some v
  | .call _ _ => none

/-- The task an output calls for. -/
def SearchOutput.called? : SearchOutput → Option Nat
  | .call g _ => some g
  | .write _ _ => none

/-- The results shown after outputs: those of the last write, and none before any. -/
def shownAfter (outs : List SearchOutput) : Option (Except String (List Subject)) :=
  ((outs.filterMap SearchOutput.written?).getLast?).getD none

/-- What an output of the event `e`, after the events `pre`, is to be. A call is made by the
task of the latest keystroke when its timer goes off, for its text trimmed, not blank, and not
by a task that called before. A write is made by the task of the latest keystroke: clearing the
results when its timer goes off and its trimmed text is blank, or with the reply to the call it
made for its trimmed text. -/
def Answers (pre : List SearchEvent) (e : SearchEvent) : SearchOutput → Prop
  | .call g q =>
    e = .expire g ∧ g = (typed pre).length ∧ (typed pre).getLast?.map Text.trim = some q ∧
      q ≠ "" ∧ ∀ q', SearchOutput.call g q' ∉ (Searching.run pre).2
  | .write g v =>
    g = (typed pre).length ∧
      ((e = .expire g ∧ v = none ∧ (typed pre).getLast?.map Text.trim = some "") ∨
        ∃ r q, e = .reply g r ∧ v = some r ∧ (typed pre).getLast?.map Text.trim = some q ∧
          SearchOutput.call g q ∈ (Searching.run pre).2)

/-! ### The page's two halves of a search -/

theorem handle_search (text : String) (s : State) :
    handle .search text s = ({ s with searchText := text, generation := s.generation + 1 },
      [.spawn searchDelay (.home (.search (s.generation + 1) text))]) := rfl

theorem searchStart_eq_clear {g : Nat} {text : String} {s : State} (h : searchStart g text s = .clear) :
    g = s.generation ∧ Text.trim text = "" := by
  unfold searchStart at h
  by_cases hg : g = s.generation
  · by_cases hq : (Text.trim text).isEmpty = true
    · exact ⟨hg, String.isEmpty_iff.mp hq⟩
    · simp [hg, hq] at h
  · simp [hg] at h

theorem searchStart_eq_ask {g : Nat} {text q : String} {s : State} (h : searchStart g text s = .ask q) :
    g = s.generation ∧ q = Text.trim text ∧ q ≠ "" := by
  unfold searchStart at h
  by_cases hg : g = s.generation
  · by_cases hq : (Text.trim text).isEmpty = true
    · simp [hg, hq] at h
    · simp only [hg, bne_self_eq_false, Bool.false_eq_true, if_false, hq, SearchStart.ask.injEq] at h
      subst h
      exact ⟨hg, rfl, fun he => hq (String.isEmpty_iff.mpr he)⟩
  · simp [hg] at h

theorem searchAnswered_eq_some {g : Nat} {r : Except String (List Subject)} {s s' : State}
    (h : searchAnswered g r s = some s') : g = s.generation ∧ s' = { s with found := some r } := by
  unfold searchAnswered at h
  by_cases hg : g = s.generation
  · simp only [hg, bne_self_eq_false, Bool.false_eq_true, if_false, Option.some.injEq] at h
    exact ⟨hg, h.symm⟩
  · simp [hg] at h

/-! ### Tasks -/

@[simp] theorem SearchTask.moveTo_generation (g : Nat) (p : TaskPhase) (t : SearchTask) :
    (t.moveTo g p).generation = t.generation := by
  unfold SearchTask.moveTo
  split <;> rfl

@[simp] theorem SearchTask.moveTo_text (g : Nat) (p : TaskPhase) (t : SearchTask) :
    (t.moveTo g p).text = t.text := by
  unfold SearchTask.moveTo
  split <;> rfl

theorem SearchTask.moveTo_phase (g : Nat) (p : TaskPhase) (t : SearchTask) :
    (t.moveTo g p).phase = if t.generation = g then p else t.phase := by
  unfold SearchTask.moveTo
  split <;> rfl

namespace Searching

@[simp] theorem moveTo_page (st : Searching) (g : Nat) (p : TaskPhase) : (st.moveTo g p).page = st.page :=
  rfl

theorem map_generation_moveTo (st : Searching) (g : Nat) (p : TaskPhase) :
    (st.moveTo g p).tasks.map SearchTask.generation = st.tasks.map SearchTask.generation := by
  simp [moveTo, Function.comp_def]

/-- A task after a move is a task before it, moved. -/
theorem mem_moveTo {st : Searching} {g : Nat} {p : TaskPhase} {t : SearchTask}
    (h : t ∈ (st.moveTo g p).tasks) : ∃ t₀ ∈ st.tasks, t = t₀.moveTo g p :=
  let ⟨t₀, h₀, heq⟩ := List.mem_map.mp h
  ⟨t₀, h₀, heq.symm⟩

theorem moveTo_mem {st : Searching} {g : Nat} {p : TaskPhase} {t : SearchTask} (h : t ∈ st.tasks) :
    t.moveTo g p ∈ (st.moveTo g p).tasks :=
  List.mem_map_of_mem h

/-- Generations told apart: two tasks of one generation are one task. -/
theorem eq_of_generation_eq {tasks : List SearchTask} (hnodup : (tasks.map SearchTask.generation).Nodup)
    {t t' : SearchTask} (ht : t ∈ tasks) (ht' : t' ∈ tasks) (hg : t.generation = t'.generation) :
    t = t' :=
  List.inj_on_of_nodup_map hnodup ht ht' hg

/-- Once the task of a keystroke is over, no reply finds it waiting. -/
theorem find?_moveTo_finished (st : Searching) (g : Nat) :
    (st.moveTo g .finished).tasks.find? (fun t => t.generation == g && t.phase.query?.isSome) = none := by
  rw [List.find?_eq_none]
  intro t ht
  obtain ⟨t₀, -, rfl⟩ := mem_moveTo ht
  by_cases hg : t₀.generation = g
  · simp [SearchTask.moveTo_phase, hg, TaskPhase.query?]
  · simp [hg]

end Searching

/-! ### The app's search job -/

/-- The app runs a search's two halves back to back: its job leaves the page as the timer
going off and then, at once, the reply to the call for the trimmed text leave it. -/
theorem run_search_eq_steps (st : Searching) {g : Nat} {t : SearchTask}
    (hfind : st.tasks.find? (fun t => t.generation == g && t.phase == .waiting) = some t)
    (c : Connection) :
    (HomePage.run (.search g t.text) st.page c).1 =
      ((st.step (.expire g)).1.step
        (.reply g (c.fetch (searchSubjects (Text.trim t.text))).1)).1.page := by
  have hpred := List.find?_some hfind
  simp only [Bool.and_eq_true, beq_iff_eq] at hpred
  cases hstart : searchStart g t.text st.page with
  | stale =>
    simp only [HomePage.run, hstart, Searching.step, Searching.expire, hfind, Searching.reply,
      Searching.find?_moveTo_finished]
    rfl
  | clear =>
    have hover := Searching.find?_moveTo_finished st g
    simp only [HomePage.run, hstart, Searching.step, Searching.expire, hfind, Searching.reply]
    simp only [Searching.moveTo] at hover ⊢
    rw [hover]
  | ask q =>
    -- the reply finds the task, now waiting for it
    obtain ⟨-, rfl, -⟩ := searchStart_eq_ask hstart
    have hasking : ((st.moveTo g (.asking (Text.trim t.text))).tasks.find?
        (fun t => t.generation == g && t.phase.query?.isSome)).isSome := by
      rw [List.find?_isSome]
      refine ⟨t.moveTo g (.asking (Text.trim t.text)),
        Searching.moveTo_mem (List.mem_of_find?_eq_some hfind), ?_⟩
      simp [SearchTask.moveTo_phase, hpred.1, TaskPhase.query?]
    obtain ⟨t', ht'⟩ := Option.isSome_iff_exists.mp hasking
    simp only [HomePage.run, hstart, Searching.step, Searching.expire, hfind, Searching.reply, ht',
      Searching.moveTo_page]
    cases searchAnswered g (c.fetch (searchSubjects (Text.trim t.text))).1 st.page <;> rfl

/-! ### The invariant -/

/-- What holds of the search after the keystrokes `texts` with outputs `outs`. The page's
generation counts the keystrokes; the tasks are numbered up to it, one task a number, and the
task of the latest keystroke has its text; a task waiting for a reply has called with its own
text trimmed, and a task that has called waits for its timer no more; no task has called twice;
and the results shown are those of the last write. -/
structure SearchInv (st : Searching) (texts : List String) (outs : List SearchOutput) : Prop where
  generation_eq : st.page.generation = texts.length
  generation_le : ∀ t ∈ st.tasks, t.generation ≤ texts.length
  latest_text : ∀ t ∈ st.tasks, t.generation = texts.length → texts.getLast? = some t.text
  nodup : (st.tasks.map SearchTask.generation).Nodup
  asking : ∀ t ∈ st.tasks, ∀ q, t.phase = .asking q →
    q = Text.trim t.text ∧ SearchOutput.call t.generation q ∈ outs
  called : ∀ g q, SearchOutput.call g q ∈ outs → ∃ t ∈ st.tasks, t.generation = g ∧ t.phase ≠ .waiting
  calls_nodup : (outs.filterMap SearchOutput.called?).Nodup
  found_eq : st.page.found = shownAfter outs

theorem shownAfter_append_write (outs : List SearchOutput) (g : Nat) (v : Option (Except String (List Subject))) :
    shownAfter (outs ++ [.write g v]) = v := by
  simp [shownAfter, SearchOutput.written?]

theorem shownAfter_append_call (outs : List SearchOutput) (g : Nat) (q : String) :
    shownAfter (outs ++ [.call g q]) = shownAfter outs := by
  simp [shownAfter, SearchOutput.written?]

namespace SearchInv

variable {st : Searching} {texts : List String} {outs : List SearchOutput}

theorem start : SearchInv Searching.start [] [] where
  generation_eq := rfl
  generation_le := by simp [Searching.start]
  latest_text := by simp [Searching.start]
  nodup := by simp [Searching.start]
  asking := by simp [Searching.start]
  called := by simp
  calls_nodup := by simp
  found_eq := rfl

/-- A keystroke adds the task of the next number, with the text typed, waiting. -/
theorem keystroke (hi : SearchInv st texts outs) (text : String) :
    SearchInv (st.keystroke text) (texts ++ [text]) outs := by
  have htasks : (st.keystroke text).tasks = st.tasks ++ [{ generation := texts.length + 1, text }] := by
    simp [Searching.keystroke, handle_search, searchTasks, hi.generation_eq]
  have hpage : (st.keystroke text).page =
      { st.page with searchText := text, generation := st.page.generation + 1 } := by
    simp [Searching.keystroke, handle_search]
  constructor
  · rw [hpage, List.length_append, List.length_singleton]
    exact congrArg (· + 1) hi.generation_eq
  · intro t ht
    rw [htasks, List.mem_append, List.mem_singleton] at ht
    rcases ht with ht | rfl
    · simpa using Nat.le_succ_of_le (hi.generation_le t ht)
    · simp
  · intro t ht hg
    rw [htasks, List.mem_append, List.mem_singleton] at ht
    rcases ht with ht | rfl
    · -- an older task has a smaller number
      have := hi.generation_le t ht
      simp at hg
      omega
    · simp
  · rw [htasks, List.map_append, List.nodup_append]
    refine ⟨hi.nodup, by simp, ?_⟩
    intro g hg g' hg'
    simp only [List.map_cons, List.map_nil, List.mem_singleton] at hg'
    obtain ⟨t, ht, rfl⟩ := List.mem_map.mp hg
    have := hi.generation_le t ht
    omega
  · intro t ht q hq
    rw [htasks, List.mem_append, List.mem_singleton] at ht
    rcases ht with ht | rfl
    · exact hi.asking t ht q hq
    · cases hq
  · intro g q hc
    obtain ⟨t, ht, hg, hp⟩ := hi.called g q hc
    exact ⟨t, by rw [htasks]; exact List.mem_append_left _ ht, hg, hp⟩
  · exact hi.calls_nodup
  · rw [hpage]
    exact hi.found_eq

/-- A task moved past waiting, to being finished, with nothing output. -/
theorem moveTo_finished (hi : SearchInv st texts outs) (g : Nat) :
    SearchInv (st.moveTo g .finished) texts outs where
  generation_eq := hi.generation_eq
  generation_le t ht := by
    obtain ⟨t₀, h₀, rfl⟩ := Searching.mem_moveTo ht
    simpa using hi.generation_le t₀ h₀
  latest_text t ht := by
    obtain ⟨t₀, h₀, rfl⟩ := Searching.mem_moveTo ht
    simpa using hi.latest_text t₀ h₀
  nodup := by rw [Searching.map_generation_moveTo]; exact hi.nodup
  asking t ht q hq := by
    obtain ⟨t₀, h₀, rfl⟩ := Searching.mem_moveTo ht
    rw [SearchTask.moveTo_phase] at hq
    split at hq
    · cases hq
    · simpa using hi.asking t₀ h₀ q hq
  called g' q' hc := by
    obtain ⟨t₀, h₀, hg, hp⟩ := hi.called g' q' hc
    refine ⟨t₀.moveTo g .finished, Searching.moveTo_mem h₀, by simpa using hg, ?_⟩
    rw [SearchTask.moveTo_phase]
    split
    · exact TaskPhase.noConfusion
    · exact hp
  calls_nodup := hi.calls_nodup
  found_eq := hi.found_eq

/-- The results written as `v` by the task of the `g`-th keystroke. -/
theorem write (hi : SearchInv st texts outs) (g : Nat) (v : Option (Except String (List Subject))) :
    SearchInv { st with page := { st.page with found := v } } texts (outs ++ [.write g v]) where
  generation_eq := hi.generation_eq
  generation_le := hi.generation_le
  latest_text := hi.latest_text
  nodup := hi.nodup
  asking t ht q hq := by
    obtain ⟨hq', hc⟩ := hi.asking t ht q hq
    exact ⟨hq', List.mem_append_left _ hc⟩
  called g' q' hc := by
    rw [List.mem_append, List.mem_singleton] at hc
    rcases hc with hc | hc
    · exact hi.called g' q' hc
    · cases hc
  calls_nodup := by
    have hwrite : [SearchOutput.write g v].filterMap SearchOutput.called? = [] := rfl
    rw [List.filterMap_append, hwrite, List.append_nil]
    exact hi.calls_nodup
  found_eq := (shownAfter_append_write outs g v).symm

/-- The waiting task of the `g`-th keystroke calls for `q`, its text trimmed. -/
theorem ask (hi : SearchInv st texts outs) {t : SearchTask} (ht : t ∈ st.tasks) {g : Nat}
    (hg : t.generation = g) (hw : t.phase = .waiting) {q : String} (hq : q = Text.trim t.text) :
    SearchInv (st.moveTo g (.asking q)) texts (outs ++ [.call g q]) where
  generation_eq := hi.generation_eq
  generation_le t' ht' := by
    obtain ⟨t₀, h₀, rfl⟩ := Searching.mem_moveTo ht'
    simpa using hi.generation_le t₀ h₀
  latest_text t' ht' := by
    obtain ⟨t₀, h₀, rfl⟩ := Searching.mem_moveTo ht'
    simpa using hi.latest_text t₀ h₀
  nodup := by rw [Searching.map_generation_moveTo]; exact hi.nodup
  asking t' ht' q' hq' := by
    obtain ⟨t₀, h₀, rfl⟩ := Searching.mem_moveTo ht'
    rw [SearchTask.moveTo_phase] at hq'
    split at hq'
    · -- the task that calls now: it is `t`, the one task of its number
      rename_i hg₀
      obtain rfl : t₀ = t := Searching.eq_of_generation_eq hi.nodup h₀ ht (hg₀.trans hg.symm)
      cases hq'
      simp [hq, hg]
    · obtain ⟨hq₀, hc⟩ := hi.asking t₀ h₀ q' hq'
      rw [SearchTask.moveTo_text, SearchTask.moveTo_generation]
      exact ⟨hq₀, List.mem_append_left _ hc⟩
  called g' q' hc := by
    rw [List.mem_append, List.mem_singleton] at hc
    rcases hc with hc | hc
    · obtain ⟨t₀, h₀, hg₀, hp⟩ := hi.called g' q' hc
      refine ⟨t₀.moveTo g (.asking q), Searching.moveTo_mem h₀, by simpa using hg₀, ?_⟩
      rw [SearchTask.moveTo_phase]
      split
      · exact TaskPhase.noConfusion
      · exact hp
    · cases hc
      refine ⟨t.moveTo g (.asking q), Searching.moveTo_mem ht, by simpa using hg, ?_⟩
      rw [SearchTask.moveTo_phase, if_pos hg]
      exact TaskPhase.noConfusion
  calls_nodup := by
    -- the task had not called: it still waited for its timer
    have hnew : g ∉ outs.filterMap SearchOutput.called? := by
      intro hmem
      obtain ⟨o, ho, hcalled⟩ := List.mem_filterMap.mp hmem
      cases o with
      | call g' q' =>
        cases hcalled
        obtain ⟨t₀, h₀, hg₀, hp⟩ := hi.called g q' ho
        obtain rfl : t₀ = t := Searching.eq_of_generation_eq hi.nodup h₀ ht (hg₀.trans hg.symm)
        exact hp hw
      | write _ _ => cases hcalled
    have hcall : [SearchOutput.call g q].filterMap SearchOutput.called? = [g] := rfl
    rw [List.filterMap_append, hcall, List.nodup_append]
    refine ⟨hi.calls_nodup, List.nodup_singleton g, fun a ha b hb hab => ?_⟩
    rw [List.mem_singleton] at hb
    subst hb hab
    exact hnew ha
  found_eq := by
    rw [Searching.moveTo_page, shownAfter_append_call]
    exact hi.found_eq

/-- Every event keeps the invariant; a keystroke adds its text to those typed. -/
theorem step (hi : SearchInv st texts outs) (e : SearchEvent) :
    SearchInv (st.step e).1 (texts ++ e.typed?.toList) (outs ++ (st.step e).2) := by
  cases e with
  | keystroke text => simpa [Searching.step, SearchEvent.typed?] using hi.keystroke text
  | expire g =>
    simp only [Searching.step, Searching.expire, SearchEvent.typed?, Option.toList_none,
      List.append_nil]
    cases hfind : st.tasks.find? (fun t => t.generation == g && t.phase == .waiting) with
    | none => simpa using hi
    | some t =>
      have ht := List.mem_of_find?_eq_some hfind
      have hpred := List.find?_some hfind
      simp only [Bool.and_eq_true, beq_iff_eq] at hpred
      dsimp only
      -- the task goes on as the page says once its timer is over
      cases hstart : searchStart g t.text st.page with
      | stale => simpa using hi.moveTo_finished g
      | clear => exact (hi.moveTo_finished g).write g none
      | ask q => exact hi.ask ht hpred.1 hpred.2 (searchStart_eq_ask hstart).2.1
  | reply g r =>
    simp only [Searching.step, Searching.reply, SearchEvent.typed?, Option.toList_none,
      List.append_nil]
    cases st.tasks.find? (fun t => t.generation == g && t.phase.query?.isSome) with
    | none => simpa using hi
    | some t =>
      dsimp only
      -- the answer is shown only while its keystroke is the latest
      cases hans : searchAnswered g r st.page with
      | none => simpa using hi.moveTo_finished g
      | some page =>
        obtain ⟨-, rfl⟩ := searchAnswered_eq_some hans
        exact (hi.moveTo_finished g).write g (some r)

end SearchInv

namespace Searching

theorem run_append_singleton (pre : List SearchEvent) (e : SearchEvent) :
    run (pre ++ [e]) = (((run pre).1.step e).1, (run pre).2 ++ ((run pre).1.step e).2) := by
  simp only [run, List.foldl_append, List.foldl_cons, List.foldl_nil]

end Searching

theorem typed_append_singleton (pre : List SearchEvent) (e : SearchEvent) :
    typed (pre ++ [e]) = typed pre ++ e.typed?.toList := by
  rw [typed, List.filterMap_append, List.filterMap_cons, List.filterMap_nil]
  cases e.typed? <;> rfl

/-- The invariant holds after every run. -/
theorem SearchInv.run (evs : List SearchEvent) :
    SearchInv (Searching.run evs).1 (typed evs) (Searching.run evs).2 := by
  induction evs using List.reverseRecOn with
  | nil => exact .start
  | append_singleton pre e ih =>
    rw [Searching.run_append_singleton, typed_append_singleton]
    exact ih.step e

/-- What the next event outputs is as `Answers` says, given the invariant after the events
before it. -/
theorem SearchInv.answers {st : Searching} {pre : List SearchEvent}
    (hi : SearchInv st (typed pre) (Searching.run pre).2) (e : SearchEvent) :
    ∀ o ∈ (st.step e).2, Answers pre e o := by
  intro o ho
  cases e with
  | keystroke text => simp [Searching.step] at ho
  | expire g =>
    simp only [Searching.step, Searching.expire] at ho
    cases hfind : st.tasks.find? (fun t => t.generation == g && t.phase == .waiting) with
    | none => simp [hfind] at ho
    | some t =>
      rw [hfind] at ho
      have ht := List.mem_of_find?_eq_some hfind
      have hpred := List.find?_some hfind
      simp only [Bool.and_eq_true, beq_iff_eq] at hpred
      cases hstart : searchStart g t.text st.page with
      | stale => simp [hstart] at ho
      | clear =>
        simp only [hstart, List.mem_singleton] at ho
        subst ho
        obtain ⟨hgen, htrim⟩ := searchStart_eq_clear hstart
        -- the timer is that of the latest keystroke, whose text is the task's
        have hlast := hi.latest_text t ht (by rw [hpred.1, hgen, hi.generation_eq])
        exact ⟨hgen.trans hi.generation_eq, .inl ⟨rfl, rfl, by rw [hlast, Option.map_some, htrim]⟩⟩
      | ask q =>
        simp only [hstart, List.mem_singleton] at ho
        subst ho
        obtain ⟨hgen, hq, hne⟩ := searchStart_eq_ask hstart
        have hlast := hi.latest_text t ht (by rw [hpred.1, hgen, hi.generation_eq])
        refine ⟨rfl, hgen.trans hi.generation_eq, by rw [hlast, Option.map_some, hq], hne,
          fun q' hc => ?_⟩
        -- a task that called before would wait for its timer no more
        obtain ⟨t', ht', hg', hp'⟩ := hi.called g q' hc
        obtain rfl : t' = t := Searching.eq_of_generation_eq hi.nodup ht' ht (hg'.trans hpred.1.symm)
        exact hp' hpred.2
  | reply g r =>
    simp only [Searching.step, Searching.reply] at ho
    cases hfind : st.tasks.find? (fun t => t.generation == g && t.phase.query?.isSome) with
    | none => simp [hfind] at ho
    | some t =>
      rw [hfind] at ho
      have ht := List.mem_of_find?_eq_some hfind
      have hpred := List.find?_some hfind
      simp only [Bool.and_eq_true, beq_iff_eq] at hpred
      obtain ⟨q, hq⟩ : ∃ q, t.phase = .asking q := by
        cases hp : t.phase with
        | asking q => exact ⟨q, rfl⟩
        | waiting => simp [hp, TaskPhase.query?] at hpred
        | finished => simp [hp, TaskPhase.query?] at hpred
      cases hans : searchAnswered g r st.page with
      | none => simp [hans] at ho
      | some page =>
        simp only [hans, List.mem_singleton] at ho
        subst ho
        obtain ⟨hgen, rfl⟩ := searchAnswered_eq_some hans
        -- the task asked for its own text, trimmed, and is the latest keystroke's
        obtain ⟨hq', hc⟩ := hi.asking t ht q hq
        have hlast := hi.latest_text t ht (by rw [hpred.1, hgen, hi.generation_eq])
        refine ⟨hgen.trans hi.generation_eq, .inr ⟨r, q, rfl, rfl, ?_, ?_⟩⟩
        · rw [hlast, Option.map_some, hq']
        · rw [← hpred.1]
          exact hc

/-- Searching as you type shows only the newest answer, however keystrokes, timers and replies
interleave. Every call is made by the task of the latest keystroke, when its timer goes off,
for that keystroke's text trimmed, which is not blank, and no task calls twice. The results
are written only by the task of the latest keystroke at the moment of writing: cleared when
its trimmed text is blank, and otherwise set to the reply to its own call. The results shown
are always those of the last write. -/
theorem search_shows_only_newest :
    (∀ pre e, ∀ o ∈ ((Searching.run pre).1.step e).2, Answers pre e o) ∧
    (∀ evs, (Searching.run evs).1.page.found = shownAfter (Searching.run evs).2) ∧
    (∀ evs, ((Searching.run evs).2.filterMap SearchOutput.called?).Nodup) :=
  ⟨fun pre e => (SearchInv.run pre).answers e, fun evs => (SearchInv.run evs).found_eq,
    fun evs => (SearchInv.run evs).calls_nodup⟩

example : (Searching.run [.keystroke "ru", .expire 1, .keystroke "rust", .expire 2,
    .reply 2 (.ok []), .reply 1 (.error "late")]).1.page.found = some (.ok []) := by decide

end StudyPlanner.App.HomePage
