import StudyPlanner.Web.Route
import StudyPlanner.Proofs.FormQuery
import StudyPlanner.Proofs.Decimal
/-!
# Page parameters survive navigation

Each study page writes its parameters into the query of its route and reads them back from it.
`navigation_reads_back` says that for all six pages this gives the parameters back, whatever
they hold: ids of any sign and size, any position, any texts (empty ones, and ones with the
characters that shape a query), crumbs present or absent, and any level or card state. So the
route of a destination carries a query that reads as its parameters, and parameters read from
any query read back the same once written again.

The proof reads a written query through `QueryMap.parse_finish` (the query parses to the pairs
written) and looks each key up in those pairs. The lookups are small `simp` lemmas about pairs
(`QueryMap.get?_cons`, `QueryMap.get?_append`); a number reads back by
`Decimal.readInt64?_trim_ofInt`, a kind by `Choice.ofWire_toWire`, and a text left out for being
empty reads as the empty text (`getD_text`). Keys are distinct texts, so every lookup finds the
pair written for it.
-/

namespace StudyPlanner.Model.Choice

variable {α : Type} [Choice α] [DecidableEq α]

/-- A listed value reads back from its wire number, when the list fits the 32-bit numbers. -/
theorem ofWire_toWire {x : α} (hx : x ∈ (all : List α)) (hlen : (all : List α).length ≤ 2147483648) :
    ofWire (toWire x) = x := by
  have hidx := List.idxOf_lt_length_of_mem hx
  have hint : (toWire x).toInt = ((all : List α).idxOf x : Int) :=
    Int32.toInt_ofNat_of_lt (by omega)
  rw [ofWire, if_neg (by omega), hint, Int.toNat_natCast, List.getElem?_eq_getElem hidx,
    List.getElem_idxOf hidx]
  rfl

end StudyPlanner.Model.Choice

namespace StudyPlanner.Web

open StudyPlanner.Text StudyPlanner.Model

/-- A topic level reads back from its wire number. -/
@[simp] theorem topicLevel_ofWire_toWire (x : TopicLevel) : Choice.ofWire (Choice.toWire x) = x :=
  Choice.ofWire_toWire (by cases x <;> decide) (by decide)

/-- A card state reads back from its wire number. -/
@[simp] theorem cardState_ofWire_toWire (x : CardState) : Choice.ofWire (Choice.toWire x) = x :=
  Choice.ofWire_toWire (by cases x <;> decide) (by decide)

/-! ### Looking keys up in written pairs -/

namespace QueryMap

/-- No key is found among no pairs. -/
@[simp] theorem get?_nil (k : String) : ({ pairs := [] } : QueryMap).get? k = none := rfl

/-- A lookup takes the first pair when its key matches, and goes on past it otherwise. -/
@[simp] theorem get?_cons (k' v k : String) (ps : List (String × String)) :
    ({ pairs := (k', v) :: ps } : QueryMap).get? k =
      if k' = k then some v else ({ pairs := ps } : QueryMap).get? k := by
  by_cases h : k' = k <;> simp [get?, h]

/-- A lookup in two runs of pairs finds the key in the first run if it can. -/
@[simp] theorem get?_append (ps qs : List (String × String)) (k : String) :
    ({ pairs := ps ++ qs } : QueryMap).get? k =
      (({ pairs := ps } : QueryMap).get? k).or (({ pairs := qs } : QueryMap).get? k) := by
  simp only [get?, List.find?_append]
  cases ps.find? (fun p => p.1 == k) <;> rfl

/-- A lookup in pairs chosen by a condition is the lookup in the pairs chosen. -/
@[simp] theorem get?_ite (c : Prop) [Decidable c] (ps qs : List (String × String)) (k : String) :
    ({ pairs := if c then ps else qs } : QueryMap).get? k =
      if c then ({ pairs := ps } : QueryMap).get? k else ({ pairs := qs } : QueryMap).get? k := by
  split <;> rfl

end QueryMap

/-- A text written unless empty reads back as itself, empty when it was left out. -/
@[simp] theorem getD_text (v : String) :
    (if v = "" then (none : Option String) else some v).getD "" = v := by
  by_cases h : v = "" <;> simp [h]

/-- A fresh writer has written no pair. -/
@[simp] theorem QueryWriter.empty_pairs : ({} : QueryWriter).pairs = [] := rfl

/-- Pushing a text adds its pair at the end, unless the text is empty. -/
@[simp] theorem QueryWriter.push_pairs (w : QueryWriter) (k v : String) :
    (w.push k v).pairs = if v.isEmpty then w.pairs else w.pairs ++ [(k, v)] := by
  unfold QueryWriter.push
  split <;> rfl

/-- Pushing a number adds its pair, in decimal, at the end. -/
@[simp] theorem QueryWriter.pushInt_pairs (w : QueryWriter) (k : String) (n : Int) :
    (w.pushInt k n).pairs = w.pairs ++ [(k, Decimal.ofInt n)] := rfl

attribute [simp] QueryMap.parse_finish Decimal.readInt64?_trim_ofInt Decimal.readInt32?_trim_ofInt

/-! ### The six pages -/

/-- A roadmap page's id and name read back. -/
theorem RoadmapParams.fromQuery_toQuery (p : RoadmapParams) : fromQuery p.toQuery = .ok p := by
  simp [fromQuery, toQuery, requireInt64, textOf, keyRoadmapId, keyRoadmapName]

/-- A subject page's id, name and roadmap crumb read back, the crumb present or not. -/
theorem SubjectParams.fromQuery_toQuery (p : SubjectParams) : fromQuery p.toQuery = .ok p := by
  obtain ⟨id, name, roadmap⟩ := p
  -- the crumb is written only when present
  cases roadmap <;>
    simp [fromQuery, toQuery, requireInt64, textOf, Crumb.read, Crumb.write, QueryMap.getInt64?,
      keySubjectId, keySubjectName, keyRoadmapId, keyRoadmapName]

/-- A resource page's id, name and its subject and roadmap crumbs read back. -/
theorem ResourceParams.fromQuery_toQuery (p : ResourceParams) : fromQuery p.toQuery = .ok p := by
  obtain ⟨id, name, subject, roadmap⟩ := p
  cases subject <;> cases roadmap <;>
    simp [fromQuery, toQuery, requireInt64, textOf, Crumb.read, Crumb.write, QueryMap.getInt64?,
      keyResourceId, keyResourceName, keySubjectId, keySubjectName, keyRoadmapId, keyRoadmapName]

/-- A section page's id, position and its resource and subject crumbs read back. -/
theorem SectionParams.fromQuery_toQuery (p : SectionParams) : fromQuery p.toQuery = .ok p := by
  obtain ⟨id, position, resource, subject⟩ := p
  cases resource <;> cases subject <;>
    simp [fromQuery, toQuery, requireInt64, textOf, Crumb.read, Crumb.write, QueryMap.getInt64?,
      QueryMap.getInt32D, keySectionId, keyPosition, keyResourceId, keyResourceName, keySubjectId,
      keySubjectName]

/-- A topic page's address (subject, level, position), name and subject name read back. -/
theorem TopicParams.fromQuery_toQuery (p : TopicParams) : fromQuery p.toQuery = .ok p := by
  obtain ⟨⟨subjectId, level, position⟩, name, subjectName⟩ := p
  simp [fromQuery, toQuery, requireInt64, requireInt32, textOf, QueryMap.getInt32D, keySubjectId,
    keyLevel, keyPosition, keyTopicName, keySubjectName, bind, Except.bind, pure, Except.pure]

/-- A card page's id, headline, state and subject crumb read back. -/
theorem CardParams.fromQuery_toQuery (p : CardParams) : fromQuery p.toQuery = .ok p := by
  obtain ⟨id, headline, state, subject⟩ := p
  cases subject <;>
    simp [fromQuery, toQuery, requireInt64, textOf, Crumb.read, Crumb.write, QueryMap.getInt64?,
      QueryMap.getInt32D, keyCardId, keyHeadline, keyState, keySubjectId, keySubjectName]

/-! ### Navigation -/

/-- Parameters that survive navigation to their page: written and read back they are the same,
the route of their destination carries a query that reads as them, and parameters read from
any query read back the same once written again. -/
def ReadsBack {α : Type} (fromQuery : String → Except NavError α) (toQuery : α → String)
    (destination : α → Destination) (route : String → Route) : Prop :=
  (∀ p, fromQuery (toQuery p) = .ok p) ∧
  (∀ p, ∃ q, Route.ofDestination (destination p) = route q ∧ fromQuery q = .ok p) ∧
  (∀ q p, fromQuery q = .ok p → fromQuery (toQuery p) = .ok p)

/-- Parameters read back once their route carries their own query. -/
theorem ReadsBack.of_fromQuery_toQuery {α : Type} {fromQuery : String → Except NavError α}
    {toQuery : α → String} {destination : α → Destination} {route : String → Route}
    (h : ∀ p, fromQuery (toQuery p) = .ok p)
    (hroute : ∀ p, Route.ofDestination (destination p) = route (toQuery p)) :
    ReadsBack fromQuery toQuery destination route :=
  ⟨h, fun p => ⟨toQuery p, hroute p, h p⟩, fun _ p _ => h p⟩

/-- The parameters of every study page survive navigation. -/
theorem navigation_reads_back :
    ReadsBack RoadmapParams.fromQuery RoadmapParams.toQuery .roadmap .roadmap ∧
    ReadsBack SubjectParams.fromQuery SubjectParams.toQuery .subject .subject ∧
    ReadsBack ResourceParams.fromQuery ResourceParams.toQuery .resource .resource ∧
    ReadsBack SectionParams.fromQuery SectionParams.toQuery .section .section ∧
    ReadsBack TopicParams.fromQuery TopicParams.toQuery .topic .topic ∧
    ReadsBack CardParams.fromQuery CardParams.toQuery .card .card :=
  ⟨.of_fromQuery_toQuery RoadmapParams.fromQuery_toQuery fun _ => rfl,
    .of_fromQuery_toQuery SubjectParams.fromQuery_toQuery fun _ => rfl,
    .of_fromQuery_toQuery ResourceParams.fromQuery_toQuery fun _ => rfl,
    .of_fromQuery_toQuery SectionParams.fromQuery_toQuery fun _ => rfl,
    .of_fromQuery_toQuery TopicParams.fromQuery_toQuery fun _ => rfl,
    .of_fromQuery_toQuery CardParams.fromQuery_toQuery fun _ => rfl⟩

end StudyPlanner.Web
