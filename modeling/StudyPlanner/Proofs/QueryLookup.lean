import StudyPlanner.Proofs.Navigation
/-!
# Looking keys up in a written query

A query is written by a sequence of steps on a new `QueryWriter`: a text pair, left out when its
value is empty, or a number pair, written in decimal (`QueryStep`). Whatever the keys and values,
the written text answers every lookup as the steps say, `written_query_answers_first_pair`:

* it holds neither `?` nor `#`, so it can stand as the query of a location, between a path
  (without `?`) and a fragment, and the location parses as the bare text does
  (`QueryMap.parse_location`);
* looking a key up gives the value of the first step that wrote a pair with that key, or nothing
  when no step did (`QueryStep.get?_parse_finish`);
* a key whose first pair was written as a number reads back as that number, in 64 bits and, when
  it fits, in 32 (`QueryStep.getInt64?_of_first_number`).

The parse is `QueryMap.parse_finish`: a written query parses to the pairs written. Here a run of
steps is followed to its pairs (`QueryStep.pairs_write`, one step at a time), and the lookup in
those pairs is a first match.
-/

namespace StudyPlanner.Web

open StudyPlanner.Text

/-- One step of writing a query. -/
inductive QueryStep where
  /-- A text pair, skipped when the value is empty. -/
  | text (key value : String)
  /-- A number pair. -/
  | number (key : String) (value : Int64)
  deriving Repr

namespace QueryStep

/-- Takes a step on a writer. -/
def apply (w : QueryWriter) : QueryStep → QueryWriter
  | .text k v => w.push k v
  | .number k n => w.pushInt k n.toInt

/-- The writer after a sequence of steps on a new one. -/
def write (steps : List QueryStep) : QueryWriter := steps.foldl apply {}

/-- The pair a step writes, if any: a text pair when its value is not empty, and a number pair
in decimal. -/
def written? : QueryStep → Option (String × String)
  | .text k v => if v.isEmpty then none else some (k, v)
  | .number k n => some (k, Decimal.ofInt n.toInt)

/-- The value of the first pair that steps wrote with a key. -/
def firstValue (steps : List QueryStep) (k : String) : Option String :=
  ((steps.filterMap written?).find? fun p => p.1 == k).map Prod.snd

theorem apply_pairs (w : QueryWriter) (st : QueryStep) :
    (apply w st).pairs = w.pairs ++ st.written?.toList := by
  cases st with
  | text k v => by_cases hv : v.isEmpty <;> simp [apply, written?, hv]
  | number k n => simp [apply, written?]

/-- Steps add the pairs they write to a writer's, in order. -/
theorem pairs_foldl (steps : List QueryStep) (w : QueryWriter) :
    (steps.foldl apply w).pairs = w.pairs ++ steps.filterMap written? := by
  induction steps generalizing w with
  | nil => simp
  | cons st steps ih =>
    rw [List.foldl_cons, ih, apply_pairs, List.append_assoc, List.filterMap_cons]
    cases st.written? <;> rfl

/-- A run of steps writes the pairs of its steps, in order. -/
theorem pairs_write (steps : List QueryStep) : (write steps).pairs = steps.filterMap written? := by
  rw [write, pairs_foldl]
  rfl

/-- Looking a key up in a written query gives the first value written with it. -/
theorem get?_parse_finish (steps : List QueryStep) (k : String) :
    (QueryMap.parse (write steps).finish).get? k = firstValue steps k := by
  rw [QueryMap.parse_finish, pairs_write]
  rfl

/-- The first value of a key is the one of a step before which no step wrote the key. -/
theorem firstValue_of_first {pre post : List QueryStep} {st : QueryStep} {k v : String}
    (hpre : ∀ s ∈ pre, ∀ p ∈ s.written?, p.1 ≠ k) (hst : st.written? = some (k, v)) :
    firstValue (pre ++ st :: post) k = some v := by
  have hnone : (pre.filterMap written?).find? (fun p => p.1 == k) = none := by
    rw [List.find?_eq_none]
    intro p hp
    obtain ⟨s, hs, hsp⟩ := List.mem_filterMap.mp hp
    simpa using hpre s hs p hsp
  rw [firstValue, List.filterMap_append, List.find?_append, hnone, Option.none_or,
    List.filterMap_cons_some hst]
  simp

/-- A key first written as a number reads back as that number: in 64 bits, and in 32 bits
whenever it fits, whatever the default. -/
theorem getInt64?_of_first_number {pre post : List QueryStep} {k : String} {n : Int64}
    (hpre : ∀ s ∈ pre, ∀ p ∈ s.written?, p.1 ≠ k) :
    (QueryMap.parse (write (pre ++ number k n :: post)).finish).getInt64? k = some n ∧
      ∀ d, -2147483648 ≤ n.toInt → n.toInt < 2147483648 →
        ((QueryMap.parse (write (pre ++ number k n :: post)).finish).getInt32D k d).toInt =
          n.toInt := by
  have hget := get?_parse_finish (pre ++ number k n :: post) k
  rw [firstValue_of_first hpre rfl] at hget
  refine ⟨by rw [QueryMap.getInt64?, hget, Option.bind_some, Decimal.readInt64?_trim_ofInt], ?_⟩
  intro d hlo hhi
  -- the decimal of `n` is that of the 32-bit number with the same value
  have hfit : (Int32.ofInt n.toInt).toInt = n.toInt := Int32.toInt_ofInt_of_le (by omega) (by omega)
  have hread : Decimal.readInt32? (trim (Decimal.ofInt n.toInt)) = some (Int32.ofInt n.toInt) := by
    rw [← hfit, Decimal.readInt32?_trim_ofInt, hfit]
  rw [QueryMap.getInt32D, hget, Option.bind_some, hread, Option.getD_some, hfit]

end QueryStep

/-- A written query holds neither `?` nor `#`. -/
theorem QueryWriter.marks_not_mem_finish (w : QueryWriter) :
    '?' ∉ w.finish.toList ∧ '#' ∉ w.finish.toList := by
  have hmarks : ∀ c ∈ w.finish.toList, c ≠ '?' ∧ c ≠ '#' := by
    rw [finish_toList]
    refine forall_mem_intercalate (by decide) _ fun q hq c hc => ?_
    obtain ⟨p, -, rfl⟩ := List.mem_map.mp hq
    exact (pieceOf_facts p c hc).2
  exact ⟨fun h => (hmarks '?' h).1 rfl, fun h => (hmarks '#' h).2 rfl⟩

/-- The query part of a location is what stands between its first `?` and the first `#` after
it. -/
theorem queryPart_location {path query frag : List Char} (hpath : '?' ∉ path) (hquery : '#' ∉ query) :
    queryPart (path ++ '?' :: query ++ '#' :: frag) = query := by
  have hspan : (path ++ '?' :: (query ++ '#' :: frag)).span (· != '?') =
      (path, '?' :: (query ++ '#' :: frag)) := by
    have hpos : ∀ c ∈ path, (c != '?') = true := fun c hc => by
      simpa using fun h : c = '?' => hpath (h ▸ hc)
    rw [List.span_eq_takeWhile_dropWhile, List.takeWhile_append_of_pos hpos,
      List.dropWhile_append_of_pos hpos]
    simp
  have hquery' : ∀ c ∈ query, (c != '#') = true := fun c hc => by
    simpa using fun h : c = '#' => hquery (h ▸ hc)
  rw [queryPart, List.append_assoc, List.cons_append, hspan]
  simp only [List.takeWhile_append_of_pos hquery', List.takeWhile_cons, bne_self_eq_false,
    Bool.false_eq_true, if_false, List.append_nil]

/-- A written query reads the same as the query of a location, after a path without `?` and
before a fragment. -/
theorem QueryMap.parse_location (w : QueryWriter) (path frag : String) (hpath : '?' ∉ path.toList) :
    QueryMap.parse (path ++ "?" ++ w.finish ++ "#" ++ frag) = QueryMap.parse w.finish := by
  have hlocation : (path ++ "?" ++ w.finish ++ "#" ++ frag).toList =
      path.toList ++ '?' :: w.finish.toList ++ '#' :: frag.toList := by
    simp [String.toList_append]
  have hbare : queryPart w.finish.toList = w.finish.toList := by
    have hmarks := w.marks_not_mem_finish
    exact queryPart_of_forall fun c hc =>
      ⟨fun h => hmarks.1 (h ▸ hc), fun h => hmarks.2 (h ▸ hc)⟩
  unfold QueryMap.parse
  rw [hlocation, queryPart_location hpath w.marks_not_mem_finish.2, hbare]

/-- A query written by any steps answers as the steps say. It holds neither `?` nor `#`, and
the location made of a path, the query and a fragment reads as the query alone. A key's lookup
gives the value of the first step that wrote a pair with it (a text step with an empty value
writes none), and a key first written by a number step reads back as that number, in 64 bits
and, when it fits, in 32. -/
theorem written_query_answers_first_pair (steps : List QueryStep) :
    ('?' ∉ (QueryStep.write steps).finish.toList ∧ '#' ∉ (QueryStep.write steps).finish.toList) ∧
    (∀ k, (QueryMap.parse (QueryStep.write steps).finish).get? k = QueryStep.firstValue steps k) ∧
    (∀ path frag, '?' ∉ path.toList →
      QueryMap.parse (path ++ "?" ++ (QueryStep.write steps).finish ++ "#" ++ frag) =
        QueryMap.parse (QueryStep.write steps).finish) ∧
    (∀ pre k n post, steps = pre ++ .number k n :: post →
      (∀ s ∈ pre, ∀ p ∈ s.written?, p.1 ≠ k) →
      (QueryMap.parse (QueryStep.write steps).finish).getInt64? k = some n ∧
      ∀ d, -2147483648 ≤ n.toInt → n.toInt < 2147483648 →
        ((QueryMap.parse (QueryStep.write steps).finish).getInt32D k d).toInt = n.toInt) := by
  refine ⟨(QueryStep.write steps).marks_not_mem_finish, QueryStep.get?_parse_finish steps,
    fun path frag hpath => QueryMap.parse_location _ path frag hpath, ?_⟩
  rintro pre k n post rfl hpre
  exact QueryStep.getInt64?_of_first_number hpre

end StudyPlanner.Web
