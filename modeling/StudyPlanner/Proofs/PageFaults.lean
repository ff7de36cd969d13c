import StudyPlanner.Web.Nav
import StudyPlanner.Proofs.Decimal
/-!
# A page's query fails only on its required keys

Each study page reads its parameters from a query. The keys a page requires are integer ids
(64-bit), and for a topic its subject id and then its 32-bit position. `FirstFault q keys e`
says that `e` is how the first of `keys`, in order, fails in the query `q`: `missing key` when
the key is absent, and `invalid key v` when its first value `v`, trimmed, is not a decimal
integer of the key's width (the value reported as it was, untrimmed).

The main statement, `page_query_fails_on_required_keys`, says that for each of the six pages
and every query, reading fails with `e` exactly when `FirstFault` holds for the page's required
keys, so the optional parts never fail: a crumb whose id does not read is left out, and a
section's position, a topic's level and a card's state read as zero when their key does not
read.

Both required readers are one reader, `requireWith`, given the parser of its width, and its
failure is `KeyFault` (`requireWith_eq_error_iff`). The number parsers are specified by
`Decimal.Writes` (`Proofs.Decimal`).
-/

namespace StudyPlanner.Web

open StudyPlanner.Text StudyPlanner.Model

/-! ### Keys that read and keys that fail -/

/-- The widths of the integers a page's keys hold. -/
inductive Width where
  | int64
  | int32
  deriving DecidableEq, Repr

/-- A text is a decimal integer of the width. -/
def Width.Reads : Width → String → Prop
  | .int64, s => ∃ n : Int64, Decimal.Writes s.toList n.toInt
  | .int32, s => ∃ n : Int32, Decimal.Writes s.toList n.toInt

/-- A key reads: its first value, trimmed, is an integer of the width. -/
def KeyReads (q : QueryMap) (key : String) (w : Width) : Prop :=
  ∃ v, q.get? key = some v ∧ w.Reads (trim v)

/-- How a required key fails: it is absent, or its first value, trimmed, is not an integer of
the width, and the failure carries that value untrimmed. -/
def KeyFault (q : QueryMap) (key : String) (w : Width) (e : NavError) : Prop :=
  (q.get? key = none ∧ e = .missing key) ∨
    ∃ v, q.get? key = some v ∧ ¬ w.Reads (trim v) ∧ e = .invalid key v

/-- The failure of the first key of the list, in order, that does not read. -/
inductive FirstFault (q : QueryMap) : List (String × Width) → NavError → Prop
  | here {key : String} {w : Width} {rest : List (String × Width)} {e : NavError} :
      KeyFault q key w e → FirstFault q ((key, w) :: rest) e
  | later {key : String} {w : Width} {rest : List (String × Width)} {e : NavError} :
      KeyReads q key w → FirstFault q rest e → FirstFault q ((key, w) :: rest) e

theorem not_firstFault_nil {q : QueryMap} {e : NavError} : ¬ FirstFault q [] e := nofun

theorem firstFault_cons_iff {q : QueryMap} {key : String} {w : Width}
    {rest : List (String × Width)} {e : NavError} :
    FirstFault q ((key, w) :: rest) e ↔ KeyFault q key w e ∨ KeyReads q key w ∧ FirstFault q rest e := by
  constructor
  · rintro (hfault | ⟨hreads, hrest⟩)
    · exact .inl hfault
    · exact .inr ⟨hreads, hrest⟩
  · rintro (hfault | ⟨hreads, hrest⟩)
    · exact .here hfault
    · exact .later hreads hrest

theorem firstFault_singleton_iff {q : QueryMap} {key : String} {w : Width} {e : NavError} :
    FirstFault q [(key, w)] e ↔ KeyFault q key w e := by
  rw [firstFault_cons_iff]
  exact ⟨fun h => h.elim id fun h => absurd h.2 not_firstFault_nil, .inl⟩

theorem readInt64?_eq_none_iff_not_reads {s : String} :
    Decimal.readInt64? s = none ↔ ¬ Width.int64.Reads s :=
  Decimal.readInt64?_eq_none_iff

theorem readInt32?_eq_none_iff_not_reads {s : String} :
    Decimal.readInt32? s = none ↔ ¬ Width.int32.Reads s :=
  Decimal.readInt32?_eq_none_iff

/-! ### The required reader -/

/-- A required key read with the parser of its width, applied to the trimmed first value. -/
def requireWith {β : Type} (read : String → Option β) (q : QueryMap) (key : String) :
    Except NavError β :=
  match q.get? key with
  | none => .error (.missing key)
  | some v =>
    match read (trim v) with
    | some n => .ok n
    | none => .error (.invalid key v)

/-- The 64-bit reader is the reader of 64-bit numbers. -/
theorem requireInt64_eq (q : QueryMap) (key : String) :
    requireInt64 q key = requireWith Decimal.readInt64? q key := by
  unfold requireInt64 requireWith
  cases q.get? key with
  | none => rfl
  | some v =>
    dsimp only
    cases Decimal.readInt64? (trim v) <;> rfl

/-- The 32-bit reader is the reader of 32-bit numbers. -/
theorem requireInt32_eq (q : QueryMap) (key : String) :
    requireInt32 q key = requireWith Decimal.readInt32? q key := by
  unfold requireInt32 requireWith
  cases q.get? key with
  | none => rfl
  | some v =>
    dsimp only
    cases Decimal.readInt32? (trim v) <;> rfl

section Reader

variable {β : Type} {read : String → Option β} {w : Width}
  (hread : ∀ s, read s = none ↔ ¬ w.Reads s) (q : QueryMap) (key : String)
include hread

/-- A text the parser reads is an integer of the width. -/
theorem reads_of_read_eq_some {s : String} {n : β} (hn : read s = some n) : w.Reads s :=
  Classical.byContradiction fun hbad => by
    rw [(hread s).mpr hbad] at hn
    cases hn

/-- The reader fails exactly as `KeyFault` says. -/
theorem requireWith_eq_error_iff (e : NavError) :
    requireWith read q key = .error e ↔ KeyFault q key w e := by
  unfold KeyFault
  cases hv : q.get? key with
  | none => simp [requireWith, hv, eq_comm]
  | some v =>
    cases hn : read (trim v) with
    | none =>
      have hbad : ¬ w.Reads (trim v) := (hread _).mp hn
      simp [requireWith, hv, hn, hbad, eq_comm]
    | some n =>
      have hgood : w.Reads (trim v) := reads_of_read_eq_some hread hn
      simp [requireWith, hv, hn, hgood]

/-- The reader gives a number exactly when the key reads. -/
theorem requireWith_ok_iff : (∃ n, requireWith read q key = .ok n) ↔ KeyReads q key w := by
  unfold KeyReads
  cases hv : q.get? key with
  | none => simp [requireWith, hv]
  | some v =>
    cases hn : read (trim v) with
    | none =>
      have hbad : ¬ w.Reads (trim v) := (hread _).mp hn
      simp [requireWith, hv, hn, hbad]
    | some n =>
      have hgood : w.Reads (trim v) := reads_of_read_eq_some hread hn
      simp [requireWith, hv, hn, hgood]

end Reader

theorem requireInt64_eq_error_iff (q : QueryMap) (key : String) (e : NavError) :
    requireInt64 q key = .error e ↔ KeyFault q key .int64 e := by
  rw [requireInt64_eq]
  exact requireWith_eq_error_iff (fun _ => readInt64?_eq_none_iff_not_reads) q key e

theorem requireInt32_eq_error_iff (q : QueryMap) (key : String) (e : NavError) :
    requireInt32 q key = .error e ↔ KeyFault q key .int32 e := by
  rw [requireInt32_eq]
  exact requireWith_eq_error_iff (fun _ => readInt32?_eq_none_iff_not_reads) q key e

theorem requireInt64_ok_iff (q : QueryMap) (key : String) :
    (∃ n, requireInt64 q key = .ok n) ↔ KeyReads q key .int64 := by
  rw [requireInt64_eq]
  exact requireWith_ok_iff (fun _ => readInt64?_eq_none_iff_not_reads) q key

/-! ### The optional parts -/

/-- The reading of an optional number: the number when the key reads. -/
theorem getInt64?_eq_none_iff (q : QueryMap) (key : String) :
    q.getInt64? key = none ↔ ¬ KeyReads q key .int64 := by
  unfold QueryMap.getInt64? KeyReads
  cases hv : q.get? key with
  | none => simp
  | some v => simp only [Option.bind_some, readInt64?_eq_none_iff_not_reads, Option.some.injEq,
      exists_eq_left']

/-- A crumb is left out exactly when its id does not read; its name is then ignored. -/
theorem Crumb.read_eq_none_iff (q : QueryMap) (idKey nameKey : String) :
    Crumb.read q idKey nameKey = none ↔ ¬ KeyReads q idKey .int64 := by
  rw [Crumb.read, Option.map_eq_none_iff, getInt64?_eq_none_iff]

/-- A 32-bit number whose key does not read falls back to the default. -/
theorem getInt32D_of_not_reads {q : QueryMap} {key : String} (h : ¬ KeyReads q key .int32)
    (d : Int32) : q.getInt32D key d = d := by
  unfold QueryMap.getInt32D
  cases hv : q.get? key with
  | none => rfl
  | some v =>
    have hbad : ¬ Width.int32.Reads (trim v) := fun hgood => h ⟨v, hv, hgood⟩
    rw [Option.bind_some, readInt32?_eq_none_iff_not_reads.mpr hbad, Option.getD_none]

/-! ### The six pages -/

theorem bind_pure_eq_error_iff {ε α β : Type} (x : Except ε α) (f : α → β) (e : ε) :
    (x >>= fun a => pure (f a)) = .error e ↔ x = .error e := by
  cases x <;> simp [bind, Except.bind, pure, Except.pure]

theorem bind_pure_eq_ok_iff {ε α β : Type} (x : Except ε α) (f : α → β) (b : β) :
    (x >>= fun a => pure (f a)) = .ok b ↔ ∃ a, x = .ok a ∧ f a = b := by
  cases x <;> simp [bind, Except.bind, pure, Except.pure]

theorem RoadmapParams.fromQuery_eq_error_iff (query : String) (e : NavError) :
    fromQuery query = .error e ↔ FirstFault (QueryMap.parse query) [(keyRoadmapId, .int64)] e := by
  rw [fromQuery, bind_pure_eq_error_iff, requireInt64_eq_error_iff, firstFault_singleton_iff]

theorem SubjectParams.fromQuery_eq_error_iff (query : String) (e : NavError) :
    fromQuery query = .error e ↔ FirstFault (QueryMap.parse query) [(keySubjectId, .int64)] e := by
  rw [fromQuery, bind_pure_eq_error_iff, requireInt64_eq_error_iff, firstFault_singleton_iff]

theorem ResourceParams.fromQuery_eq_error_iff (query : String) (e : NavError) :
    fromQuery query = .error e ↔
      FirstFault (QueryMap.parse query) [(keyResourceId, .int64)] e := by
  rw [fromQuery, bind_pure_eq_error_iff, requireInt64_eq_error_iff, firstFault_singleton_iff]

theorem SectionParams.fromQuery_eq_error_iff (query : String) (e : NavError) :
    fromQuery query = .error e ↔ FirstFault (QueryMap.parse query) [(keySectionId, .int64)] e := by
  rw [fromQuery, bind_pure_eq_error_iff, requireInt64_eq_error_iff, firstFault_singleton_iff]

theorem CardParams.fromQuery_eq_error_iff (query : String) (e : NavError) :
    fromQuery query = .error e ↔ FirstFault (QueryMap.parse query) [(keyCardId, .int64)] e := by
  rw [fromQuery, bind_pure_eq_error_iff, requireInt64_eq_error_iff, firstFault_singleton_iff]

/-- A topic's query checks the subject id, then the position. -/
theorem TopicParams.fromQuery_eq_error_iff (query : String) (e : NavError) :
    fromQuery query = .error e ↔
      FirstFault (QueryMap.parse query) [(keySubjectId, .int64), (keyPosition, .int32)] e := by
  rw [firstFault_cons_iff, firstFault_singleton_iff, ← requireInt64_eq_error_iff,
    ← requireInt32_eq_error_iff, ← requireInt64_ok_iff, fromQuery]
  -- the subject id first: when it reads, the position decides
  cases requireInt64 (QueryMap.parse query) keySubjectId with
  | error e' => simp [bind, Except.bind]
  | ok n =>
    cases requireInt32 (QueryMap.parse query) keyPosition <;>
      simp [bind, Except.bind, pure, Except.pure]

theorem SectionParams.position_of_not_reads {query : String} {p : SectionParams}
    (hp : fromQuery query = .ok p) (h : ¬ KeyReads (QueryMap.parse query) keyPosition .int32) :
    p.position = 0 := by
  rw [fromQuery, bind_pure_eq_ok_iff] at hp
  obtain ⟨_, -, rfl⟩ := hp
  exact getInt32D_of_not_reads h 0

theorem CardParams.state_of_not_reads {query : String} {p : CardParams}
    (hp : fromQuery query = .ok p) (h : ¬ KeyReads (QueryMap.parse query) keyState .int32) :
    p.state = .draft := by
  rw [fromQuery, bind_pure_eq_ok_iff] at hp
  obtain ⟨_, -, rfl⟩ := hp
  dsimp only
  rw [getInt32D_of_not_reads h 0]
  rfl

theorem TopicParams.level_of_not_reads {query : String} {p : TopicParams}
    (hp : fromQuery query = .ok p) (h : ¬ KeyReads (QueryMap.parse query) keyLevel .int32) :
    p.topic.level = .surface := by
  rw [fromQuery] at hp
  cases hsubject : requireInt64 (QueryMap.parse query) keySubjectId with
  | error e => simp [hsubject, bind, Except.bind] at hp
  | ok n =>
    cases hposition : requireInt32 (QueryMap.parse query) keyPosition with
    | error e => simp [hsubject, hposition, bind, Except.bind] at hp
    | ok m =>
      simp only [hsubject, hposition, bind, Except.bind, pure, Except.pure, Except.ok.injEq] at hp
      rw [← hp]
      dsimp only
      rw [getInt32D_of_not_reads h 0]
      rfl

/-! ### The pages together -/

/-- Reading a page's query fails exactly on the first of its required keys that does not read,
with that key's failure: the roadmap, subject, resource, section and card pages require their
64-bit id, the topic page its subject id and then its 32-bit position. Nothing optional fails:
a crumb whose id does not read is left out, and a section's position, a topic's level and a
card's state whose key does not read are read as zero. -/
theorem page_query_fails_on_required_keys :
    (∀ query e, RoadmapParams.fromQuery query = .error e ↔
      FirstFault (QueryMap.parse query) [(keyRoadmapId, .int64)] e) ∧
    (∀ query e, SubjectParams.fromQuery query = .error e ↔
      FirstFault (QueryMap.parse query) [(keySubjectId, .int64)] e) ∧
    (∀ query e, ResourceParams.fromQuery query = .error e ↔
      FirstFault (QueryMap.parse query) [(keyResourceId, .int64)] e) ∧
    (∀ query e, SectionParams.fromQuery query = .error e ↔
      FirstFault (QueryMap.parse query) [(keySectionId, .int64)] e) ∧
    (∀ query e, TopicParams.fromQuery query = .error e ↔
      FirstFault (QueryMap.parse query) [(keySubjectId, .int64), (keyPosition, .int32)] e) ∧
    (∀ query e, CardParams.fromQuery query = .error e ↔
      FirstFault (QueryMap.parse query) [(keyCardId, .int64)] e) ∧
    (∀ q idKey nameKey, Crumb.read q idKey nameKey = none ↔ ¬ KeyReads q idKey .int64) ∧
    (∀ query (p : SectionParams), SectionParams.fromQuery query = .ok p →
      ¬ KeyReads (QueryMap.parse query) keyPosition .int32 → p.position = 0) ∧
    (∀ query (p : TopicParams), TopicParams.fromQuery query = .ok p →
      ¬ KeyReads (QueryMap.parse query) keyLevel .int32 → p.topic.level = .surface) ∧
    (∀ query (p : CardParams), CardParams.fromQuery query = .ok p →
      ¬ KeyReads (QueryMap.parse query) keyState .int32 → p.state = .draft) :=
  ⟨RoadmapParams.fromQuery_eq_error_iff, SubjectParams.fromQuery_eq_error_iff,
    ResourceParams.fromQuery_eq_error_iff, SectionParams.fromQuery_eq_error_iff,
    TopicParams.fromQuery_eq_error_iff, CardParams.fromQuery_eq_error_iff, Crumb.read_eq_none_iff,
    fun _ _ hp h => SectionParams.position_of_not_reads hp h,
    fun _ _ hp h => TopicParams.level_of_not_reads hp h,
    fun _ _ hp h => CardParams.state_of_not_reads hp h⟩

/-- A roadmap page without its id names the missing key; a topic page whose subject id reads
and whose position is not a number reports the position as it was written. -/
theorem topic_query_reports_raw_position :
    RoadmapParams.fromQuery "roadmapName=Rings" = .error (.missing "roadmapId") ∧
    TopicParams.fromQuery "subjectId=3&position=%20x" = .error (.invalid "position" " x") :=
  ⟨(page_query_fails_on_required_keys.1 _ _).mpr (.here (.inl ⟨by decide +kernel, rfl⟩)),
    (page_query_fails_on_required_keys.2.2.2.2.1 _ _).mpr
      (.later ⟨"3", by decide +kernel, 3, Decimal.readInt64?_eq_some_iff.mp (by decide)⟩
        (.here (.inr ⟨" x", by decide +kernel, readInt32?_eq_none_iff_not_reads.mp (by decide),
          rfl⟩)))⟩

end StudyPlanner.Web
