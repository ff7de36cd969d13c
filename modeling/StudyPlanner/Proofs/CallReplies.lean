import StudyPlanner.Proofs.CallRequests
import StudyPlanner.Proofs.Replies
import StudyPlanner.Proofs.Navigation
/-!
# What a call returns

`ClientCall.reply` writes down, for every call of the client, the message type its reply is
read as and the map that turns that message into the call's result. Lists map item by item
(`List.map`), so they keep their length and order, and so do the milestones of a roadmap and
the blocks of a card. Each reply type reads back from its own bytes (`Proofs.Replies`), so the
main statement, `ClientCall.run_returns_mapped_reply`, says that for every call, session and
reply message:

* a transport that answers the call's request with the reply's bytes makes the call return
  the mapped reply;
* a failed exchange is returned as it is, and bytes that do not read as the reply type fail
  the call as a decoding failure;
* a wire number that names no kind reads as the first kind listed, whatever the kind;
* a wire date is no date exactly when it is `0` or outside the calendar's range;
* a milestone's subject id is absent exactly when it is `0` on the wire;
* a listed topic of a known level is addressed at its subject, level and position, so the
  calls that take a topic reach the topic that was listed.

A topic of an unknown level reads at the first level, and is then addressed there
(`topicAddress_reference_of_unknown_level`).
-/

namespace StudyPlanner.Model.Choice

variable {α : Type} [Choice α]

/-- A wire number that names no place in the list reads as the first value. -/
theorem ofWire_of_unlisted {n : Int32} (h : n.toInt < 0 ∨ ((all : List α).length : Int) ≤ n.toInt) :
    ofWire n = (first : α) := by
  unfold ofWire
  split
  · rfl
  · rw [List.getElem?_eq_none (by omega), Option.getD_none]

variable [DecidableEq α]

/-- A wire number that names a place reads as a value whose wire number is that number again,
when no value is listed twice. -/
theorem toWire_ofWire {n : Int32} (h0 : 0 ≤ n.toInt) (hn : n.toInt < ((all : List α).length : Int))
    (hnodup : (all : List α).Nodup) : toWire (ofWire n : α) = n := by
  have hlt : n.toInt.toNat < (all : List α).length := by omega
  rw [ofWire, if_neg (by omega), List.getElem?_eq_getElem hlt, Option.getD_some, toWire,
    hnodup.idxOf_getElem]
  apply Int32.toInt_inj.mp
  rw [Int32.toInt_ofNat_of_lt (by have := Int32.toInt_lt n; omega)]
  omega

end StudyPlanner.Model.Choice

namespace StudyPlanner.Service

open StudyPlanner.Model StudyPlanner.Remote StudyPlanner.Proto

/-! ### Records from the wire -/

/-- The first value of each kind a reply reads is the one listed first. -/
theorem first_eq_head :
    (Choice.all : List CardState).head? = some Choice.first ∧
    (Choice.all : List BlockType).head? = some Choice.first ∧
    (Choice.all : List ResourceType).head? = some Choice.first ∧
    (Choice.all : List ResourcePattern).head? = some Choice.first ∧
    (Choice.all : List TopicLevel).head? = some Choice.first ∧
    (Choice.all : List SearchKind).head? = some Choice.first :=
  ⟨rfl, rfl, rfl, rfl, rfl, rfl⟩

/-- A wire date is a date at its seconds, unless it is `0` or outside the calendar's range. -/
theorem dateOfWire_eq (secs : Int64) :
    dateOfWire secs =
      if secs = 0 ∨ secs.toInt < Calendar.minSeconds ∨ Calendar.maxSeconds < secs.toInt then none
      else some { seconds := secs.toInt } := by
  have hzero : secs.toInt = 0 ↔ secs = 0 := by
    rw [← Int64.toInt_inj]
    rfl
  unfold dateOfWire Calendar.ofEpochSeconds Calendar.Moment.ofTimestamp?
  by_cases h0 : secs = 0
  · rw [if_pos (hzero.mpr h0), if_pos (.inl h0)]
  · by_cases hrange : secs.toInt < Calendar.minSeconds ∨ Calendar.maxSeconds < secs.toInt
    · rw [if_neg (mt hzero.mp h0), if_pos hrange, if_pos (.inr hrange)]
    · rw [if_neg (mt hzero.mp h0), if_neg hrange, if_neg (by decide), if_neg (by omega),
        if_neg (by tauto)]

theorem dateOfWire_eq_none_iff (secs : Int64) :
    dateOfWire secs = none ↔
      secs = 0 ∨ secs.toInt < Calendar.minSeconds ∨ Calendar.maxSeconds < secs.toInt := by
  rw [dateOfWire_eq]
  split <;> simp_all

theorem milestoneOfWire_subjectId_eq_none_iff (m : Proto.Milestone) :
    (milestoneOfWire m).subjectId = none ↔ m.subjectId = 0 := by
  simp only [milestoneOfWire]
  split <;> simp_all

/-- A listed topic of a known level is addressed at its subject, level and position. -/
theorem topicAddress_reference {t : Proto.Topic} (h0 : 0 ≤ t.level.toInt) (h3 : t.level.toInt < 3) :
    topicAddress (topicOfWire t).reference =
      { subjectId := t.subjectId, level := t.level, position := t.position } := by
  have hlevel : Choice.toWire (Choice.ofWire t.level : TopicLevel) = t.level :=
    Choice.toWire_ofWire h0 h3 (by decide)
  simp only [topicAddress, topicOfWire, Topic.reference, hlevel]

/-- A listed topic of an unknown level is read, and so addressed, at the first level. -/
theorem topicAddress_reference_of_unknown_level {t : Proto.Topic}
    (h : t.level.toInt < 0 ∨ 3 ≤ t.level.toInt) :
    topicAddress (topicOfWire t).reference =
      { subjectId := t.subjectId, level := 0, position := t.position } := by
  have hlevel : (Choice.ofWire t.level : TopicLevel) = .surface := Choice.ofWire_of_unlisted h
  simp only [topicAddress, topicOfWire, Topic.reference, hlevel]
  rfl

/-! ### The reply of each call -/

/-- A reply message type whose messages read back from their bytes, and how a reply of that
type becomes a result. -/
structure ReplyReader (α : Type) where
  {Ty : Type}
  [wire : WireMessage Ty]
  [roundTrip : WireRoundTrip Ty]
  map : Ty → α

attribute [instance] ReplyReader.wire ReplyReader.roundTrip

namespace ClientCall

/-- The reply each call reads and the result it makes of it. -/
def reply : (c : ClientCall) → ReplyReader c.Result
  | signIn .. => ⟨signedInOfWire⟩
  | signUp .. => ⟨userOfWire⟩
  | signOut | addResource .. | markSectionReviewed .. | moveCard .. | addCardToTopic ..
  | removeTopic .. | moveTopic .. => ⟨fun (_ : Proto.Empty) => ()⟩
  | getRoadmaps => ⟨fun (l : RoadmapList) => l.roadmaps.map roadmapOfWire⟩
  | getRoadmap .. | createRoadmap .. => ⟨roadmapOfWire⟩
  | getMilestones .. => ⟨fun (l : MilestoneList) => l.milestones.map milestoneOfWire⟩
  | createMilestone .. => ⟨milestoneOfWire⟩
  | getSubjects | searchSubjects .. => ⟨fun (l : SubjectList) => l.subjects.map subjectOfWire⟩
  | createSubject .. => ⟨subjectOfWire⟩
  | search .. => ⟨fun (l : SearchResultList) => l.results.map searchResultOfWire⟩
  | getResources .. => ⟨fun (l : ResourceList) => l.resources.map resourceOfWire⟩
  | createResource .. => ⟨resourceOfWire⟩
  | getSections .. => ⟨fun (l : SectionList) => l.sections.map sectionOfWire⟩
  | getSectionCards .. | getTopicCards .. => ⟨fun (l : CardList) => l.cards.map cardOfWire⟩
  | getCard .. | createCard .. => ⟨cardOfWire⟩
  | getTopics .. => ⟨fun (l : TopicList) => l.topics.map topicOfWire⟩
  | createTopic .. | editTopic .. => ⟨topicOfWire⟩

/-- Each operation reads its reply as `ClientCall.reply` says. -/
theorem read_eq (c : ClientCall) : c.operation.read = readAs c.reply.Ty c.reply.map := by
  cases c <;> rfl

end ClientCall

/-! ### Finishing a call -/

namespace Operation

variable {α : Type} (op : Operation α) (s : Session) (transport : Request → Except CallError (List UInt8))

/-- Bytes that read as a result make the call return it. -/
theorem run_of_read {bs : List UInt8} {v : α} (h : transport (op.prepare s).1 = .ok bs)
    (hread : op.read bs = .ok v) : (op.run transport s).2.1 = .ok v := by
  simp only [run, finish, h, hread]

/-- Bytes that do not read fail the call as a decoding failure. -/
theorem run_of_read_error {bs : List UInt8} {e : DecodeError} (h : transport (op.prepare s).1 = .ok bs)
    (hread : op.read bs = .error e) : (op.run transport s).2.1 = .error (.decode e) := by
  simp only [run, finish, h, hread]

end Operation

/-- Every call maps its reply: answered with the bytes of any reply message of its type, a call
returns that message mapped by `ClientCall.reply`, lists item by item. A failed exchange is
returned as it is and bytes that do not read are a decoding failure. Kinds that the wire
number does not name read as the first kind, the one each kind's list starts with, dates at
`0` or out of range as no date, a milestone's subject id `0` as no subject, and a listed topic
of a known level is addressed where it was listed. -/
theorem ClientCall.run_returns_mapped_reply :
    (∀ (c : ClientCall) (s : Session) (transport : Request → Except CallError (List UInt8))
      (r : c.reply.Ty), (WireMessage.encode r).length < 18446744073709551616 →
      transport (c.operation.prepare s).1 = .ok (WireMessage.encode r) →
      (c.operation.run transport s).2.1 = .ok (c.reply.map r)) ∧
    (∀ (c : ClientCall) (s : Session) (transport : Request → Except CallError (List UInt8))
      (e : CallError), transport (c.operation.prepare s).1 = .error e →
      (c.operation.run transport s).2.1 = .error e) ∧
    (∀ (c : ClientCall) (s : Session) (transport : Request → Except CallError (List UInt8))
      (bs : List UInt8) (e : DecodeError), transport (c.operation.prepare s).1 = .ok bs →
      WireMessage.decode c.reply.Ty bs = .error e →
      (c.operation.run transport s).2.1 = .error (.decode e)) ∧
    (∀ (r : Proto.Roadmap), (roadmapOfWire r).milestones = r.milestones.map milestoneOfWire) ∧
    (∀ (r : Proto.Card), (cardOfWire r).blocks = r.blocks.map blockOfWire) ∧
    (∀ (α : Type) [Choice α] (n : Int32),
      n.toInt < 0 ∨ ((Choice.all : List α).length : Int) ≤ n.toInt →
      (Choice.ofWire n : α) = Choice.first) ∧
    ((Choice.all : List CardState).head? = some Choice.first ∧
      (Choice.all : List BlockType).head? = some Choice.first ∧
      (Choice.all : List ResourceType).head? = some Choice.first ∧
      (Choice.all : List ResourcePattern).head? = some Choice.first ∧
      (Choice.all : List TopicLevel).head? = some Choice.first ∧
      (Choice.all : List SearchKind).head? = some Choice.first) ∧
    (∀ secs : Int64, dateOfWire secs = none ↔
      secs = 0 ∨ secs.toInt < Calendar.minSeconds ∨ Calendar.maxSeconds < secs.toInt) ∧
    (∀ m : Proto.Milestone, (milestoneOfWire m).subjectId = none ↔ m.subjectId = 0) ∧
    (∀ t : Proto.Topic, 0 ≤ t.level.toInt → t.level.toInt < 3 →
      topicAddress (topicOfWire t).reference =
        { subjectId := t.subjectId, level := t.level, position := t.position }) := by
  refine ⟨?_, fun c s transport e h => Operation.run_error _ _ _ h, ?_, fun _ => rfl, fun _ => rfl,
    fun _ _ _ h => Choice.ofWire_of_unlisted h, first_eq_head, dateOfWire_eq_none_iff,
    milestoneOfWire_subjectId_eq_none_iff, fun _ h0 h3 => topicAddress_reference h0 h3⟩
  · intro c s transport r hlen h
    apply Operation.run_of_read _ _ _ h
    rw [ClientCall.read_eq, readAs, WireRoundTrip.decode_encode r hlen]
    rfl
  · intro c s transport bs e h hbad
    apply Operation.run_of_read_error _ _ _ h
    rw [ClientCall.read_eq, readAs, hbad]
    rfl

/-- A card whose state number names no state comes back a draft, its blocks in order with a
block of an unknown kind as text; a topic listed at the last level is addressed there. -/
theorem card_reply_falls_back_to_draft :
    ((ClientCall.getCard 7).operation.run
        (fun _ => .ok (Proto.Card.encode
          { id := 7, headline := "Rings", state := 9, position := 2,
            blocks := [{ kind := 1, content := "ring" }, { kind := 5, content := "?" }] })) {}).2.1 =
      .ok ({ id := 7, headline := "Rings", state := .draft, position := 2,
             blocks := [{ kind := .code, content := "ring" }, { kind := .text, content := "?" }] } :
          Model.Card) ∧
    topicAddress (topicOfWire { subjectId := 4, level := 2, position := 3, name := "Rings" }).reference =
      { subjectId := 4, level := 2, position := 3 } :=
  ⟨ClientCall.run_returns_mapped_reply.1 (.getCard 7) {} _
      ({ id := 7, headline := "Rings", state := 9, position := 2,
         blocks := [{ kind := 1, content := "ring" }, { kind := 5, content := "?" }] } : Proto.Card)
      (by decide +kernel) rfl,
    ClientCall.run_returns_mapped_reply.2.2.2.2.2.2.2.2.2 _ (by decide) (by decide)⟩

end StudyPlanner.Service
