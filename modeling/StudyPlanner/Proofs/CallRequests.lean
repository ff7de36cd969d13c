import StudyPlanner.Proofs.Client
import StudyPlanner.Proofs.Requests
/-!
# What a call sends

Every call of the client is one exchange with the transport, and what it sends is fixed by
its arguments and the session. `ClientCall.request` writes the request message of each call
down from its arguments alone, field by field: an absent subject id is `0`, a kind is its wire
number, a topic is its address (subject, level, position), a date is its whole epoch seconds
(`0` for none), a resource's section count is capped at the largest 32-bit number, and blocks
keep their order and fields. The main statement, `ClientCall.run_sends_request`, says that for
every call and every session:

* the request names the call's method;
* its metadata is the device id, then the session token unless the call signs in or up;
* its body reads back as `ClientCall.request`;
* the outcome depends on the transport only through its answer to that one request, and a
  failed exchange is returned as it is.

The body is the request's bytes (`ClientCall.body_eq_encode`: a case per call, three of which
convert a date, a section count or blocks), and a request of any type reads back from its bytes
(`RequestMessage.decode_encode`, from `Proto.WireRoundTrip`).
-/

namespace StudyPlanner.Service

open StudyPlanner.Model StudyPlanner.Remote StudyPlanner.Proto

/-- A request message of a wire type whose messages read back from their bytes. -/
structure RequestMessage where
  {Ty : Type}
  [wire : WireMessage Ty]
  [roundTrip : WireRoundTrip Ty]
  value : Ty

attribute [instance] RequestMessage.wire RequestMessage.roundTrip

namespace RequestMessage

/-- The bytes of a request message. -/
def encode (m : RequestMessage) : List UInt8 := WireMessage.encode m.value

/-- Bytes read as a message of the request's type. -/
def decode (m : RequestMessage) (bs : List UInt8) : Except DecodeError m.Ty :=
  WireMessage.decode m.Ty bs

theorem decode_encode (m : RequestMessage) (h : m.encode.length < 2 ^ 64) :
    m.decode m.encode = .ok m.value :=
  WireRoundTrip.decode_encode m.value h

end RequestMessage

/-! ### The requests, from the arguments -/

namespace ClientCall

/-- The name of the remote method a call invokes. -/
def methodName : ClientCall → String
  | signIn .. => "SignIn"
  | signUp .. => "SignUp"
  | signOut => "SignOut"
  | getRoadmaps => "GetRoadmaps"
  | getRoadmap .. => "GetRoadmap"
  | createRoadmap .. => "CreateRoadmap"
  | getMilestones .. => "GetMilestones"
  | createMilestone .. => "CreateMilestone"
  | getSubjects => "GetSubjects"
  | createSubject .. => "CreateSubject"
  | searchSubjects .. => "SearchSubjects"
  | search .. => "Search"
  | getResources .. => "GetResources"
  | createResource .. => "CreateResource"
  | addResource .. => "AddResource"
  | getSections .. => "GetSections"
  | markSectionReviewed .. => "MarkSectionReviewed"
  | getSectionCards .. => "GetSectionCards"
  | getTopicCards .. => "GetTopicCards"
  | getCard .. => "GetCard"
  | createCard .. => "CreateCard"
  | moveCard .. => "MoveCard"
  | addCardToTopic .. => "AddCardToTopic"
  | getTopics .. => "GetTopics"
  | createTopic .. => "CreateTopic"
  | editTopic .. => "EditTopic"
  | removeTopic .. => "RemoveTopic"
  | moveTopic .. => "MoveTopic"

/-- The request message a call sends, from its arguments. -/
def request : ClientCall → RequestMessage
  | signIn email password => ⟨({ email, password } : SignInRequest)⟩
  | signUp name email password => ⟨({ name, email, password } : SignUpRequest)⟩
  | signOut | getRoadmaps | getSubjects => ⟨({} : Proto.Empty)⟩
  | getRoadmap id | getMilestones id | getResources id | getSections id
  | markSectionReviewed id | getSectionCards id | getCard id => ⟨({ id } : IdRequest)⟩
  | createRoadmap name description => ⟨({ name, description } : CreateRoadmapRequest)⟩
  | createMilestone roadmapId subjectId level name description targetDate =>
    ⟨({ roadmapId, subjectId := subjectId.getD 0, level := Choice.toWire level, name, description,
        targetDate := seconds targetDate } : CreateMilestoneRequest)⟩
  | createSubject name description => ⟨({ name, description } : CreateSubjectRequest)⟩
  | searchSubjects query | search query => ⟨({ query } : SearchRequest)⟩
  | createResource r =>
    ⟨({ name := r.name, kind := Choice.toWire r.kind, link := r.link,
        pattern := Choice.toWire r.pattern, production := seconds r.production,
        expiration := seconds r.expiration, sections := Int32.ofNat (min r.sections.toNat 2147483647),
        subjectId := r.subjectId } : CreateResourceRequest)⟩
  | addResource subjectId resourceId => ⟨({ subjectId, resourceId } : AddResourceRequest)⟩
  | getTopicCards topic | removeTopic topic => ⟨address topic⟩
  | createCard sectionId headline blocks =>
    ⟨({ sectionId, headline,
        blocks := blocks.map fun b =>
          { kind := Choice.toWire b.kind, content := b.content, metadata := b.metadata,
            extension := b.extension } } : CreateCardRequest)⟩
  | moveCard cardId sectionId position => ⟨({ cardId, sectionId, position } : MoveCardRequest)⟩
  | addCardToTopic cardId topic =>
    ⟨({ cardId, topic := some (address topic) } : AddCardToTopicRequest)⟩
  | getTopics subjectId level =>
    ⟨({ subjectId, level := Choice.toWire level } : GetTopicsRequest)⟩
  | createTopic subjectId level name =>
    ⟨({ subjectId, level := Choice.toWire level, name } : CreateTopicRequest)⟩
  | editTopic topic name => ⟨({ topic := some (address topic), name } : EditTopicRequest)⟩
  | moveTopic topic targetPosition =>
    ⟨({ topic := some (address topic), targetPosition } : MoveTopicRequest)⟩
where
  /-- A date's whole epoch seconds, `0` for none. -/
  seconds (d : Option Calendar.Moment) : Int64 := Int64.ofInt ((d.map (·.seconds)).getD 0)
  /-- A topic's address: its subject, level and position. -/
  address (t : TopicRef) : TopicAddress :=
    { subjectId := t.subjectId, level := Choice.toWire t.level, position := t.position }

end ClientCall

/-! ### The operations build those requests -/

theorem dateToWire_eq (d : Option Calendar.Moment) :
    dateToWire d = ClientCall.request.seconds d := by
  cases d <;> rfl

/-- The wire count of sections is the count capped at the largest 32-bit number. -/
theorem sectionsToWire_eq (n : UInt32) :
    sectionsToWire n = Int32.ofNat (min n.toNat 2147483647) := by
  unfold sectionsToWire
  split
  · rw [Nat.min_eq_left (by omega)]
  · rw [Nat.min_eq_right (by omega)]
    rfl

namespace ClientCall

theorem operation_method (c : ClientCall) : c.operation.method = c.methodName := by
  cases c <;> rfl

/-- A call's body is the bytes of its request. -/
theorem body_eq_encode (c : ClientCall) : c.operation.body = c.request.encode := by
  cases c with
  | createMilestone roadmapId subjectId level name description targetDate =>
    show CreateMilestoneRequest.encode _ = CreateMilestoneRequest.encode _
    rw [dateToWire_eq]
    rfl
  | createResource r =>
    show CreateResourceRequest.encode _ = CreateResourceRequest.encode _
    rw [newResourceToWire, dateToWire_eq, dateToWire_eq, sectionsToWire_eq]
    rfl
  | _ => rfl

end ClientCall

/-! ### Running an operation -/

namespace Operation

variable {α : Type} (op : Operation α) (s : Session) (transport : Request → Except CallError (List UInt8))

@[simp] theorem run_request : (op.run transport s).1 = (op.prepare s).1 := rfl

/-- The outcome depends on the transport only through its answer to the prepared request. -/
theorem run_congr {other : Request → Except CallError (List UInt8)}
    (h : other (op.prepare s).1 = transport (op.prepare s).1) :
    op.run other s = op.run transport s := by
  simp only [run, h]

/-- A failed exchange is the call's failure. -/
theorem run_error {e : CallError} (h : transport (op.prepare s).1 = .error e) :
    (op.run transport s).2.1 = .error e := by
  simp only [run, finish, h]

end Operation

/-- Every call sends one request, and it is the request its arguments and the session
determine: the call's method, the device id and (unless it signs in or up) the token read at
the moment of the call, and a body that reads back as `ClientCall.request`. The outcome
depends on the transport only through its answer to that request, and a failed exchange is
returned as it is. -/
theorem ClientCall.run_sends_request (c : ClientCall) (s : Session)
    (hlen : c.operation.body.length < 2 ^ 64)
    (transport : Request → Except CallError (List UInt8)) :
    let out := c.operation.run transport s
    out.1.method = c.methodName ∧
    out.1.metadata.entries =
      (if c.anonymous then [("device", s.device.1)]
        else [("device", s.device.1), ("token", s.token)]) ∧
    c.request.decode out.1.body = .ok c.request.value ∧
    (∀ other : Request → Except CallError (List UInt8), other out.1 = transport out.1 →
      c.operation.run other s = out) ∧
    (∀ e, transport out.1 = .error e → out.2.1 = .error e) := by
  intro out
  have hbody : out.1.body = c.request.encode := c.body_eq_encode
  refine ⟨c.operation_method, ?_, ?_, fun other h => Operation.run_congr _ _ _ h,
    fun e h => Operation.run_error _ _ _ h⟩
  · -- the token goes with every call but signing in and up
    rw [Operation.run_request, Operation.prepare_metadata, operation_withToken]
    cases c.anonymous <;> rfl
  · rw [hbody]
    rw [body_eq_encode] at hlen
    exact c.request.decode_encode hlen

/-- A milestone without a subject, dated half a second before the epoch, on a fresh session:
its request reads back with subject id `0`, the level's wire number and the date floored to
`-1`. -/
theorem milestone_request_reads_back :
    (ClientCall.createMilestone 3 none .depth "Rings" "" (some { seconds := -1, nanos := 500000000 })
      ).operation.body.length < 2 ^ 64 ∧
    WireMessage.decode CreateMilestoneRequest
      ((ClientCall.createMilestone 3 none .depth "Rings" "" (some { seconds := -1, nanos := 500000000 })
        ).operation.prepare {}).1.body =
      .ok { roadmapId := 3, subjectId := 0, level := 1, name := "Rings", targetDate := -1 } :=
  ⟨by decide +kernel, (ClientCall.run_sends_request
    (.createMilestone 3 none .depth "Rings" "" (some { seconds := -1, nanos := 500000000 })) {}
    (by decide +kernel) (fun _ => .error (.transport "offline"))).2.2.1⟩

end StudyPlanner.Service
