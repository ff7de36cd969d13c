import StudyPlanner.Proofs.WireRead
import StudyPlanner.Proto.Account
import StudyPlanner.Proto.Roadmaps
import StudyPlanner.Proto.Subjects
import StudyPlanner.Proto.Cards
import StudyPlanner.Proto.Topics
/-!
# Request messages read back as themselves

`WireRoundTrip α` says that every message of type `α` reads back from its own bytes. It holds
for every request message the client sends (the instances below), so a request of any of
these types can be carried together with the fact that its bytes decode to it.

Each message is done by one chain of `Proofs.WireRead` lemmas, one link per field in tag
order: from the default, each field read turns the message read so far into one more field
of the message written. A field left out holds its default in both, which is what makes the
chain go through when a value is zero or a text empty. The nested messages, a topic's address
and a card's block, are read back at every depth, so that they can be read one level down.
-/

namespace StudyPlanner.Proto

/-- Wire messages that read back from their own bytes, when there are fewer than `2^64` of
them. -/
class WireRoundTrip (α : Type) [WireMessage α] : Prop where
  decode_encode : ∀ m : α, (WireMessage.encode m).length < 2 ^ 64 →
    WireMessage.decode α (WireMessage.encode m) = .ok m

/-- A message type reads back when every message's fields decode, from the default, to it. -/
theorem WireRoundTrip.of_decodes {α : Type} [WireMessage α]
    (h : ∀ m : α, (WireMessage.encode m).length < 2 ^ 64 →
      Decodes WireMessage.step recursionLimit default (WireMessage.encode m) m []) :
    WireRoundTrip α :=
  ⟨fun m hm => readMessage_of_decodes (h m hm)⟩

/-! ### Messages of scalar fields -/

/-- The empty message is no bytes at all, and reads back from none. -/
theorem Empty.decodes (m : Empty) (depth : Nat) (rest : List UInt8) :
    Decodes step depth default (encode m) m rest :=
  .nil _ _

/-- An id request reads back: its one 64-bit id. -/
theorem IdRequest.decodes (m : IdRequest) (depth : Nat) (rest : List UInt8) :
    Decodes step depth default (encode m) m rest :=
  .last (reads_int64Field (fun _ _ => rfl) (by decide) (by decide) rfl)

/-- A search request reads back: its query text. -/
theorem SearchRequest.decodes (m : SearchRequest) (h : (encode m).length < 2 ^ 64) (depth : Nat)
    (rest : List UInt8) : Decodes step depth default (encode m) m rest :=
  .last (reads_stringField (fun _ _ => rfl) (by decide) (by decide) rfl h)

/-- A sign-in request reads back: email, then password. -/
theorem SignInRequest.decodes (m : SignInRequest) (h : (encode m).length < 2 ^ 64) (depth : Nat)
    (rest : List UInt8) : Decodes step depth default (encode m) m rest := by
  simp only [encode, List.length_append] at h
  exact .field (reads_stringField (fun _ _ => rfl) (by decide) (by decide) rfl (by omega))
    (.last (reads_stringField (fun _ _ => rfl) (by decide) (by decide) rfl (by omega)))

/-- A sign-up request reads back: name, email, then password. -/
theorem SignUpRequest.decodes (m : SignUpRequest) (h : (encode m).length < 2 ^ 64) (depth : Nat)
    (rest : List UInt8) : Decodes step depth default (encode m) m rest := by
  simp only [encode, List.length_append] at h
  simp only [encode, List.append_assoc]
  exact .field (reads_stringField (fun _ _ => rfl) (by decide) (by decide) rfl (by omega))
    (.field (reads_stringField (fun _ _ => rfl) (by decide) (by decide) rfl (by omega))
    (.last (reads_stringField (fun _ _ => rfl) (by decide) (by decide) rfl (by omega))))

/-- A new roadmap reads back: name, then description. -/
theorem CreateRoadmapRequest.decodes (m : CreateRoadmapRequest) (h : (encode m).length < 2 ^ 64)
    (depth : Nat) (rest : List UInt8) : Decodes step depth default (encode m) m rest := by
  simp only [encode, List.length_append] at h
  exact .field (reads_stringField (fun _ _ => rfl) (by decide) (by decide) rfl (by omega))
    (.last (reads_stringField (fun _ _ => rfl) (by decide) (by decide) rfl (by omega)))

/-- A new milestone reads back: roadmap id, subject id, level, name, description, then target
date. -/
theorem CreateMilestoneRequest.decodes (m : CreateMilestoneRequest)
    (h : (encode m).length < 2 ^ 64) (depth : Nat) (rest : List UInt8) :
    Decodes step depth default (encode m) m rest := by
  simp only [encode, List.length_append] at h
  simp only [encode, List.append_assoc]
  exact .field (reads_int64Field (fun _ _ => rfl) (by decide) (by decide) rfl)
    (.field (reads_int64Field (fun _ _ => rfl) (by decide) (by decide) rfl)
    (.field (reads_int32Field (fun _ _ => rfl) (by decide) (by decide) rfl)
    (.field (reads_stringField (fun _ _ => rfl) (by decide) (by decide) rfl (by omega))
    (.field (reads_stringField (fun _ _ => rfl) (by decide) (by decide) rfl (by omega))
    (.last (reads_int64Field (fun _ _ => rfl) (by decide) (by decide) rfl))))))

/-- A new subject reads back: name, then description. -/
theorem CreateSubjectRequest.decodes (m : CreateSubjectRequest) (h : (encode m).length < 2 ^ 64)
    (depth : Nat) (rest : List UInt8) : Decodes step depth default (encode m) m rest := by
  simp only [encode, List.length_append] at h
  exact .field (reads_stringField (fun _ _ => rfl) (by decide) (by decide) rfl (by omega))
    (.last (reads_stringField (fun _ _ => rfl) (by decide) (by decide) rfl (by omega)))

/-- A new resource reads back: name, kind, link, pattern, production and expiry dates, section
count, then subject id. -/
theorem CreateResourceRequest.decodes (m : CreateResourceRequest)
    (h : (encode m).length < 2 ^ 64) (depth : Nat) (rest : List UInt8) :
    Decodes step depth default (encode m) m rest := by
  simp only [encode, List.length_append] at h
  simp only [encode, List.append_assoc]
  exact .field (reads_stringField (fun _ _ => rfl) (by decide) (by decide) rfl (by omega))
    (.field (reads_int32Field (fun _ _ => rfl) (by decide) (by decide) rfl)
    (.field (reads_stringField (fun _ _ => rfl) (by decide) (by decide) rfl (by omega))
    (.field (reads_int32Field (fun _ _ => rfl) (by decide) (by decide) rfl)
    (.field (reads_int64Field (fun _ _ => rfl) (by decide) (by decide) rfl)
    (.field (reads_int64Field (fun _ _ => rfl) (by decide) (by decide) rfl)
    (.field (reads_int32Field (fun _ _ => rfl) (by decide) (by decide) rfl)
    (.last (reads_int64Field (fun _ _ => rfl) (by decide) (by decide) rfl))))))))

/-- Attaching a resource reads back: subject id, then resource id. -/
theorem AddResourceRequest.decodes (m : AddResourceRequest) (depth : Nat) (rest : List UInt8) :
    Decodes step depth default (encode m) m rest :=
  .field (reads_int64Field (fun _ _ => rfl) (by decide) (by decide) rfl)
    (.last (reads_int64Field (fun _ _ => rfl) (by decide) (by decide) rfl))

/-- Moving a card reads back: card id, section id, then position. -/
theorem MoveCardRequest.decodes (m : MoveCardRequest) (depth : Nat) (rest : List UInt8) :
    Decodes step depth default (encode m) m rest := by
  simp only [encode, List.append_assoc]
  exact .field (reads_int64Field (fun _ _ => rfl) (by decide) (by decide) rfl)
    (.field (reads_int64Field (fun _ _ => rfl) (by decide) (by decide) rfl)
    (.last (reads_int32Field (fun _ _ => rfl) (by decide) (by decide) rfl)))

/-- Asking for topics reads back: subject id, then level. -/
theorem GetTopicsRequest.decodes (m : GetTopicsRequest) (depth : Nat) (rest : List UInt8) :
    Decodes step depth default (encode m) m rest :=
  .field (reads_int64Field (fun _ _ => rfl) (by decide) (by decide) rfl)
    (.last (reads_int32Field (fun _ _ => rfl) (by decide) (by decide) rfl))

/-- A new topic reads back: subject id, level, then name. -/
theorem CreateTopicRequest.decodes (m : CreateTopicRequest) (h : (encode m).length < 2 ^ 64)
    (depth : Nat) (rest : List UInt8) : Decodes step depth default (encode m) m rest := by
  simp only [encode, List.length_append] at h
  simp only [encode, List.append_assoc]
  exact .field (reads_int64Field (fun _ _ => rfl) (by decide) (by decide) rfl)
    (.field (reads_int32Field (fun _ _ => rfl) (by decide) (by decide) rfl)
    (.last (reads_stringField (fun _ _ => rfl) (by decide) (by decide) rfl (by omega))))

/-! ### Nested messages, read back at every depth -/

/-- A topic's address reads back at every depth: subject id, level, then position. -/
theorem TopicAddress.decodes (m : TopicAddress) (depth : Nat) (rest : List UInt8) :
    Decodes step depth default (encode m) m rest := by
  simp only [encode, List.append_assoc]
  exact .field (reads_int64Field (fun _ _ => rfl) (by decide) (by decide) rfl)
    (.field (reads_int32Field (fun _ _ => rfl) (by decide) (by decide) rfl)
    (.last (reads_int32Field (fun _ _ => rfl) (by decide) (by decide) rfl)))

/-- A card block reads back at every depth: kind, content, metadata, then extension. -/
theorem Block.decodes (m : Block) (h : (encode m).length < 2 ^ 64) (depth : Nat)
    (rest : List UInt8) : Decodes step depth default (encode m) m rest := by
  simp only [encode, List.length_append] at h
  simp only [encode, List.append_assoc]
  exact .field (reads_int32Field (fun _ _ => rfl) (by decide) (by decide) rfl)
    (.field (reads_stringField (fun _ _ => rfl) (by decide) (by decide) rfl (by omega))
    (.field (reads_stringField (fun _ _ => rfl) (by decide) (by decide) rfl (by omega))
    (.last (reads_stringField (fun _ _ => rfl) (by decide) (by decide) rfl (by omega)))))

/-! ### Messages holding nested ones

These read back at every depth but zero: their nested fields are read one level down. -/

/-- A new card reads back: section id, headline, then its blocks one nested message each, in
order. -/
theorem CreateCardRequest.decodes (m : CreateCardRequest) (h : (encode m).length < 2 ^ 64)
    {depth : Nat} (hdepth : depth ≠ 0) (rest : List UInt8) :
    Decodes step depth default (encode m) m rest := by
  simp only [encode, List.length_append] at h
  rw [← List.append_nil (encode m)]
  simp only [encode, List.append_assoc]
  -- the blocks read so far are the message's own, after its section id and headline
  exact .field (reads_int64Field (fun _ _ => rfl) (by decide) (by decide) rfl)
    (.field (reads_stringField (fun _ _ => rfl) (by decide) (by decide) rfl (by omega))
    (decodes_repeatedField (fun bs => { m with blocks := bs }) (fun _ _ _ => rfl) (by decide)
      (by decide) hdepth (fun y hy => Block.decodes y hy _) (by omega) (.nil _ _)))

/-- Renaming a topic reads back: the topic's address, when there is one, then the new name. -/
theorem EditTopicRequest.decodes (m : EditTopicRequest) (h : (encode m).length < 2 ^ 64)
    {depth : Nat} (hdepth : depth ≠ 0) (rest : List UInt8) :
    Decodes step depth default (encode m) m rest := by
  simp only [encode, List.length_append] at h
  exact .field (reads_optionalField (fun t => ({ topic := t } : EditTopicRequest)) (fun _ _ => rfl)
      (by decide) (by decide) hdepth rfl (by omega) fun y _ => TopicAddress.decodes y _)
    (.last (reads_stringField (fun _ _ => rfl) (by decide) (by decide) rfl (by omega)))

/-- Moving a topic reads back: the topic's address, when there is one, then the target
position. -/
theorem MoveTopicRequest.decodes (m : MoveTopicRequest) (h : (encode m).length < 2 ^ 64)
    {depth : Nat} (hdepth : depth ≠ 0) (rest : List UInt8) :
    Decodes step depth default (encode m) m rest := by
  simp only [encode, List.length_append] at h
  exact .field (reads_optionalField (fun t => ({ topic := t } : MoveTopicRequest)) (fun _ _ => rfl)
      (by decide) (by decide) hdepth rfl (by omega) fun y _ => TopicAddress.decodes y _)
    (.last (reads_int32Field (fun _ _ => rfl) (by decide) (by decide) rfl))

/-- Filing a card reads back: card id, then the topic's address when there is one. -/
theorem AddCardToTopicRequest.decodes (m : AddCardToTopicRequest)
    (h : (encode m).length < 2 ^ 64) {depth : Nat} (hdepth : depth ≠ 0) (rest : List UInt8) :
    Decodes step depth default (encode m) m rest := by
  simp only [encode, List.length_append] at h
  exact .field (reads_int64Field (fun _ _ => rfl) (by decide) (by decide) rfl)
    (.last (reads_optionalField (fun t => { m with topic := t }) (fun _ _ => rfl) (by decide)
      (by decide) hdepth rfl (by omega) fun y _ => TopicAddress.decodes y _))

/-! ### The request messages read back -/

/-- The reader has room for nested messages. -/
theorem recursionLimit_ne_zero : recursionLimit ≠ 0 := by decide

/-- The empty reply and request read back. -/
instance : WireRoundTrip Empty := .of_decodes fun m _ => Empty.decodes m _ _
/-- Id requests read back. -/
instance : WireRoundTrip IdRequest := .of_decodes fun m _ => IdRequest.decodes m _ _
/-- Search requests read back. -/
instance : WireRoundTrip SearchRequest := .of_decodes fun m h => SearchRequest.decodes m h _ _
/-- Sign-in requests read back. -/
instance : WireRoundTrip SignInRequest := .of_decodes fun m h => SignInRequest.decodes m h _ _
/-- Sign-up requests read back. -/
instance : WireRoundTrip SignUpRequest := .of_decodes fun m h => SignUpRequest.decodes m h _ _
/-- New roadmaps read back. -/
instance : WireRoundTrip CreateRoadmapRequest :=
  .of_decodes fun m h => CreateRoadmapRequest.decodes m h _ _
/-- New milestones read back. -/
instance : WireRoundTrip CreateMilestoneRequest :=
  .of_decodes fun m h => CreateMilestoneRequest.decodes m h _ _
/-- New subjects read back. -/
instance : WireRoundTrip CreateSubjectRequest :=
  .of_decodes fun m h => CreateSubjectRequest.decodes m h _ _
/-- New resources read back. -/
instance : WireRoundTrip CreateResourceRequest :=
  .of_decodes fun m h => CreateResourceRequest.decodes m h _ _
/-- Requests attaching a resource read back. -/
instance : WireRoundTrip AddResourceRequest := .of_decodes fun m _ => AddResourceRequest.decodes m _ _
/-- Requests moving a card read back. -/
instance : WireRoundTrip MoveCardRequest := .of_decodes fun m _ => MoveCardRequest.decodes m _ _
/-- Requests for topics read back. -/
instance : WireRoundTrip GetTopicsRequest := .of_decodes fun m _ => GetTopicsRequest.decodes m _ _
/-- New topics read back. -/
instance : WireRoundTrip CreateTopicRequest :=
  .of_decodes fun m h => CreateTopicRequest.decodes m h _ _
/-- Topic addresses read back. -/
instance : WireRoundTrip TopicAddress := .of_decodes fun m _ => TopicAddress.decodes m _ _
/-- New cards read back, with their blocks. -/
instance : WireRoundTrip CreateCardRequest :=
  .of_decodes fun m h => CreateCardRequest.decodes m h recursionLimit_ne_zero _
/-- Requests renaming a topic read back. -/
instance : WireRoundTrip EditTopicRequest :=
  .of_decodes fun m h => EditTopicRequest.decodes m h recursionLimit_ne_zero _
/-- Requests moving a topic read back. -/
instance : WireRoundTrip MoveTopicRequest :=
  .of_decodes fun m h => MoveTopicRequest.decodes m h recursionLimit_ne_zero _
/-- Requests filing a card read back. -/
instance : WireRoundTrip AddCardToTopicRequest :=
  .of_decodes fun m h => AddCardToTopicRequest.decodes m h recursionLimit_ne_zero _

end StudyPlanner.Proto
