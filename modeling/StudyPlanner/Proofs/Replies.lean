import StudyPlanner.Proofs.Requests
import StudyPlanner.Proto.Search
/-!
# Every wire message reads back as itself

`Proofs.Requests` reads back the messages the client sends; this module does the same for the
service's replies and the records nested in them, and assembles `wire_messages_read_back`:
each of the thirty-seven message types of the schema reads back from its own bytes.

The proofs are the chains of `Proofs.WireRead`, one link per field in tag order. Replies nest
deeper than requests: a list of roadmaps holds roadmaps, which hold milestones, and a list of
cards holds cards, which hold blocks. So the decoding lemma of a message holding nested ones
asks for as many levels of depth as it nests, and a list of such messages for one more; the
reader's limit of a hundred levels gives them all.
-/

namespace StudyPlanner.Proto

/-! ### Records of scalar fields -/

/-- A sign-in answer reads back: token, name, then email. -/
theorem SignInResponse.decodes (m : SignInResponse) (h : (encode m).length < 2 ^ 64)
    (depth : Nat) (rest : List UInt8) : Decodes step depth default (encode m) m rest := by
  simp only [encode, List.length_append] at h
  simp only [encode, List.append_assoc]
  exact .field (reads_stringField (fun _ _ => rfl) (by decide) (by decide) rfl (by omega))
    (.field (reads_stringField (fun _ _ => rfl) (by decide) (by decide) rfl (by omega))
    (.last (reads_stringField (fun _ _ => rfl) (by decide) (by decide) rfl (by omega))))

/-- A user reads back: name, then email. -/
theorem User.decodes (m : User) (h : (encode m).length < 2 ^ 64) (depth : Nat)
    (rest : List UInt8) : Decodes step depth default (encode m) m rest := by
  simp only [encode, List.length_append] at h
  exact .field (reads_stringField (fun _ _ => rfl) (by decide) (by decide) rfl (by omega))
    (.last (reads_stringField (fun _ _ => rfl) (by decide) (by decide) rfl (by omega)))

/-- A milestone reads back at every depth: id, name, description, target date, whether it is
completed, subject id, then level. -/
theorem Milestone.decodes (m : Milestone) (h : (encode m).length < 2 ^ 64) (depth : Nat)
    (rest : List UInt8) : Decodes step depth default (encode m) m rest := by
  simp only [encode, List.length_append] at h
  simp only [encode, List.append_assoc]
  exact .field (reads_int64Field (fun _ _ => rfl) (by decide) (by decide) rfl)
    (.field (reads_stringField (fun _ _ => rfl) (by decide) (by decide) rfl (by omega))
    (.field (reads_stringField (fun _ _ => rfl) (by decide) (by decide) rfl (by omega))
    (.field (reads_int64Field (fun _ _ => rfl) (by decide) (by decide) rfl)
    (.field (reads_boolField (fun _ _ => rfl) (by decide) (by decide) rfl)
    (.field (reads_int64Field (fun _ _ => rfl) (by decide) (by decide) rfl)
    (.last (reads_int32Field (fun _ _ => rfl) (by decide) (by decide) rfl)))))))

/-- A subject reads back at every depth: id, name, then description. -/
theorem Subject.decodes (m : Subject) (h : (encode m).length < 2 ^ 64) (depth : Nat)
    (rest : List UInt8) : Decodes step depth default (encode m) m rest := by
  simp only [encode, List.length_append] at h
  simp only [encode, List.append_assoc]
  exact .field (reads_int64Field (fun _ _ => rfl) (by decide) (by decide) rfl)
    (.field (reads_stringField (fun _ _ => rfl) (by decide) (by decide) rfl (by omega))
    (.last (reads_stringField (fun _ _ => rfl) (by decide) (by decide) rfl (by omega))))

/-- A resource reads back at every depth: id, name, kind, link, pattern, production and expiry
dates, then order. -/
theorem Resource.decodes (m : Resource) (h : (encode m).length < 2 ^ 64) (depth : Nat)
    (rest : List UInt8) : Decodes step depth default (encode m) m rest := by
  simp only [encode, List.length_append] at h
  simp only [encode, List.append_assoc]
  exact .field (reads_int64Field (fun _ _ => rfl) (by decide) (by decide) rfl)
    (.field (reads_stringField (fun _ _ => rfl) (by decide) (by decide) rfl (by omega))
    (.field (reads_int32Field (fun _ _ => rfl) (by decide) (by decide) rfl)
    (.field (reads_stringField (fun _ _ => rfl) (by decide) (by decide) rfl (by omega))
    (.field (reads_int32Field (fun _ _ => rfl) (by decide) (by decide) rfl)
    (.field (reads_int64Field (fun _ _ => rfl) (by decide) (by decide) rfl)
    (.field (reads_int64Field (fun _ _ => rfl) (by decide) (by decide) rfl)
    (.last (reads_int32Field (fun _ _ => rfl) (by decide) (by decide) rfl))))))))

/-- A section reads back at every depth: id, position, whether it is reviewed, then card
count. -/
theorem Section.decodes (m : Section) (depth : Nat) (rest : List UInt8) :
    Decodes step depth default (encode m) m rest := by
  simp only [encode, List.append_assoc]
  exact .field (reads_int64Field (fun _ _ => rfl) (by decide) (by decide) rfl)
    (.field (reads_int32Field (fun _ _ => rfl) (by decide) (by decide) rfl)
    (.field (reads_boolField (fun _ _ => rfl) (by decide) (by decide) rfl)
    (.last (reads_int32Field (fun _ _ => rfl) (by decide) (by decide) rfl))))

/-- A topic reads back at every depth: subject id, level, position, then name. -/
theorem Topic.decodes (m : Topic) (h : (encode m).length < 2 ^ 64) (depth : Nat)
    (rest : List UInt8) : Decodes step depth default (encode m) m rest := by
  simp only [encode, List.length_append] at h
  simp only [encode, List.append_assoc]
  exact .field (reads_int64Field (fun _ _ => rfl) (by decide) (by decide) rfl)
    (.field (reads_int32Field (fun _ _ => rfl) (by decide) (by decide) rfl)
    (.field (reads_int32Field (fun _ _ => rfl) (by decide) (by decide) rfl)
    (.last (reads_stringField (fun _ _ => rfl) (by decide) (by decide) rfl (by omega)))))

/-- A search hit reads back at every depth: kind, id, name, then description. -/
theorem SearchResult.decodes (m : SearchResult) (h : (encode m).length < 2 ^ 64) (depth : Nat)
    (rest : List UInt8) : Decodes step depth default (encode m) m rest := by
  simp only [encode, List.length_append] at h
  simp only [encode, List.append_assoc]
  exact .field (reads_int32Field (fun _ _ => rfl) (by decide) (by decide) rfl)
    (.field (reads_int64Field (fun _ _ => rfl) (by decide) (by decide) rfl)
    (.field (reads_stringField (fun _ _ => rfl) (by decide) (by decide) rfl (by omega))
    (.last (reads_stringField (fun _ _ => rfl) (by decide) (by decide) rfl (by omega)))))

/-! ### Records holding a list of records

These read back at every depth but zero: their elements are read one level down. -/

/-- A roadmap reads back: id, name, description, then its milestones in order. -/
theorem Roadmap.decodes (m : Roadmap) (h : (encode m).length < 2 ^ 64) {depth : Nat}
    (hdepth : depth ≠ 0) (rest : List UInt8) : Decodes step depth default (encode m) m rest := by
  simp only [encode, List.length_append] at h
  rw [← List.append_nil (encode m)]
  simp only [encode, List.append_assoc]
  -- the milestones read so far are the roadmap's own, after its id, name and description
  exact .field (reads_int64Field (fun _ _ => rfl) (by decide) (by decide) rfl)
    (.field (reads_stringField (fun _ _ => rfl) (by decide) (by decide) rfl (by omega))
    (.field (reads_stringField (fun _ _ => rfl) (by decide) (by decide) rfl (by omega))
    (decodes_repeatedField (fun ms => { m with milestones := ms }) (fun _ _ _ => rfl) (by decide)
      (by decide) hdepth (fun y hy => Milestone.decodes y hy _) (by omega) (.nil _ _))))

/-- A card reads back: id, headline, state, position, then its blocks in order. -/
theorem Card.decodes (m : Card) (h : (encode m).length < 2 ^ 64) {depth : Nat}
    (hdepth : depth ≠ 0) (rest : List UInt8) : Decodes step depth default (encode m) m rest := by
  simp only [encode, List.length_append] at h
  rw [← List.append_nil (encode m)]
  simp only [encode, List.append_assoc]
  exact .field (reads_int64Field (fun _ _ => rfl) (by decide) (by decide) rfl)
    (.field (reads_stringField (fun _ _ => rfl) (by decide) (by decide) rfl (by omega))
    (.field (reads_int32Field (fun _ _ => rfl) (by decide) (by decide) rfl)
    (.field (reads_int32Field (fun _ _ => rfl) (by decide) (by decide) rfl)
    (decodes_repeatedField (fun bs => { m with blocks := bs }) (fun _ _ _ => rfl) (by decide)
      (by decide) hdepth (fun y hy => Block.decodes y hy _) (by omega) (.nil _ _)))))

/-! ### Lists

A list message is one repeated field: from the empty list, each element read is appended. -/

/-- A list of milestones reads back, one nested message each, in order. -/
theorem MilestoneList.decodes (m : MilestoneList) (h : (encode m).length < 2 ^ 64) {depth : Nat}
    (hdepth : depth ≠ 0) (rest : List UInt8) : Decodes step depth default (encode m) m rest := by
  rw [← List.append_nil (encode m)]
  exact decodes_repeatedField (fun ms => ({ milestones := ms } : MilestoneList)) (fun _ _ _ => rfl) (by decide)
    (by decide) hdepth (fun y hy => Milestone.decodes y hy _) h (.nil _ _)

/-- A list of subjects reads back, one nested message each, in order. -/
theorem SubjectList.decodes (m : SubjectList) (h : (encode m).length < 2 ^ 64) {depth : Nat}
    (hdepth : depth ≠ 0) (rest : List UInt8) : Decodes step depth default (encode m) m rest := by
  rw [← List.append_nil (encode m)]
  exact decodes_repeatedField (fun xs => ({ subjects := xs } : SubjectList)) (fun _ _ _ => rfl) (by decide)
    (by decide) hdepth (fun y hy => Subject.decodes y hy _) h (.nil _ _)

/-- A list of resources reads back, one nested message each, in order. -/
theorem ResourceList.decodes (m : ResourceList) (h : (encode m).length < 2 ^ 64) {depth : Nat}
    (hdepth : depth ≠ 0) (rest : List UInt8) : Decodes step depth default (encode m) m rest := by
  rw [← List.append_nil (encode m)]
  exact decodes_repeatedField (fun xs => ({ resources := xs } : ResourceList)) (fun _ _ _ => rfl) (by decide)
    (by decide) hdepth (fun y hy => Resource.decodes y hy _) h (.nil _ _)

/-- A list of sections reads back, one nested message each, in order. -/
theorem SectionList.decodes (m : SectionList) (h : (encode m).length < 2 ^ 64) {depth : Nat}
    (hdepth : depth ≠ 0) (rest : List UInt8) : Decodes step depth default (encode m) m rest := by
  rw [← List.append_nil (encode m)]
  exact decodes_repeatedField (fun xs => ({ sections := xs } : SectionList)) (fun _ _ _ => rfl) (by decide)
    (by decide) hdepth (fun y _ => Section.decodes y _) h (.nil _ _)

/-- A list of topics reads back, one nested message each, in order. -/
theorem TopicList.decodes (m : TopicList) (h : (encode m).length < 2 ^ 64) {depth : Nat}
    (hdepth : depth ≠ 0) (rest : List UInt8) : Decodes step depth default (encode m) m rest := by
  rw [← List.append_nil (encode m)]
  exact decodes_repeatedField (fun xs => ({ topics := xs } : TopicList)) (fun _ _ _ => rfl) (by decide)
    (by decide) hdepth (fun y hy => Topic.decodes y hy _) h (.nil _ _)

/-- A list of search hits reads back, one nested message each, in order. -/
theorem SearchResultList.decodes (m : SearchResultList) (h : (encode m).length < 2 ^ 64)
    {depth : Nat} (hdepth : depth ≠ 0) (rest : List UInt8) :
    Decodes step depth default (encode m) m rest := by
  rw [← List.append_nil (encode m)]
  exact decodes_repeatedField (fun xs => ({ results := xs } : SearchResultList)) (fun _ _ _ => rfl) (by decide)
    (by decide) hdepth (fun y hy => SearchResult.decodes y hy _) h (.nil _ _)

/-- Roadmaps are read one level down, and their milestones one more. -/
theorem RoadmapList.decodes (m : RoadmapList) (h : (encode m).length < 2 ^ 64) {depth : Nat}
    (hdepth : 2 ≤ depth) (rest : List UInt8) : Decodes step depth default (encode m) m rest := by
  rw [← List.append_nil (encode m)]
  exact decodes_repeatedField (fun xs => ({ roadmaps := xs } : RoadmapList)) (fun _ _ _ => rfl) (by decide)
    (by decide) (by omega) (fun y hy => Roadmap.decodes y hy (by omega)) h (.nil _ _)

/-- Cards are read one level down, and their blocks one more. -/
theorem CardList.decodes (m : CardList) (h : (encode m).length < 2 ^ 64) {depth : Nat}
    (hdepth : 2 ≤ depth) (rest : List UInt8) : Decodes step depth default (encode m) m rest := by
  rw [← List.append_nil (encode m)]
  exact decodes_repeatedField (fun xs => ({ cards := xs } : CardList)) (fun _ _ _ => rfl) (by decide)
    (by decide) (by omega) (fun y hy => Card.decodes y hy (by omega)) h (.nil _ _)

/-! ### The replies read back -/

/-- The reader has room for two levels of nesting: a list of roadmaps or of cards. -/
theorem two_le_recursionLimit : 2 ≤ recursionLimit := by decide

/-- Sign-in answers read back. -/
instance : WireRoundTrip SignInResponse := .of_decodes fun m h => SignInResponse.decodes m h _ _
/-- Users read back. -/
instance : WireRoundTrip User := .of_decodes fun m h => User.decodes m h _ _
/-- Milestones read back. -/
instance : WireRoundTrip Milestone := .of_decodes fun m h => Milestone.decodes m h _ _
/-- Subjects read back. -/
instance : WireRoundTrip Subject := .of_decodes fun m h => Subject.decodes m h _ _
/-- Resources read back. -/
instance : WireRoundTrip Resource := .of_decodes fun m h => Resource.decodes m h _ _
/-- Sections read back. -/
instance : WireRoundTrip Section := .of_decodes fun m _ => Section.decodes m _ _
/-- Topics read back. -/
instance : WireRoundTrip Topic := .of_decodes fun m h => Topic.decodes m h _ _
/-- Search hits read back. -/
instance : WireRoundTrip SearchResult := .of_decodes fun m h => SearchResult.decodes m h _ _
/-- Card blocks read back. -/
instance : WireRoundTrip Block := .of_decodes fun m h => Block.decodes m h _ _
/-- Roadmaps, with their milestones, read back. -/
instance : WireRoundTrip Roadmap :=
  .of_decodes fun m h => Roadmap.decodes m h recursionLimit_ne_zero _
/-- Cards, with their blocks, read back. -/
instance : WireRoundTrip Card := .of_decodes fun m h => Card.decodes m h recursionLimit_ne_zero _
/-- Lists of milestones read back. -/
instance : WireRoundTrip MilestoneList :=
  .of_decodes fun m h => MilestoneList.decodes m h recursionLimit_ne_zero _
/-- Lists of subjects read back. -/
instance : WireRoundTrip SubjectList :=
  .of_decodes fun m h => SubjectList.decodes m h recursionLimit_ne_zero _
/-- Lists of resources read back. -/
instance : WireRoundTrip ResourceList :=
  .of_decodes fun m h => ResourceList.decodes m h recursionLimit_ne_zero _
/-- Lists of sections read back. -/
instance : WireRoundTrip SectionList :=
  .of_decodes fun m h => SectionList.decodes m h recursionLimit_ne_zero _
/-- Lists of topics read back. -/
instance : WireRoundTrip TopicList :=
  .of_decodes fun m h => TopicList.decodes m h recursionLimit_ne_zero _
/-- Lists of search hits read back. -/
instance : WireRoundTrip SearchResultList :=
  .of_decodes fun m h => SearchResultList.decodes m h recursionLimit_ne_zero _
/-- Lists of roadmaps read back. -/
instance : WireRoundTrip RoadmapList :=
  .of_decodes fun m h => RoadmapList.decodes m h two_le_recursionLimit _
/-- Lists of cards read back. -/
instance : WireRoundTrip CardList := .of_decodes fun m h => CardList.decodes m h two_le_recursionLimit _

/-- Every message type of the schema reads back from its own bytes: the requests, the replies,
and the records nested in them. -/
theorem wire_messages_read_back :
    -- account
    WireRoundTrip Empty ∧ WireRoundTrip IdRequest ∧ WireRoundTrip SearchRequest ∧
    WireRoundTrip SignInRequest ∧ WireRoundTrip SignInResponse ∧ WireRoundTrip SignUpRequest ∧
    WireRoundTrip User ∧
    -- roadmaps
    WireRoundTrip Milestone ∧ WireRoundTrip Roadmap ∧ WireRoundTrip RoadmapList ∧
    WireRoundTrip MilestoneList ∧ WireRoundTrip CreateRoadmapRequest ∧
    WireRoundTrip CreateMilestoneRequest ∧
    -- subjects, resources and sections
    WireRoundTrip Subject ∧ WireRoundTrip SubjectList ∧ WireRoundTrip CreateSubjectRequest ∧
    WireRoundTrip Resource ∧ WireRoundTrip ResourceList ∧ WireRoundTrip CreateResourceRequest ∧
    WireRoundTrip AddResourceRequest ∧ WireRoundTrip Section ∧ WireRoundTrip SectionList ∧
    -- cards
    WireRoundTrip Block ∧ WireRoundTrip Card ∧ WireRoundTrip CardList ∧
    WireRoundTrip CreateCardRequest ∧ WireRoundTrip MoveCardRequest ∧
    -- topics
    WireRoundTrip TopicAddress ∧ WireRoundTrip Topic ∧ WireRoundTrip TopicList ∧
    WireRoundTrip GetTopicsRequest ∧ WireRoundTrip CreateTopicRequest ∧
    WireRoundTrip EditTopicRequest ∧ WireRoundTrip MoveTopicRequest ∧
    WireRoundTrip AddCardToTopicRequest ∧
    -- search
    WireRoundTrip SearchResult ∧ WireRoundTrip SearchResultList :=
  ⟨inferInstance, inferInstance, inferInstance, inferInstance, inferInstance, inferInstance,
    inferInstance, inferInstance, inferInstance, inferInstance, inferInstance, inferInstance,
    inferInstance, inferInstance, inferInstance, inferInstance, inferInstance, inferInstance,
    inferInstance, inferInstance, inferInstance, inferInstance, inferInstance, inferInstance,
    inferInstance, inferInstance, inferInstance, inferInstance, inferInstance, inferInstance,
    inferInstance, inferInstance, inferInstance, inferInstance, inferInstance, inferInstance,
    inferInstance⟩

end StudyPlanner.Proto
