import StudyPlanner.Proto.Message
/-!
# Wire messages: topics of subjects, and filing cards under them

Each message lists its fields with their tags; `encode` writes them in tag order and
`step` reads one of them. Errors name the message and the field as the service's schema
does.
-/

namespace StudyPlanner.Proto

/-- The address of a topic: subject, level and position. -/
structure TopicAddress where
  subjectId : Int64 := 0
  level : Int32 := 0
  position : Int32 := 0
  deriving DecidableEq, Repr, Inhabited

namespace TopicAddress

/-- The fields of a `TopicAddress`, in tag order. -/
def encode (m : TopicAddress) : List UInt8 :=
  int64Field 1 m.subjectId ++ int32Field 2 m.level ++ int32Field 3 m.position

/-- Reads one field of a `TopicAddress`. -/
def step : FieldStep TopicAddress := fun m tag w depth bs =>
  match tag with
  | 1 => field "TopicAddress" "subject_id" (readInt64 w bs) fun v => { m with subjectId := v }
  | 2 => field "TopicAddress" "level" (readInt32 w bs) fun v => { m with level := v }
  | 3 => field "TopicAddress" "position" (readInt32 w bs) fun v => { m with position := v }
  | _ => skipUnknown m tag w depth bs

instance : WireMessage TopicAddress := { encode, step }

end TopicAddress

/-- A topic of a subject. -/
structure Topic where
  subjectId : Int64 := 0
  level : Int32 := 0
  position : Int32 := 0
  name : String := ""
  deriving DecidableEq, Repr, Inhabited

namespace Topic

/-- The fields of a `Topic`, in tag order. -/
def encode (m : Topic) : List UInt8 :=
  int64Field 1 m.subjectId ++ int32Field 2 m.level ++ int32Field 3 m.position ++
    stringField 4 m.name

/-- Reads one field of a `Topic`. -/
def step : FieldStep Topic := fun m tag w depth bs =>
  match tag with
  | 1 => field "Topic" "subject_id" (readInt64 w bs) fun v => { m with subjectId := v }
  | 2 => field "Topic" "level" (readInt32 w bs) fun v => { m with level := v }
  | 3 => field "Topic" "position" (readInt32 w bs) fun v => { m with position := v }
  | 4 => field "Topic" "name" (readString w bs) fun v => { m with name := v }
  | _ => skipUnknown m tag w depth bs

instance : WireMessage Topic := { encode, step }

end Topic

/-- A list of topics. -/
structure TopicList where
  topics : List Topic := []
  deriving DecidableEq, Repr, Inhabited

namespace TopicList

/-- The fields of a `TopicList`, in tag order. -/
def encode (m : TopicList) : List UInt8 :=
  repeatedField 1 Topic.encode m.topics

/-- Reads one field of a `TopicList`. -/
def step : FieldStep TopicList := fun m tag w depth bs =>
  match tag with
  | 1 => field "TopicList" "topics" (readNested Topic.step default w depth bs) fun v =>
      { m with topics := m.topics ++ [v] }
  | _ => skipUnknown m tag w depth bs

instance : WireMessage TopicList := { encode, step }

end TopicList

/-- Asks for the topics of a subject on one level. -/
structure GetTopicsRequest where
  subjectId : Int64 := 0
  level : Int32 := 0
  deriving DecidableEq, Repr, Inhabited

namespace GetTopicsRequest

/-- The fields of a `GetTopicsRequest`, in tag order. -/
def encode (m : GetTopicsRequest) : List UInt8 :=
  int64Field 1 m.subjectId ++ int32Field 2 m.level

/-- Reads one field of a `GetTopicsRequest`. -/
def step : FieldStep GetTopicsRequest := fun m tag w depth bs =>
  match tag with
  | 1 => field "GetTopicsRequest" "subject_id" (readInt64 w bs) fun v => { m with subjectId := v }
  | 2 => field "GetTopicsRequest" "level" (readInt32 w bs) fun v => { m with level := v }
  | _ => skipUnknown m tag w depth bs

instance : WireMessage GetTopicsRequest := { encode, step }

end GetTopicsRequest

/-- A new topic. -/
structure CreateTopicRequest where
  subjectId : Int64 := 0
  level : Int32 := 0
  name : String := ""
  deriving DecidableEq, Repr, Inhabited

namespace CreateTopicRequest

/-- The fields of a `CreateTopicRequest`, in tag order. -/
def encode (m : CreateTopicRequest) : List UInt8 :=
  int64Field 1 m.subjectId ++ int32Field 2 m.level ++ stringField 3 m.name

/-- Reads one field of a `CreateTopicRequest`. -/
def step : FieldStep CreateTopicRequest := fun m tag w depth bs =>
  match tag with
  | 1 => field "CreateTopicRequest" "subject_id" (readInt64 w bs) fun v => { m with subjectId := v }
  | 2 => field "CreateTopicRequest" "level" (readInt32 w bs) fun v => { m with level := v }
  | 3 => field "CreateTopicRequest" "name" (readString w bs) fun v => { m with name := v }
  | _ => skipUnknown m tag w depth bs

instance : WireMessage CreateTopicRequest := { encode, step }

end CreateTopicRequest

/-- Renames a topic. -/
structure EditTopicRequest where
  topic : Option TopicAddress := none
  name : String := ""
  deriving DecidableEq, Repr, Inhabited

namespace EditTopicRequest

/-- The fields of a `EditTopicRequest`, in tag order. -/
def encode (m : EditTopicRequest) : List UInt8 :=
  optionalField 1 TopicAddress.encode m.topic ++ stringField 2 m.name

/-- Reads one field of a `EditTopicRequest`. -/
def step : FieldStep EditTopicRequest := fun m tag w depth bs =>
  match tag with
  | 1 => field "EditTopicRequest" "topic" (readNested TopicAddress.step (m.topic.getD default) w depth bs) fun v =>
      { m with topic := some v }
  | 2 => field "EditTopicRequest" "name" (readString w bs) fun v => { m with name := v }
  | _ => skipUnknown m tag w depth bs

instance : WireMessage EditTopicRequest := { encode, step }

end EditTopicRequest

/-- Moves a topic to another position. -/
structure MoveTopicRequest where
  topic : Option TopicAddress := none
  targetPosition : Int32 := 0
  deriving DecidableEq, Repr, Inhabited

namespace MoveTopicRequest

/-- The fields of a `MoveTopicRequest`, in tag order. -/
def encode (m : MoveTopicRequest) : List UInt8 :=
  optionalField 1 TopicAddress.encode m.topic ++ int32Field 2 m.targetPosition

/-- Reads one field of a `MoveTopicRequest`. -/
def step : FieldStep MoveTopicRequest := fun m tag w depth bs =>
  match tag with
  | 1 => field "MoveTopicRequest" "topic" (readNested TopicAddress.step (m.topic.getD default) w depth bs) fun v =>
      { m with topic := some v }
  | 2 => field "MoveTopicRequest" "target_position" (readInt32 w bs) fun v => { m with targetPosition := v }
  | _ => skipUnknown m tag w depth bs

instance : WireMessage MoveTopicRequest := { encode, step }

end MoveTopicRequest

/-- Files a card under a topic. -/
structure AddCardToTopicRequest where
  cardId : Int64 := 0
  topic : Option TopicAddress := none
  deriving DecidableEq, Repr, Inhabited

namespace AddCardToTopicRequest

/-- The fields of a `AddCardToTopicRequest`, in tag order. -/
def encode (m : AddCardToTopicRequest) : List UInt8 :=
  int64Field 1 m.cardId ++ optionalField 2 TopicAddress.encode m.topic

/-- Reads one field of a `AddCardToTopicRequest`. -/
def step : FieldStep AddCardToTopicRequest := fun m tag w depth bs =>
  match tag with
  | 1 => field "AddCardToTopicRequest" "card_id" (readInt64 w bs) fun v => { m with cardId := v }
  | 2 => field "AddCardToTopicRequest" "topic" (readNested TopicAddress.step (m.topic.getD default) w depth bs) fun v =>
      { m with topic := some v }
  | _ => skipUnknown m tag w depth bs

instance : WireMessage AddCardToTopicRequest := { encode, step }

end AddCardToTopicRequest

end StudyPlanner.Proto
