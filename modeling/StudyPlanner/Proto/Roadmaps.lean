import StudyPlanner.Proto.Message
/-!
# Wire messages: roadmaps and their milestones

Each message lists its fields with their tags; `encode` writes them in tag order and
`step` reads one of them. Errors name the message and the field as the service's schema
does.
-/

namespace StudyPlanner.Proto

/-- A milestone of a roadmap; dates are epoch seconds, zero for none. -/
structure Milestone where
  id : Int64 := 0
  name : String := ""
  description : String := ""
  targetDate : Int64 := 0
  completed : Bool := false
  subjectId : Int64 := 0
  level : Int32 := 0
  deriving DecidableEq, Repr, Inhabited

namespace Milestone

/-- The fields of a `Milestone`, in tag order. -/
def encode (m : Milestone) : List UInt8 :=
  int64Field 1 m.id ++ stringField 2 m.name ++ stringField 3 m.description ++
    int64Field 4 m.targetDate ++ boolField 5 m.completed ++ int64Field 6 m.subjectId ++
    int32Field 7 m.level

/-- Reads one field of a `Milestone`. -/
def step : FieldStep Milestone := fun m tag w depth bs =>
  match tag with
  | 1 => field "Milestone" "id" (readInt64 w bs) fun v => { m with id := v }
  | 2 => field "Milestone" "name" (readString w bs) fun v => { m with name := v }
  | 3 => field "Milestone" "description" (readString w bs) fun v => { m with description := v }
  | 4 => field "Milestone" "target_date" (readInt64 w bs) fun v => { m with targetDate := v }
  | 5 => field "Milestone" "completed" (readBool w bs) fun v => { m with completed := v }
  | 6 => field "Milestone" "subject_id" (readInt64 w bs) fun v => { m with subjectId := v }
  | 7 => field "Milestone" "level" (readInt32 w bs) fun v => { m with level := v }
  | _ => skipUnknown m tag w depth bs

instance : WireMessage Milestone := { encode, step }

end Milestone

/-- A roadmap with its milestones. -/
structure Roadmap where
  id : Int64 := 0
  name : String := ""
  description : String := ""
  milestones : List Milestone := []
  deriving DecidableEq, Repr, Inhabited

namespace Roadmap

/-- The fields of a `Roadmap`, in tag order. -/
def encode (m : Roadmap) : List UInt8 :=
  int64Field 1 m.id ++ stringField 2 m.name ++ stringField 3 m.description ++
    repeatedField 4 Milestone.encode m.milestones

/-- Reads one field of a `Roadmap`. -/
def step : FieldStep Roadmap := fun m tag w depth bs =>
  match tag with
  | 1 => field "Roadmap" "id" (readInt64 w bs) fun v => { m with id := v }
  | 2 => field "Roadmap" "name" (readString w bs) fun v => { m with name := v }
  | 3 => field "Roadmap" "description" (readString w bs) fun v => { m with description := v }
  | 4 => field "Roadmap" "milestones" (readNested Milestone.step default w depth bs) fun v =>
      { m with milestones := m.milestones ++ [v] }
  | _ => skipUnknown m tag w depth bs

instance : WireMessage Roadmap := { encode, step }

end Roadmap

/-- A list of roadmaps. -/
structure RoadmapList where
  roadmaps : List Roadmap := []
  deriving DecidableEq, Repr, Inhabited

namespace RoadmapList

/-- The fields of a `RoadmapList`, in tag order. -/
def encode (m : RoadmapList) : List UInt8 :=
  repeatedField 1 Roadmap.encode m.roadmaps

/-- Reads one field of a `RoadmapList`. -/
def step : FieldStep RoadmapList := fun m tag w depth bs =>
  match tag with
  | 1 => field "RoadmapList" "roadmaps" (readNested Roadmap.step default w depth bs) fun v =>
      { m with roadmaps := m.roadmaps ++ [v] }
  | _ => skipUnknown m tag w depth bs

instance : WireMessage RoadmapList := { encode, step }

end RoadmapList

/-- A list of milestones. -/
structure MilestoneList where
  milestones : List Milestone := []
  deriving DecidableEq, Repr, Inhabited

namespace MilestoneList

/-- The fields of a `MilestoneList`, in tag order. -/
def encode (m : MilestoneList) : List UInt8 :=
  repeatedField 1 Milestone.encode m.milestones

/-- Reads one field of a `MilestoneList`. -/
def step : FieldStep MilestoneList := fun m tag w depth bs =>
  match tag with
  | 1 => field "MilestoneList" "milestones" (readNested Milestone.step default w depth bs) fun v =>
      { m with milestones := m.milestones ++ [v] }
  | _ => skipUnknown m tag w depth bs

instance : WireMessage MilestoneList := { encode, step }

end MilestoneList

/-- A new roadmap. -/
structure CreateRoadmapRequest where
  name : String := ""
  description : String := ""
  deriving DecidableEq, Repr, Inhabited

namespace CreateRoadmapRequest

/-- The fields of a `CreateRoadmapRequest`, in tag order. -/
def encode (m : CreateRoadmapRequest) : List UInt8 :=
  stringField 1 m.name ++ stringField 2 m.description

/-- Reads one field of a `CreateRoadmapRequest`. -/
def step : FieldStep CreateRoadmapRequest := fun m tag w depth bs =>
  match tag with
  | 1 => field "CreateRoadmapRequest" "name" (readString w bs) fun v => { m with name := v }
  | 2 => field "CreateRoadmapRequest" "description" (readString w bs) fun v => { m with description := v }
  | _ => skipUnknown m tag w depth bs

instance : WireMessage CreateRoadmapRequest := { encode, step }

end CreateRoadmapRequest

/-- A new milestone of a roadmap. -/
structure CreateMilestoneRequest where
  roadmapId : Int64 := 0
  subjectId : Int64 := 0
  level : Int32 := 0
  name : String := ""
  description : String := ""
  targetDate : Int64 := 0
  deriving DecidableEq, Repr, Inhabited

namespace CreateMilestoneRequest

/-- The fields of a `CreateMilestoneRequest`, in tag order. -/
def encode (m : CreateMilestoneRequest) : List UInt8 :=
  int64Field 1 m.roadmapId ++ int64Field 2 m.subjectId ++ int32Field 3 m.level ++
    stringField 4 m.name ++ stringField 5 m.description ++ int64Field 6 m.targetDate

/-- Reads one field of a `CreateMilestoneRequest`. -/
def step : FieldStep CreateMilestoneRequest := fun m tag w depth bs =>
  match tag with
  | 1 => field "CreateMilestoneRequest" "roadmap_id" (readInt64 w bs) fun v => { m with roadmapId := v }
  | 2 => field "CreateMilestoneRequest" "subject_id" (readInt64 w bs) fun v => { m with subjectId := v }
  | 3 => field "CreateMilestoneRequest" "level" (readInt32 w bs) fun v => { m with level := v }
  | 4 => field "CreateMilestoneRequest" "name" (readString w bs) fun v => { m with name := v }
  | 5 => field "CreateMilestoneRequest" "description" (readString w bs) fun v => { m with description := v }
  | 6 => field "CreateMilestoneRequest" "target_date" (readInt64 w bs) fun v => { m with targetDate := v }
  | _ => skipUnknown m tag w depth bs

instance : WireMessage CreateMilestoneRequest := { encode, step }

end CreateMilestoneRequest

end StudyPlanner.Proto
