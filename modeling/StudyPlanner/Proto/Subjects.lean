import StudyPlanner.Proto.Message
/-!
# Wire messages: subjects, their resources and the resources' sections

Each message lists its fields with their tags; `encode` writes them in tag order and
`step` reads one of them. Errors name the message and the field as the service's schema
does.
-/

namespace StudyPlanner.Proto

/-- A subject of study. -/
structure Subject where
  id : Int64 := 0
  name : String := ""
  description : String := ""
  deriving DecidableEq, Repr, Inhabited

namespace Subject

/-- The fields of a `Subject`, in tag order. -/
def encode (m : Subject) : List UInt8 :=
  int64Field 1 m.id ++ stringField 2 m.name ++ stringField 3 m.description

/-- Reads one field of a `Subject`. -/
def step : FieldStep Subject := fun m tag w depth bs =>
  match tag with
  | 1 => field "Subject" "id" (readInt64 w bs) fun v => { m with id := v }
  | 2 => field "Subject" "name" (readString w bs) fun v => { m with name := v }
  | 3 => field "Subject" "description" (readString w bs) fun v => { m with description := v }
  | _ => skipUnknown m tag w depth bs

instance : WireMessage Subject := { encode, step }

end Subject

/-- A list of subjects. -/
structure SubjectList where
  subjects : List Subject := []
  deriving DecidableEq, Repr, Inhabited

namespace SubjectList

/-- The fields of a `SubjectList`, in tag order. -/
def encode (m : SubjectList) : List UInt8 :=
  repeatedField 1 Subject.encode m.subjects

/-- Reads one field of a `SubjectList`. -/
def step : FieldStep SubjectList := fun m tag w depth bs =>
  match tag with
  | 1 => field "SubjectList" "subjects" (readNested Subject.step default w depth bs) fun v =>
      { m with subjects := m.subjects ++ [v] }
  | _ => skipUnknown m tag w depth bs

instance : WireMessage SubjectList := { encode, step }

end SubjectList

/-- A new subject. -/
structure CreateSubjectRequest where
  name : String := ""
  description : String := ""
  deriving DecidableEq, Repr, Inhabited

namespace CreateSubjectRequest

/-- The fields of a `CreateSubjectRequest`, in tag order. -/
def encode (m : CreateSubjectRequest) : List UInt8 :=
  stringField 1 m.name ++ stringField 2 m.description

/-- Reads one field of a `CreateSubjectRequest`. -/
def step : FieldStep CreateSubjectRequest := fun m tag w depth bs =>
  match tag with
  | 1 => field "CreateSubjectRequest" "name" (readString w bs) fun v => { m with name := v }
  | 2 => field "CreateSubjectRequest" "description" (readString w bs) fun v => { m with description := v }
  | _ => skipUnknown m tag w depth bs

instance : WireMessage CreateSubjectRequest := { encode, step }

end CreateSubjectRequest

/-- A resource of a subject; dates are epoch seconds, zero for none. -/
structure Resource where
  id : Int64 := 0
  name : String := ""
  kind : Int32 := 0
  link : String := ""
  pattern : Int32 := 0
  production : Int64 := 0
  expiration : Int64 := 0
  order : Int32 := 0
  deriving DecidableEq, Repr, Inhabited

namespace Resource

/-- The fields of a `Resource`, in tag order. -/
def encode (m : Resource) : List UInt8 :=
  int64Field 1 m.id ++ stringField 2 m.name ++ int32Field 3 m.kind ++ stringField 4 m.link ++
    int32Field 5 m.pattern ++ int64Field 6 m.production ++ int64Field 7 m.expiration ++
    int32Field 8 m.order

/-- Reads one field of a `Resource`. -/
def step : FieldStep Resource := fun m tag w depth bs =>
  match tag with
  | 1 => field "Resource" "id" (readInt64 w bs) fun v => { m with id := v }
  | 2 => field "Resource" "name" (readString w bs) fun v => { m with name := v }
  | 3 => field "Resource" "r#type" (readInt32 w bs) fun v => { m with kind := v }
  | 4 => field "Resource" "link" (readString w bs) fun v => { m with link := v }
  | 5 => field "Resource" "pattern" (readInt32 w bs) fun v => { m with pattern := v }
  | 6 => field "Resource" "production" (readInt64 w bs) fun v => { m with production := v }
  | 7 => field "Resource" "expiration" (readInt64 w bs) fun v => { m with expiration := v }
  | 8 => field "Resource" "order" (readInt32 w bs) fun v => { m with order := v }
  | _ => skipUnknown m tag w depth bs

instance : WireMessage Resource := { encode, step }

end Resource

/-- A list of resources. -/
structure ResourceList where
  resources : List Resource := []
  deriving DecidableEq, Repr, Inhabited

namespace ResourceList

/-- The fields of a `ResourceList`, in tag order. -/
def encode (m : ResourceList) : List UInt8 :=
  repeatedField 1 Resource.encode m.resources

/-- Reads one field of a `ResourceList`. -/
def step : FieldStep ResourceList := fun m tag w depth bs =>
  match tag with
  | 1 => field "ResourceList" "resources" (readNested Resource.step default w depth bs) fun v =>
      { m with resources := m.resources ++ [v] }
  | _ => skipUnknown m tag w depth bs

instance : WireMessage ResourceList := { encode, step }

end ResourceList

/-- A new resource of a subject, split into sections. -/
structure CreateResourceRequest where
  name : String := ""
  kind : Int32 := 0
  link : String := ""
  pattern : Int32 := 0
  production : Int64 := 0
  expiration : Int64 := 0
  sections : Int32 := 0
  subjectId : Int64 := 0
  deriving DecidableEq, Repr, Inhabited

namespace CreateResourceRequest

/-- The fields of a `CreateResourceRequest`, in tag order. -/
def encode (m : CreateResourceRequest) : List UInt8 :=
  stringField 1 m.name ++ int32Field 2 m.kind ++ stringField 3 m.link ++ int32Field 4 m.pattern ++
    int64Field 5 m.production ++ int64Field 6 m.expiration ++ int32Field 7 m.sections ++
    int64Field 8 m.subjectId

/-- Reads one field of a `CreateResourceRequest`. -/
def step : FieldStep CreateResourceRequest := fun m tag w depth bs =>
  match tag with
  | 1 => field "CreateResourceRequest" "name" (readString w bs) fun v => { m with name := v }
  | 2 => field "CreateResourceRequest" "r#type" (readInt32 w bs) fun v => { m with kind := v }
  | 3 => field "CreateResourceRequest" "link" (readString w bs) fun v => { m with link := v }
  | 4 => field "CreateResourceRequest" "pattern" (readInt32 w bs) fun v => { m with pattern := v }
  | 5 => field "CreateResourceRequest" "production" (readInt64 w bs) fun v => { m with production := v }
  | 6 => field "CreateResourceRequest" "expiration" (readInt64 w bs) fun v => { m with expiration := v }
  | 7 => field "CreateResourceRequest" "sections" (readInt32 w bs) fun v => { m with sections := v }
  | 8 => field "CreateResourceRequest" "subject_id" (readInt64 w bs) fun v => { m with subjectId := v }
  | _ => skipUnknown m tag w depth bs

instance : WireMessage CreateResourceRequest := { encode, step }

end CreateResourceRequest

/-- Attaches an existing resource to a subject. -/
structure AddResourceRequest where
  subjectId : Int64 := 0
  resourceId : Int64 := 0
  deriving DecidableEq, Repr, Inhabited

namespace AddResourceRequest

/-- The fields of a `AddResourceRequest`, in tag order. -/
def encode (m : AddResourceRequest) : List UInt8 :=
  int64Field 1 m.subjectId ++ int64Field 2 m.resourceId

/-- Reads one field of a `AddResourceRequest`. -/
def step : FieldStep AddResourceRequest := fun m tag w depth bs =>
  match tag with
  | 1 => field "AddResourceRequest" "subject_id" (readInt64 w bs) fun v => { m with subjectId := v }
  | 2 => field "AddResourceRequest" "resource_id" (readInt64 w bs) fun v => { m with resourceId := v }
  | _ => skipUnknown m tag w depth bs

instance : WireMessage AddResourceRequest := { encode, step }

end AddResourceRequest

/-- A section of a resource. -/
structure Section where
  id : Int64 := 0
  position : Int32 := 0
  reviewed : Bool := false
  cardCount : Int32 := 0
  deriving DecidableEq, Repr, Inhabited

namespace Section

/-- The fields of a `Section`, in tag order. -/
def encode (m : Section) : List UInt8 :=
  int64Field 1 m.id ++ int32Field 2 m.position ++ boolField 3 m.reviewed ++ int32Field 4 m.cardCount

/-- Reads one field of a `Section`. -/
def step : FieldStep Section := fun m tag w depth bs =>
  match tag with
  | 1 => field "Section" "id" (readInt64 w bs) fun v => { m with id := v }
  | 2 => field "Section" "position" (readInt32 w bs) fun v => { m with position := v }
  | 3 => field "Section" "reviewed" (readBool w bs) fun v => { m with reviewed := v }
  | 4 => field "Section" "card_count" (readInt32 w bs) fun v => { m with cardCount := v }
  | _ => skipUnknown m tag w depth bs

instance : WireMessage Section := { encode, step }

end Section

/-- A list of sections. -/
structure SectionList where
  sections : List Section := []
  deriving DecidableEq, Repr, Inhabited

namespace SectionList

/-- The fields of a `SectionList`, in tag order. -/
def encode (m : SectionList) : List UInt8 :=
  repeatedField 1 Section.encode m.sections

/-- Reads one field of a `SectionList`. -/
def step : FieldStep SectionList := fun m tag w depth bs =>
  match tag with
  | 1 => field "SectionList" "sections" (readNested Section.step default w depth bs) fun v =>
      { m with sections := m.sections ++ [v] }
  | _ => skipUnknown m tag w depth bs

instance : WireMessage SectionList := { encode, step }

end SectionList

end StudyPlanner.Proto
