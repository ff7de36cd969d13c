import StudyPlanner.Proto.Message
/-!
# Wire messages: search hits

Each message lists its fields with their tags; `encode` writes them in tag order and
`step` reads one of them. Errors name the message and the field as the service's schema
does.
-/

namespace StudyPlanner.Proto

/-- A hit of a search: its kind, id, name and description. -/
structure SearchResult where
  kind : Int32 := 0
  id : Int64 := 0
  name : String := ""
  description : String := ""
  deriving DecidableEq, Repr, Inhabited

namespace SearchResult

/-- The fields of a `SearchResult`, in tag order. -/
def encode (m : SearchResult) : List UInt8 :=
  int32Field 1 m.kind ++ int64Field 2 m.id ++ stringField 3 m.name ++ stringField 4 m.description

/-- Reads one field of a `SearchResult`. -/
def step : FieldStep SearchResult := fun m tag w depth bs =>
  match tag with
  | 1 => field "SearchResult" "kind" (readInt32 w bs) fun v => { m with kind := v }
  | 2 => field "SearchResult" "id" (readInt64 w bs) fun v => { m with id := v }
  | 3 => field "SearchResult" "name" (readString w bs) fun v => { m with name := v }
  | 4 => field "SearchResult" "description" (readString w bs) fun v => { m with description := v }
  | _ => skipUnknown m tag w depth bs

instance : WireMessage SearchResult := { encode, step }

end SearchResult

/-- A list of search hits. -/
structure SearchResultList where
  results : List SearchResult := []
  deriving DecidableEq, Repr, Inhabited

namespace SearchResultList

/-- The fields of a `SearchResultList`, in tag order. -/
def encode (m : SearchResultList) : List UInt8 :=
  repeatedField 1 SearchResult.encode m.results

/-- Reads one field of a `SearchResultList`. -/
def step : FieldStep SearchResultList := fun m tag w depth bs =>
  match tag with
  | 1 => field "SearchResultList" "results" (readNested SearchResult.step default w depth bs) fun v =>
      { m with results := m.results ++ [v] }
  | _ => skipUnknown m tag w depth bs

instance : WireMessage SearchResultList := { encode, step }

end SearchResultList

end StudyPlanner.Proto
