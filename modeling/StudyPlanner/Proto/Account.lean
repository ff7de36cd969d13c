import StudyPlanner.Proto.Message
/-!
# Wire messages: accounts: signing in and up, and the requests that carry one id or one query

Each message lists its fields with their tags; `encode` writes them in tag order and
`step` reads one of them. Errors name the message and the field as the service's schema
does.
-/

namespace StudyPlanner.Proto

/-- A message with no fields. -/
structure Empty where
  deriving DecidableEq, Repr, Inhabited

namespace Empty

/-- The fields of a `Empty`, in tag order. -/
def encode (_ : Empty) : List UInt8 := []

/-- Reads one field of a `Empty`. -/
def step : FieldStep Empty := fun m tag w depth bs => skipUnknown m tag w depth bs

instance : WireMessage Empty := { encode, step }

end Empty

/-- A request naming one record by id. -/
structure IdRequest where
  id : Int64 := 0
  deriving DecidableEq, Repr, Inhabited

namespace IdRequest

/-- The fields of a `IdRequest`, in tag order. -/
def encode (m : IdRequest) : List UInt8 :=
  int64Field 1 m.id

/-- Reads one field of a `IdRequest`. -/
def step : FieldStep IdRequest := fun m tag w depth bs =>
  match tag with
  | 1 => field "IdRequest" "id" (readInt64 w bs) fun v => { m with id := v }
  | _ => skipUnknown m tag w depth bs

instance : WireMessage IdRequest := { encode, step }

end IdRequest

/-- A request carrying a search text. -/
structure SearchRequest where
  query : String := ""
  deriving DecidableEq, Repr, Inhabited

namespace SearchRequest

/-- The fields of a `SearchRequest`, in tag order. -/
def encode (m : SearchRequest) : List UInt8 :=
  stringField 1 m.query

/-- Reads one field of a `SearchRequest`. -/
def step : FieldStep SearchRequest := fun m tag w depth bs =>
  match tag with
  | 1 => field "SearchRequest" "query" (readString w bs) fun v => { m with query := v }
  | _ => skipUnknown m tag w depth bs

instance : WireMessage SearchRequest := { encode, step }

end SearchRequest

/-- The credentials of a sign-in. -/
structure SignInRequest where
  email : String := ""
  password : String := ""
  deriving DecidableEq, Repr, Inhabited

namespace SignInRequest

/-- The fields of a `SignInRequest`, in tag order. -/
def encode (m : SignInRequest) : List UInt8 :=
  stringField 1 m.email ++ stringField 2 m.password

/-- Reads one field of a `SignInRequest`. -/
def step : FieldStep SignInRequest := fun m tag w depth bs =>
  match tag with
  | 1 => field "SignInRequest" "email" (readString w bs) fun v => { m with email := v }
  | 2 => field "SignInRequest" "password" (readString w bs) fun v => { m with password := v }
  | _ => skipUnknown m tag w depth bs

instance : WireMessage SignInRequest := { encode, step }

end SignInRequest

/-- A session token and the signed-in user. -/
structure SignInResponse where
  token : String := ""
  name : String := ""
  email : String := ""
  deriving DecidableEq, Repr, Inhabited

namespace SignInResponse

/-- The fields of a `SignInResponse`, in tag order. -/
def encode (m : SignInResponse) : List UInt8 :=
  stringField 1 m.token ++ stringField 2 m.name ++ stringField 3 m.email

/-- Reads one field of a `SignInResponse`. -/
def step : FieldStep SignInResponse := fun m tag w depth bs =>
  match tag with
  | 1 => field "SignInResponse" "token" (readString w bs) fun v => { m with token := v }
  | 2 => field "SignInResponse" "name" (readString w bs) fun v => { m with name := v }
  | 3 => field "SignInResponse" "email" (readString w bs) fun v => { m with email := v }
  | _ => skipUnknown m tag w depth bs

instance : WireMessage SignInResponse := { encode, step }

end SignInResponse

/-- A new account. -/
structure SignUpRequest where
  name : String := ""
  email : String := ""
  password : String := ""
  deriving DecidableEq, Repr, Inhabited

namespace SignUpRequest

/-- The fields of a `SignUpRequest`, in tag order. -/
def encode (m : SignUpRequest) : List UInt8 :=
  stringField 1 m.name ++ stringField 2 m.email ++ stringField 3 m.password

/-- Reads one field of a `SignUpRequest`. -/
def step : FieldStep SignUpRequest := fun m tag w depth bs =>
  match tag with
  | 1 => field "SignUpRequest" "name" (readString w bs) fun v => { m with name := v }
  | 2 => field "SignUpRequest" "email" (readString w bs) fun v => { m with email := v }
  | 3 => field "SignUpRequest" "password" (readString w bs) fun v => { m with password := v }
  | _ => skipUnknown m tag w depth bs

instance : WireMessage SignUpRequest := { encode, step }

end SignUpRequest

/-- A user's name and email address. -/
structure User where
  name : String := ""
  email : String := ""
  deriving DecidableEq, Repr, Inhabited

namespace User

/-- The fields of a `User`, in tag order. -/
def encode (m : User) : List UInt8 :=
  stringField 1 m.name ++ stringField 2 m.email

/-- Reads one field of a `User`. -/
def step : FieldStep User := fun m tag w depth bs =>
  match tag with
  | 1 => field "User" "name" (readString w bs) fun v => { m with name := v }
  | 2 => field "User" "email" (readString w bs) fun v => { m with email := v }
  | _ => skipUnknown m tag w depth bs

instance : WireMessage User := { encode, step }

end User

end StudyPlanner.Proto
