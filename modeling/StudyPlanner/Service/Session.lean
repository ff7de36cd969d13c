import StudyPlanner.Text.Hex
/-!
# Sessions

A session lives in a key/value store under two keys: `token`, the credential of the signed-in
user, and `device`, an id of this device that is created once and then kept. A session is
*authenticated* when its token is a non-empty text.

A device id is minted the first time one is needed and the store holds none, or holds an
empty one. Minted ids are version-4 UUIDs; the session counts them, and the `n`-th one is
`mintedDevice n`, so a run is reproducible.
-/

namespace StudyPlanner.Service

/-- The store key of the session token. -/
def tokenKey : String := "token"

/-- The store key of the device id. -/
def deviceKey : String := "device"

/-- A key/value store: each key at most once. -/
structure Store where
  entries : List (String × String) := []
  deriving DecidableEq, Repr, Inhabited

namespace Store

/-- The value under a key. -/
def get? (s : Store) (key : String) : Option String :=
  (s.entries.find? fun e => e.1 == key).map (·.2)

/-- Removes a key. -/
def remove (s : Store) (key : String) : Store := { entries := s.entries.filter fun e => e.1 != key }

/-- Sets a key, replacing any value it had. -/
def set (s : Store) (key value : String) : Store :=
  { entries := (s.remove key).entries ++ [(key, value)] }

end Store

/-- Twelve hexadecimal digits of a number. -/
def hex12 (n : Nat) : String :=
  String.ofList ((List.range 12).reverse.map fun i => Text.Hex.digitLower (n / Nat.pow 16 i % 16))

/-- The `n`-th minted device id, a version-4 UUID. -/
def mintedDevice (n : Nat) : String := "00000000-0000-4000-8000-" ++ hex12 n

/-- A session: its store and how many device ids it has minted. -/
structure Session where
  store : Store := {}
  minted : Nat := 0
  deriving DecidableEq, Repr, Inhabited

namespace Session

/-- The device id, minting and storing one when the store holds none or an empty one. -/
def device (s : Session) : String × Session :=
  match s.store.get? deviceKey with
  | some d => if d.isEmpty then mint s else (d, s)
  | none => mint s
where
  mint (s : Session) : String × Session :=
    let d := mintedDevice (s.minted + 1)
    (d, { store := s.store.set deviceKey d, minted := s.minted + 1 })

/-- The session token, empty when there is none. -/
def token (s : Session) : String := (s.store.get? tokenKey).getD ""

/-- Stores a token. -/
def setToken (s : Session) (t : String) : Session := { s with store := s.store.set tokenKey t }

/-- Removes the token. -/
def clearToken (s : Session) : Session := { s with store := s.store.remove tokenKey }

/-- Whether the session holds a non-empty token. -/
def isAuthenticated (s : Session) : Bool := !s.token.isEmpty

end Session

end StudyPlanner.Service
