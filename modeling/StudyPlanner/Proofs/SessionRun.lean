import StudyPlanner.Proofs.Client
/-!
# The session under any run of the client

A session's store is shared by every call of the client and by direct uses of the session.
`SessionEvent` is one such step, with the transport's answer when it is a call, and
`SessionEvent.run` plays a sequence of them. The main statement, `session_token_device_laws`,
holds for every run and every answer:

* the stored token changes only by a sign-in that succeeds (to the token it returned), by a
  sign-out (removed even when the call fails, whose failure is still returned), and by
  setting or clearing it directly;
* once a non-empty device id is stored it stays, and every later read of the device id and
  every later call's metadata carry it;
* a session is authenticated exactly when it stores a non-empty token.

Each law is proved for one step from the lemmas of `Proofs.Client`; the device law is then
carried along the run by induction (`run_get?_device`).
-/

namespace StudyPlanner.Service

open StudyPlanner.Remote

/-- One step of a session: a client call with the transport's answer to it, or a direct use of
the session. -/
inductive SessionEvent where
  | call (c : ClientCall) (reply : Except CallError (List UInt8))
  | readDevice
  | readToken
  | setToken (t : String)
  | clearToken
  | readAuthenticated

namespace SessionEvent

/-- The session after one step. Reading the token or whether the session is authenticated
changes nothing; reading the device id may mint one. -/
def apply : SessionEvent → Session → Session
  | call c reply, s => (c.operation.run (fun _ => reply) s).2.2
  | readDevice, s => s.device.2
  | readToken, s => s
  | setToken t, s => s.setToken t
  | clearToken, s => s.clearToken
  | readAuthenticated, s => s

/-- The session after a sequence of steps, the first step first. -/
def run (es : List SessionEvent) (s : Session) : Session := es.foldl (fun s e => e.apply s) s

/-- The steps that may change the stored token. -/
def touchesToken : SessionEvent → Bool
  | call c _ => c.touchesToken
  | setToken _ | clearToken => true
  | _ => false

@[simp] theorem run_nil (s : Session) : run [] s = s := rfl

@[simp] theorem run_cons (e : SessionEvent) (es : List SessionEvent) (s : Session) :
    run (e :: es) s = run es (e.apply s) := rfl

/-! ### The token -/

/-- A step that is not a sign-in, a sign-out, or a direct write keeps the stored token. -/
theorem apply_get?_token {e : SessionEvent} (h : e.touchesToken = false) (s : Session) :
    (e.apply s).store.get? tokenKey = s.store.get? tokenKey := by
  cases e with
  | call c reply =>
    -- the outcome keeps the session; preparing it only reads the device id
    have hc : c.touchesToken = false := h
    rw [apply, Operation.run_session, ClientCall.after_of_not_touchesToken hc,
      Operation.prepare_session]
    exact Session.device_get?_of_ne s deviceKey_ne_tokenKey
  | readDevice => exact Session.device_get?_of_ne s deviceKey_ne_tokenKey
  | readToken => rfl
  | setToken t => simp [touchesToken] at h
  | clearToken => simp [touchesToken] at h
  | readAuthenticated => rfl

/-- Signing in stores the returned token when it succeeds, and leaves the token when it
fails. -/
theorem signIn_get?_token (email password : String) (reply : Except CallError (List UInt8))
    (s : Session) :
    let out := (ClientCall.signIn email password).operation.run (fun _ => reply) s
    out.2.2.store.get? tokenKey = match out.2.1 with
      | .ok si => some si.token
      | .error _ => s.store.get? tokenKey := by
  intro out
  rw [Operation.run_session]
  generalize out.2.1 = r
  cases r with
  | ok si => exact Session.setToken_get?_token _ si.token
  | error e =>
    show ((ClientCall.signIn email password).operation.prepare s).2.store.get? tokenKey = _
    rw [Operation.prepare_session]
    exact Session.device_get?_of_ne s deviceKey_ne_tokenKey

/-- Signing out removes the token whatever the outcome, and a failed call still fails. -/
theorem signOut_get?_token (reply : Except CallError (List UInt8)) (s : Session) :
    let out := ClientCall.signOut.operation.run (fun _ => reply) s
    out.2.2.store.get? tokenKey = none ∧ ∀ e, reply = .error e → out.2.1 = .error e := by
  refine ⟨Session.clearToken_get?_token _, ?_⟩
  rintro e rfl
  rfl

/-! ### The device id -/

/-- One step keeps a stored non-empty device id. -/
theorem apply_get?_device (e : SessionEvent) {s : Session} {d : String}
    (h : s.store.get? deviceKey = some d) (hd : d ≠ "") :
    (e.apply s).store.get? deviceKey = some d := by
  have hread : s.device = (d, s) := Session.device_of_stored s h hd
  cases e with
  | call c reply =>
    rw [apply, Operation.run_session, ClientCall.after_get?_device, Operation.prepare_session,
      hread]
    exact h
  | readDevice => rw [apply, hread]; exact h
  | readToken => exact h
  | setToken t => rw [apply, Session.setToken_get?_device]; exact h
  | clearToken => rw [apply, Session.clearToken_get?_device]; exact h
  | readAuthenticated => exact h

/-- A whole run keeps a stored non-empty device id. -/
theorem run_get?_device (es : List SessionEvent) {s : Session} {d : String}
    (h : s.store.get? deviceKey = some d) (hd : d ≠ "") :
    (run es s).store.get? deviceKey = some d := by
  induction es generalizing s with
  | nil => exact h
  | cons e es ih => exact ih (apply_get?_device e h hd)

/-- With a non-empty device id stored, every call's metadata carries it. -/
theorem prepare_get?_device (c : ClientCall) {s : Session} {d : String}
    (h : s.store.get? deviceKey = some d) (hd : d ≠ "") :
    (c.operation.prepare s).1.metadata.get? deviceKey = some d := by
  simp [Metadata.get?, Operation.prepare_metadata, Session.device_of_stored s h hd]

end SessionEvent

open SessionEvent in
/-- The laws of the stored token and device id, over every run of the client and the session
with any transport answers. -/
theorem session_token_device_laws :
    (∀ email password reply s,
      let out := (ClientCall.signIn email password).operation.run (fun _ => reply) s
      out.2.2.store.get? tokenKey = match out.2.1 with
        | .ok si => some si.token
        | .error _ => s.store.get? tokenKey) ∧
    (∀ reply s,
      let out := ClientCall.signOut.operation.run (fun _ => reply) s
      out.2.2.store.get? tokenKey = none ∧ ∀ e, reply = .error e → out.2.1 = .error e) ∧
    (∀ t s, ((SessionEvent.setToken t).apply s).store.get? tokenKey = some t) ∧
    (∀ s, (SessionEvent.clearToken.apply s).store.get? tokenKey = none) ∧
    (∀ (e : SessionEvent) s, e.touchesToken = false →
      (e.apply s).store.get? tokenKey = s.store.get? tokenKey) ∧
    (∀ es s d, s.store.get? deviceKey = some d → d ≠ "" →
      (run es s).store.get? deviceKey = some d ∧ (run es s).device = (d, run es s) ∧
        ∀ c : ClientCall, (c.operation.prepare (run es s)).1.metadata.get? deviceKey = some d) ∧
    (∀ s : Session, s.isAuthenticated = true ↔ ∃ t, s.store.get? tokenKey = some t ∧ t ≠ "") := by
  refine ⟨signIn_get?_token, signOut_get?_token, fun t s => Session.setToken_get?_token s t,
    fun s => Session.clearToken_get?_token s, fun e s h => apply_get?_token h s, ?_,
    Session.isAuthenticated_iff⟩
  intro es s d h hd
  have hrun := run_get?_device es h hd
  exact ⟨hrun, Session.device_of_stored _ hrun hd, fun c => prepare_get?_device c hrun hd⟩

/-- A failed sign-out, a read of the device id and a new token keep a stored device id. -/
theorem device_kept_through_failed_sign_out :
    (SessionEvent.run [.call .signOut (.error (.transport "offline")), .readDevice,
        .setToken "t-2"] { store := { entries := [("device", "d-1"), ("token", "t-1")] } }).store.get?
      deviceKey = some "d-1" :=
  (session_token_device_laws.2.2.2.2.2.1 _ _ "d-1" (by decide) (by decide)).1

end StudyPlanner.Service
