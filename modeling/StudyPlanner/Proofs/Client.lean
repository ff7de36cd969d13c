import StudyPlanner.Service.Calls
/-!
# The client: its operations and what they do to the session store

The client offers one operation per remote method. `ClientCall` lists the twenty-eight of
them with their arguments, and `ClientCall.operation` is the operation each one runs. This
module collects what every later statement about calls needs:

* the store's three laws (`Store.get?_set_self`, `Store.get?_set_of_ne`,
  `Store.get?_remove_self`, `Store.get?_remove_of_ne`): a write or a removal touches one key;
* reading the device id writes nothing but the device key, and keeps a stored non-empty id
  (`Session.device_of_stored`);
* a prepared request's metadata is the device id, then the token unless the call goes without
  one (`Operation.prepare_metadata`);
* what an outcome does to the session: nothing, except that signing in stores the returned
  token and signing out removes it (`ClientCall.after_of_not_touchesToken`).
-/

namespace StudyPlanner.Service

open StudyPlanner.Model StudyPlanner.Remote

/-! ### The store -/

namespace Store

variable (s : Store) (key value : String)

theorem find?_remove_self : (s.remove key).entries.find? (fun e => e.1 == key) = none := by
  simp [remove, List.find?_eq_none]

theorem find?_remove_of_ne {other : String} (h : key ≠ other) :
    (s.remove key).entries.find? (fun e => e.1 == other) =
      s.entries.find? (fun e => e.1 == other) := by
  simp only [remove, List.find?_filter]
  congr 1
  funext e
  by_cases he : e.1 = other
  · simp [he, Ne.symm h]
  · simp [he]

@[simp] theorem get?_set_self : (s.set key value).get? key = some value := by
  simp [set, get?, List.find?_append, find?_remove_self]

theorem get?_set_of_ne {other : String} (h : key ≠ other) :
    (s.set key value).get? other = s.get? other := by
  have hne : (key == other) = false := by simpa using h
  simp only [set, get?, List.find?_append, find?_remove_of_ne s key h, List.find?_cons, hne,
    List.find?_nil, Option.or_none]

@[simp] theorem get?_remove_self : (s.remove key).get? key = none := by
  simp [get?, find?_remove_self]

theorem get?_remove_of_ne {other : String} (h : key ≠ other) :
    (s.remove key).get? other = s.get? other := by
  simp only [get?, find?_remove_of_ne s key h]

end Store

theorem deviceKey_ne_tokenKey : deviceKey ≠ tokenKey := by decide

/-! ### The session -/

namespace Session

variable (s : Session)

theorem mintedDevice_ne_empty (n : Nat) : mintedDevice n ≠ "" := by
  unfold mintedDevice
  intro h
  have hprefix := (String.append_eq_empty_iff.mp h).1
  simp at hprefix

/-- Reading the device id changes no key but the device key. -/
theorem device_get?_of_ne {key : String} (h : deviceKey ≠ key) :
    s.device.2.store.get? key = s.store.get? key := by
  cases hstored : s.store.get? deviceKey with
  | none => simp only [device, hstored, device.mint, Store.get?_set_of_ne _ _ _ h]
  | some d =>
    by_cases hd : d.isEmpty
    · simp only [device, hstored, hd, device.mint, if_true, Store.get?_set_of_ne _ _ _ h]
    · simp only [device, hstored, hd, if_false, Bool.false_eq_true]

@[simp] theorem device_token : s.device.2.token = s.token := by
  simp only [token, device_get?_of_ne s deviceKey_ne_tokenKey]

/-- A stored non-empty device id is the id, and reading it changes nothing. -/
theorem device_of_stored {d : String} (h : s.store.get? deviceKey = some d) (hd : d ≠ "") :
    s.device = (d, s) := by
  have hd' : d.isEmpty = false := String.isEmpty_eq_false_iff.mpr hd
  simp only [device, h, hd', if_false, Bool.false_eq_true]

/-- After reading it, the device id is stored, and it is what the read returned. -/
theorem device_stored : s.device.2.store.get? deviceKey = some s.device.1 := by
  cases hstored : s.store.get? deviceKey with
  | none => simp only [device, hstored, device.mint, Store.get?_set_self]
  | some d =>
    by_cases hd : d.isEmpty
    · simp only [device, hstored, hd, device.mint, Store.get?_set_self, if_true]
    · simp only [device, hstored, hd, if_false, Bool.false_eq_true]

/-- The device id a session reads is never empty: an empty stored one is replaced. -/
theorem device_ne_empty : s.device.1 ≠ "" := by
  cases hstored : s.store.get? deviceKey with
  | none => simpa only [device, hstored, device.mint] using mintedDevice_ne_empty _
  | some d =>
    by_cases hd : d.isEmpty
    · simpa only [device, hstored, hd, device.mint, if_true] using mintedDevice_ne_empty _
    · simpa only [device, hstored, hd, if_false, Bool.false_eq_true] using
        String.isEmpty_eq_false_iff.mp (by simpa using hd)

@[simp] theorem setToken_get?_token (t : String) : (s.setToken t).store.get? tokenKey = some t := by
  simp [setToken]

@[simp] theorem clearToken_get?_token : s.clearToken.store.get? tokenKey = none := by
  simp [clearToken]

theorem setToken_get?_device (t : String) :
    (s.setToken t).store.get? deviceKey = s.store.get? deviceKey :=
  Store.get?_set_of_ne _ _ _ deviceKey_ne_tokenKey.symm

theorem clearToken_get?_device : s.clearToken.store.get? deviceKey = s.store.get? deviceKey :=
  Store.get?_remove_of_ne _ _ deviceKey_ne_tokenKey.symm

/-- A session is authenticated exactly when it stores a non-empty token. -/
theorem isAuthenticated_iff :
    s.isAuthenticated = true ↔ ∃ t, s.store.get? tokenKey = some t ∧ t ≠ "" := by
  unfold isAuthenticated token
  cases s.store.get? tokenKey with
  | none => simp
  | some t => simp

end Session

/-! ### Preparing and finishing a call -/

namespace Operation

variable {α : Type} (op : Operation α) (s : Session)

@[simp] theorem prepare_method : (op.prepare s).1.method = op.method := rfl

@[simp] theorem prepare_body : (op.prepare s).1.body = op.body := rfl

/-- Preparing a call reads the device id and nothing else. -/
@[simp] theorem prepare_session : (op.prepare s).2 = s.device.2 := by
  simp only [prepare, metadataFor]

/-- The metadata of a call: the device id, then the token when the call sends it. -/
theorem prepare_metadata :
    (op.prepare s).1.metadata.entries =
      (deviceKey, s.device.1) :: if op.withToken then [(tokenKey, s.token)] else [] := by
  simp only [prepare, metadataFor]
  split
  · simp [Metadata.insert, Metadata.insertEntry, deviceKey_ne_tokenKey]
  · simp [Metadata.insert, Metadata.insertEntry]

/-- The session after a call is what the outcome makes of the session after preparing it. -/
theorem run_session (t : Request → Except CallError (List UInt8)) :
    (op.run t s).2.2 = op.after (op.run t s).2.1 (op.prepare s).2 := rfl

end Operation

/-! ### The client's operations -/

/-- A call of one of the client's operations, with its arguments. -/
inductive ClientCall where
  | signIn (email password : String)
  | signUp (name email password : String)
  | signOut
  | getRoadmaps
  | getRoadmap (id : Int64)
  | createRoadmap (name description : String)
  | getMilestones (roadmapId : Int64)
  | createMilestone (roadmapId : Int64) (subjectId : Option Int64) (level : TopicLevel)
      (name description : String) (targetDate : Option Calendar.Moment)
  | getSubjects
  | createSubject (name description : String)
  | searchSubjects (query : String)
  | search (query : String)
  | getResources (subjectId : Int64)
  | createResource (r : NewResource)
  | addResource (subjectId resourceId : Int64)
  | getSections (resourceId : Int64)
  | markSectionReviewed (sectionId : Int64)
  | getSectionCards (sectionId : Int64)
  | getTopicCards (topic : TopicRef)
  | getCard (cardId : Int64)
  | createCard (sectionId : Int64) (headline : String) (blocks : List Block)
  | moveCard (cardId sectionId : Int64) (position : Int32)
  | addCardToTopic (cardId : Int64) (topic : TopicRef)
  | getTopics (subjectId : Int64) (level : TopicLevel)
  | createTopic (subjectId : Int64) (level : TopicLevel) (name : String)
  | editTopic (topic : TopicRef) (name : String)
  | removeTopic (topic : TopicRef)
  | moveTopic (topic : TopicRef) (targetPosition : Int32)

namespace ClientCall

/-- What a call returns when it succeeds. -/
def Result : ClientCall → Type
  | signIn .. => SignedIn
  | signUp .. => UserInfo
  | signOut => Unit
  | getRoadmaps => List Model.Roadmap
  | getRoadmap .. => Model.Roadmap
  | createRoadmap .. => Model.Roadmap
  | getMilestones .. => List Model.Milestone
  | createMilestone .. => Model.Milestone
  | getSubjects => List Model.Subject
  | createSubject .. => Model.Subject
  | searchSubjects .. => List Model.Subject
  | search .. => List Model.SearchResult
  | getResources .. => List Model.Resource
  | createResource .. => Model.Resource
  | addResource .. => Unit
  | getSections .. => List Model.Section
  | markSectionReviewed .. => Unit
  | getSectionCards .. => List Model.Card
  | getTopicCards .. => List Model.Card
  | getCard .. => Model.Card
  | createCard .. => Model.Card
  | moveCard .. => Unit
  | addCardToTopic .. => Unit
  | getTopics .. => List Model.Topic
  | createTopic .. => Model.Topic
  | editTopic .. => Model.Topic
  | removeTopic .. => Unit
  | moveTopic .. => Unit

/-- The operation a call runs. -/
def operation : (c : ClientCall) → Operation c.Result
  | signIn email password => Service.signIn email password
  | signUp name email password => Service.signUp name email password
  | signOut => Service.signOut
  | getRoadmaps => Service.getRoadmaps
  | getRoadmap id => Service.getRoadmap id
  | createRoadmap name description => Service.createRoadmap name description
  | getMilestones roadmapId => Service.getMilestones roadmapId
  | createMilestone roadmapId subjectId level name description targetDate =>
    Service.createMilestone roadmapId subjectId level name description targetDate
  | getSubjects => Service.getSubjects
  | createSubject name description => Service.createSubject name description
  | searchSubjects query => Service.searchSubjects query
  | search query => Service.search query
  | getResources subjectId => Service.getResources subjectId
  | createResource r => Service.createResource r
  | addResource subjectId resourceId => Service.addResource subjectId resourceId
  | getSections resourceId => Service.getSections resourceId
  | markSectionReviewed sectionId => Service.markSectionReviewed sectionId
  | getSectionCards sectionId => Service.getSectionCards sectionId
  | getTopicCards topic => Service.getTopicCards topic
  | getCard cardId => Service.getCard cardId
  | createCard sectionId headline blocks => Service.createCard sectionId headline blocks
  | moveCard cardId sectionId position => Service.moveCard cardId sectionId position
  | addCardToTopic cardId topic => Service.addCardToTopic cardId topic
  | getTopics subjectId level => Service.getTopics subjectId level
  | createTopic subjectId level name => Service.createTopic subjectId level name
  | editTopic topic name => Service.editTopic topic name
  | removeTopic topic => Service.removeTopic topic
  | moveTopic topic targetPosition => Service.moveTopic topic targetPosition

/-- Signing in and signing up go without the session token. -/
def anonymous : ClientCall → Bool
  | signIn .. | signUp .. => true
  | _ => false

/-- Signing in and signing out are the calls whose outcome may change the token. -/
def touchesToken : ClientCall → Bool
  | signIn .. | signOut => true
  | _ => false

theorem operation_withToken (c : ClientCall) : c.operation.withToken = !c.anonymous := by
  cases c <;> rfl

/-- A call other than signing in or out leaves the session as preparing it left it. -/
theorem after_of_not_touchesToken {c : ClientCall} (h : c.touchesToken = false)
    (r : Except CallError c.Result) (s : Session) : c.operation.after r s = s := by
  cases c <;> first | rfl | simp [touchesToken] at h

/-- Whatever a call's outcome does to the session, it keeps the stored device id. -/
theorem after_get?_device (c : ClientCall) (r : Except CallError c.Result) (s : Session) :
    (c.operation.after r s).store.get? deviceKey = s.store.get? deviceKey := by
  cases c with
  | signIn email password =>
    -- signing in stores the token of a successful reply
    cases r with
    | error e => rfl
    | ok si => exact Session.setToken_get?_device s si.token
  | signOut => exact Session.clearToken_get?_device s
  | _ => rfl

end ClientCall

end StudyPlanner.Service
