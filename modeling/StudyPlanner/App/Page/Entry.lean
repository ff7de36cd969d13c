import StudyPlanner.App.Action
import StudyPlanner.Form.Check
import StudyPlanner.Service.Calls
/-!
# Signing in and signing up

The two pages outside sign-in.

* The sign-in page sends a signed-in visitor straight home. Its form checks the email address
  and that a password is given, then signs in; on success the app goes home, on failure the
  password is cleared and the error shown.
* The sign-up page checks its four fields, then creates the account; on success every field is
  cleared and the page says who the account was created for.

Both trim the name and email address before checking and sending them; passwords are sent as
typed.
-/

namespace StudyPlanner.App

open Model Web View Service

namespace SignInPage

/-- The sign-in form. -/
structure State where
  email : String := ""
  password : String := ""
  notice : Option Notice := none
  deriving Repr, Inhabited

/-- The page as it first shows, and where a signed-in visitor is sent. -/
def start (signedIn : Bool) : State × List Effect :=
  ({}, if signedIn then [.navigate .home] else [])

/-- What an action does to the page. -/
def handle (a : SignInAction) (value : String) (s : State) : State × List Effect :=
  match a with
  | .setEmail => ({ s with email := value }, [])
  | .setPassword => ({ s with password := value }, [])
  | .submit => (s, [.start .signIn])

/-- Signing in with what the form holds. -/
def run (s : State) (c : Connection) : State × Connection × List Effect :=
  let s := { s with notice := none }
  let email := Text.trim s.email
  match Form.signIn email s.password with
  | .error e => ({ s with notice := some (.error e.message) }, c, [])
  | .ok () =>
    match c.call (signIn email s.password) with
    | (.ok _, c) => (s, c, [.navigate .home])
    | (.error e, c) => ({ s with password := "", notice := some (.error e.message) }, c, [])

/-- The page. -/
def render (s : State) : List (Node Action) :=
  [.el "div" [("class", "page page-narrow")]
    [.el "h1" [] [.text "Studymap"],
     muted "Sign in to continue studying",
     form "form" (.signIn .submit)
       (alert s.notice ++
         [textInput "email" "Email" s.email (.signIn .setEmail),
          textInput "password" "Password" s.password (.signIn .setPassword),
          submitButton "Sign in"]),
     .el "p" [("class", "muted")] [.text "No account yet? ", routeLink .signUp [.text "Create one"]]]]

end SignInPage

namespace SignUpPage

/-- The sign-up form. -/
structure State where
  name : String := ""
  email : String := ""
  password : String := ""
  confirm : String := ""
  notice : Option Notice := none
  deriving Repr, Inhabited

/-- What an action does to the page. -/
def handle (a : SignUpAction) (value : String) (s : State) : State × List Effect :=
  match a with
  | .setName => ({ s with name := value }, [])
  | .setEmail => ({ s with email := value }, [])
  | .setPassword => ({ s with password := value }, [])
  | .setConfirm => ({ s with confirm := value }, [])
  | .submit => (s, [.start .signUp])

/-- Creating the account the form describes. -/
def run (s : State) (c : Connection) : State × Connection × List Effect :=
  let s := { s with notice := none }
  let name := Text.trim s.name
  let email := Text.trim s.email
  match Form.signUp name email s.password s.confirm with
  | .error e => ({ s with notice := some (.error e.message) }, c, [])
  | .ok () =>
    match c.call (signUp name email s.password) with
    | (.ok user, c) =>
      ({ notice := some (.success ("Account created for " ++ user.displayName ++
          ". You can sign in now.")) }, c, [])
    | (.error e, c) => ({ s with notice := some (.error e.message) }, c, [])

/-- The page. -/
def render (s : State) : List (Node Action) :=
  [.el "div" [("class", "page page-narrow")]
    [.el "h1" [] [.text "Create Account"],
     muted "Sign up for Studymap",
     form "form" (.signUp .submit)
       (alert s.notice ++
         [textInput "text" "Name" s.name (.signUp .setName),
          textInput "email" "Email" s.email (.signUp .setEmail),
          textInput "password" "Password (min 8 characters)" s.password (.signUp .setPassword),
          textInput "password" "Confirm password" s.confirm (.signUp .setConfirm),
          submitButton "Sign up"]),
     .el "p" [("class", "muted")] [.text "Already have an account? ", routeLink .signIn [.text "Sign in"]]]]

end SignUpPage

end StudyPlanner.App
