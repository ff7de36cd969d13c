import StudyPlanner.App.Action
import StudyPlanner.Service.Calls
/-!
# The account page and signing out

The account page shows whether the session holds a token, the device id and the service's
endpoint. Showing the device id is what first gives the session one, so the page takes it when
it is entered.

Signing out — from this page or from the bar at the top of every signed-in page — tells the
service, forgets the token whatever the service answers, and goes to the sign-in page.
-/

namespace StudyPlanner.App

open Model Web View Service

namespace AccountPage

/-- Entering the page: the session with a device id. -/
def start (c : Connection) : Connection :=
  { c with session := c.session.device.2 }

/-- The page. -/
def render (c : Connection) : List (Node Action) :=
  let device := (c.session.store.get? deviceKey).getD ""
  let status := if c.signedIn then "Signed in" else "Signed out"
  [.el "h1" [] [.text "Account"],
   .el "dl" [("class", "details")]
     [.el "dt" [] [.text "Status"], .el "dd" [] [.text status],
      .el "dt" [] [.text "Device"], .el "dd" [] [.el "code" [] [.text device]],
      .el "dt" [] [.text "Service"], .el "dd" [] [.el "code" [] [.text c.endpoint.base]]],
   signOutButton false (.signOut false)]

end AccountPage

/-- Signing out: the call, whose failure is ignored, and then the sign-in page. -/
def signOutNow (c : Connection) : Connection × List Effect :=
  ((c.call signOut).2, [.navigate .signIn])

end StudyPlanner.App
