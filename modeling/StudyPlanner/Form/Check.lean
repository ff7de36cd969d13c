import StudyPlanner.Text.Blank
import StudyPlanner.Text.Decimal
import StudyPlanner.Calendar.Text
/-!
# Checking what people type into forms

A form is checked before anything is sent. Each check either passes or names the first
problem it finds, as a `FormError` with its own message:

* a required field must hold more than blanks;
* an email address, trimmed, has some text before its first `@` and some after it;
* signing in needs an email address and a password; signing up needs a name, an email
  address, a password of at least eight characters and the same password twice;
* a count must be a decimal number from 1 to `2^32 - 1`, blanks around it allowed;
* a typed date must be a day of the calendar, or blank.
-/

namespace StudyPlanner.Form

/-- The least number of characters in a password. -/
def minPasswordLength : Nat := 8

/-- The first problem found in a form. -/
inductive FormError where
  | required (label : String)
  | invalidEmail
  | shortPassword
  | passwordMismatch
  | notPositive (label : String)
  | invalidDate (text : String)
  | custom (text : String)
  deriving DecidableEq, Repr

/-- The message a form shows for each problem. -/
def FormError.message : FormError → String
  | .required label => label ++ " is required"
  | .invalidEmail => "Please enter a valid email"
  | .shortPassword => "Password must be at least " ++ toString minPasswordLength ++ " characters"
  | .passwordMismatch => "Passwords do not match"
  | .notPositive label => label ++ " must be a positive number"
  | .invalidDate text => "Invalid date: " ++ text
  | .custom text => text

/-- The outcome of a check. -/
abbrev Checked (α : Type) := Except FormError α

/-- A field that must hold more than blanks. -/
def required (label value : String) : Checked Unit :=
  if Text.isBlankText value then .error (.required label) else .ok ()

/-- An email address: text before the first `@` and text after it, once trimmed. -/
def email (value : String) : Checked Unit :=
  match (Text.trimList value.toList).span (· != '@') with
  | (user, _ :: domain) => if user.isEmpty || domain.isEmpty then .error .invalidEmail else .ok ()
  | (_, []) => .error .invalidEmail

/-- The sign-in form: an email address, then a password. -/
def signIn (emailValue password : String) : Checked Unit := do
  email emailValue
  required "Password" password

/-- The sign-up form: a name, an email address, a long enough password, typed twice. -/
def signUp (name emailValue password confirm : String) : Checked Unit := do
  required "Name" name
  email emailValue
  if password.length < minPasswordLength then .error .shortPassword
  else if password ≠ confirm then .error .passwordMismatch
  else .ok ()

/-- A positive count that fits in 32 bits. -/
def positiveCount (label value : String) : Checked UInt32 :=
  match Text.Decimal.readUInt32? (Text.trim value) with
  | some n => if n > 0 then .ok n else .error (.notPositive label)
  | none => .error (.notPositive label)

/-- A typed date: midnight UTC of the day, or none for a blank field. -/
def dateInput (value : String) : Checked (Option Calendar.Moment) :=
  match Calendar.readDayInput value with
  | some d => .ok d
  | none => .error (.invalidDate (Text.trim value))

end StudyPlanner.Form
