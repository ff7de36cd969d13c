import StudyPlanner.Calendar.Moment
import StudyPlanner.Text.Blank
import StudyPlanner.Text.Decimal
/-!
# Dates as text

Days are written `YYYY-MM-DD`. A year from 0 to 9999 takes four digits; any other year takes
a sign and at least four digits (`+10000`, `-0001`). The time of day, where it is shown, is
`THH:MM:SSZ`.

Typed dates are read with the same pattern but more freely, as people type them: blanks may
stand before each number, a year without a sign has one to four digits and one with a sign
any number, month and day have one or two digits, and the date must exist within the range
of the calendar. Nothing may follow the day.
-/

namespace StudyPlanner.Calendar

/-- A number written with at least `width` digits, zeros in front. -/
def padded (width n : Nat) : String :=
  let s := toString n
  String.ofList (List.replicate (width - s.length) '0') ++ s

/-- The text of a year: four digits from 0 to 9999, else a sign and at least four digits. -/
def yearText (y : Int) : String :=
  if 0 ≤ y ∧ y ≤ 9999 then padded 4 y.toNat
  else (if y < 0 then "-" else "+") ++ padded 4 y.natAbs

/-- A day as `YYYY-MM-DD`. -/
def CivilDate.text (d : CivilDate) : String :=
  yearText d.year ++ "-" ++ padded 2 d.month ++ "-" ++ padded 2 d.day

/-- A moment's day as `YYYY-MM-DD`. -/
def Moment.dayText (m : Moment) : String := m.date.text

/-- A moment to the second as `YYYY-MM-DDTHH:MM:SSZ`. -/
def Moment.stamp (m : Moment) : String :=
  let s := m.secondOfDay
  m.dayText ++ "T" ++ padded 2 (s / 3600) ++ ":" ++ padded 2 (s / 60 % 60) ++ ":" ++
    padded 2 (s % 60) ++ "Z"

/-- A day shown on a page: its text, or a dash when there is none. -/
def showDay : Option Moment → String
  | some m => m.dayText
  | none => "-"

/-- Splits off the leading ASCII digits, at most `max` of them. -/
def takeDigits (max : Nat) (cs : List Char) : List Char × List Char :=
  let ds := (cs.takeWhile Char.isDigit).take max
  (ds, cs.drop ds.length)

/-- Reads a number of one to `max` digits after optional blanks. -/
def readNumber (max : Nat) (cs : List Char) : Option (Nat × List Char) :=
  let (ds, rest) := takeDigits max (Text.trimFront cs)
  (Text.Decimal.readDigits? ds).map fun n => (n, rest)

/-- Reads digits right after a sign, as many as there are. -/
def readSignedDigits (cs : List Char) : Option (Nat × List Char) :=
  let (ds, rest) := takeDigits cs.length cs
  (Text.Decimal.readDigits? ds).map fun n => (n, rest)

/-- Reads a year after optional blanks: a sign and digits, or one to four digits. -/
def readYear (cs : List Char) : Option (Int × List Char) :=
  match Text.trimFront cs with
  | '-' :: rest => (readSignedDigits rest).map fun (n, r) => (-(n : Int), r)
  | '+' :: rest => (readSignedDigits rest).map fun (n, r) => ((n : Int), r)
  | rest => (readNumber 4 rest).map fun (n, r) => ((n : Int), r)

/-- Reads `year-month-day` and nothing after it. -/
def readCivil (cs : List Char) : Option CivilDate := do
  let (y, r) ← readYear cs
  let r ← match r with | '-' :: r => some r | _ => none
  let (m, r) ← readNumber 2 r
  let r ← match r with | '-' :: r => some r | _ => none
  let (d, r) ← readNumber 2 r
  if r.isEmpty then some { year := y, month := m, day := d } else none

/-- Reads a typed day as midnight UTC. Blank input is no day; `none` means the text is not
a day of the calendar. -/
def readDayInput (s : String) : Option (Option Moment) :=
  let t := Text.trimList s.toList
  if t.isEmpty then some none
  else match readCivil t with
    | none => none
    | some d =>
      if d.isValid && -262143 ≤ d.year && d.year ≤ 262142 then some (some (Moment.ofDate d))
      else none

end StudyPlanner.Calendar
