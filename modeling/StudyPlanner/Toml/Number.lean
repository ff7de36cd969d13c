import StudyPlanner.Toml.Scan
/-!
# Reading numbers and dates

A value that starts with a sign or a digit is read, in this order, as a date-time, a float or
an integer; the first that reads wins, and a final failure in one of them ends the reading.

* A date is `YYYY-MM-DD` with the month in 1..12 and the day within its month; a time is
  `HH:MM:SS` with an optional fraction, hours to 23, minutes to 59, seconds to 60; a date may
  be followed by `T`, `t` or a space and a time, and that by `Z`, `z` or `±HH:MM`.
* A decimal integer has an optional sign, no leading zero, and single underscores between
  digits; `0x`, `0o` and `0b` start a hexadecimal, octal or binary one without sign. It must
  fit in 64 bits.
* A float is a decimal integer followed by a fraction, an exponent or both, or `inf` or `nan`
  with an optional sign. One that is too large for a 64-bit float (positive only) is refused.
-/

namespace StudyPlanner.Toml

/-! ## Digits with underscores -/

/-- Reads digits and single underscores, each underscore followed by a digit; the digits
read so far are `acc`. An underscore without a digit after it is a final failure. -/
def digitRun (isDigit : Char → Bool) : Nat → List Char → Cursor → Reading (List Char)
  | 0, acc, c => .ok (acc, c)
  | fuel + 1, acc, c =>
    match c.rest with
    | '_' :: d :: _ =>
      if isDigit d then digitRun isDigit fuel (acc ++ ['_', d]) (c.skip 2)
      else .error { offset := c.next.offset, expected := [.described "digit"], cut := true }
    | ['_'] => .error { offset := c.next.offset, expected := [.described "digit"], cut := true }
    | d :: _ => if isDigit d then digitRun isDigit fuel (acc ++ [d]) c.next else .ok (acc, c)
    | [] => .ok (acc, c)

/-- Reads a digit and the digits and underscores after it, leading zeros allowed. -/
def zeroPrefixable (c : Cursor) : Reading (List Char) :=
  match c.peek? with
  | some d => if isDigitChar d then digitRun isDigitChar c.fuel [d] c.next else .error c.stop
  | none => .error c.stop

/-- Reads the text of a decimal integer: a sign, then `0` or a non-zero digit with digits and
underscores after it. -/
def decInt (c : Cursor) : Reading (List Char) :=
  let (sign, c1) := match c.peek? with
    | some '+' => (['+'], c.next)
    | some '-' => (['-'], c.next)
    | _ => ([], c)
  let r : Reading (List Char) :=
    match c1.peek? with
    | some d =>
      if '1' ≤ d && d ≤ '9' then digitRun isDigitChar c1.fuel (sign ++ [d]) c1.next
      else if d = '0' then .ok (sign ++ [d], c1.next)
      else .error c1.stop
    | none => .error c1.stop
  match r with
  | .ok v => .ok v
  | .error f => .error (f.within "integer")

/-! ## Integers -/

/-- The value of a decimal integer's text: sign and digits, underscores left out. -/
def decIntValue (cs : List Char) : Int :=
  let ds := cs.filter isDigitChar
  let n : Int := digitsIn 10 hexCharValue ds
  if cs.head? = some '-' then -n else n

/-- The largest 64-bit integer. -/
def int64Max : Int := 9223372036854775807

/-- Checks that an integer read at `start` fits in 64 bits. -/
def fitInt64 (start : Cursor) (n : Int) (c : Cursor) : Reading Int :=
  if n > int64Max then .error { offset := start.offset, cause := some "number too large to fit in target type", cut := true }
  else if n < -int64Max - 1 then .error { offset := start.offset, cause := some "number too small to fit in target type", cut := true }
  else .ok (n, c)

/-- Reads an integer with a base prefix (`0x`, `0o` or `0b`): the cursor stands on the `0`. -/
def prefixedInt (base : Nat) (isDigit : Char → Bool) (label : String) (c : Cursor) : Reading Int :=
  let c1 := c.skip 2
  let body : Reading (List Char) :=
    match c1.peek? with
    | some d => if isDigit d then digitRun isDigit c1.fuel [d] c1.next else .error c1.stop
    | none => .error c1.stop
  match body with
  | .error f => .error (f.within label).toCut
  | .ok (ds, c2) => fitInt64 c (digitsIn base hexCharValue (ds.filter (· ≠ '_'))) c2

/-- Reads an integer, decimal or with a base prefix. -/
def integer (c : Cursor) : Reading Int :=
  if c.startsWith "0x" then prefixedInt 16 isHexChar "hexadecimal integer" c
  else if c.startsWith "0o" then prefixedInt 8 (fun d => '0' ≤ d && d ≤ '7') "octal integer" c
  else if c.startsWith "0b" then prefixedInt 2 (fun d => d = '0' || d = '1') "binary integer" c
  else
    match decInt c with
    | .error f => .error f
    | .ok (cs, c1) => fitInt64 c (decIntValue cs) c1

/-! ## Floats -/

/-- Reads an exponent: `e` or `E`, a sign, digits. Missing digits are a final failure. -/
def exponent? (c : Cursor) : Option (Reading (List Char)) :=
  match c.peek? with
  | some 'e' | some 'E' =>
    let c1 := c.next
    let (sign, c2) := match c1.peek? with
      | some '+' => (['+'], c1.next)
      | some '-' => (['-'], c1.next)
      | _ => ([], c1)
    some (match zeroPrefixable c2 with
      | .ok (ds, c3) => .ok (['e'] ++ sign ++ ds, c3)
      | .error f => .error f.toCut)
  | _ => none

/-- Reads the text of a float written with digits: a decimal integer and then an exponent, or a
fraction and perhaps an exponent. -/
def floatText (c : Cursor) : Reading (List Char) :=
  match decInt c with
  | .error f => .error f
  | .ok (whole, c1) =>
    match exponent? c1 with
    | some (.ok (e, c2)) => .ok (whole ++ e, c2)
    | some (.error f) => .error f
    | none =>
      if c1.peek? = some '.' then
        match zeroPrefixable c1.next with
        | .error f => .error (f.expecting (.described "digit")).toCut
        | .ok (frac, c2) =>
          match exponent? c2 with
          | some (.ok (e, c3)) => .ok (whole ++ ['.'] ++ frac ++ e, c3)
          | some (.error f) => .error f
          | none => .ok (whole ++ ['.'] ++ frac, c2)
      else .error c1.stop

/-- The decimal a float's text stands for: sign, digits and power of ten. -/
def floatOfText (cs : List Char) : FloatValue :=
  let negative := cs.head? = some '-'
  let body := cs.filter (fun ch => ch ≠ '_' && ch ≠ '+' && ch ≠ '-')
  let mantissa := body.takeWhile (fun ch => ch ≠ 'e')
  let expText := (cs.dropWhile (fun ch => ch ≠ 'e')).drop 1
  let expValue : Int :=
    let ds := expText.filter isDigitChar
    let n : Int := digitsIn 10 hexCharValue ds
    if expText.head? = some '-' then -n else n
  let intPart := mantissa.takeWhile (· ≠ '.')
  let fracPart := (mantissa.dropWhile (· ≠ '.')).drop 1
  .finite negative ((intPart ++ fracPart).map (fun d => d.toNat - '0'.toNat))
    (expValue - fracPart.length)

/-- The digits without leading zeros. -/
def trimLeadingZeros (ds : List Nat) : List Nat := ds.dropWhile (· = 0)

/-- Whether a positive decimal `digits · 10^e` rounds to infinity as a 64-bit float, that is
whether it is at least `2^1024 - 2^970`. -/
def overflowsFloat (digits : List Nat) (e : Int) : Bool :=
  let ds := trimLeadingZeros digits
  if ds.isEmpty then false
  else
    let magnitude : Int := ds.length + e
    if magnitude > 310 then true
    else if magnitude < 308 then false
    else
      let m := ds.foldl (fun acc d => acc * 10 + d) 0
      let limit := (Nat.pow 2 54 - 1) * Nat.pow 2 970
      if e ≥ 0 then m * Nat.pow 10 e.toNat ≥ limit else m ≥ limit * Nat.pow 10 (-e).toNat

/-- Reads `inf` or `nan` with an optional sign. -/
def specialFloat (c : Cursor) : Reading FloatValue :=
  let (negative, c1) := match c.peek? with
    | some '+' => (false, c.next)
    | some '-' => (true, c.next)
    | _ => (false, c)
  if c1.startsWith "inf" then .ok (.infinite negative, c1.skip 3)
  else if c1.startsWith "nan" then .ok (.nan, c1.skip 3)
  else .error c1.stop

/-- Reads a float. -/
def float (c : Cursor) : Reading FloatValue :=
  let r : Reading FloatValue :=
    match floatText c with
    | .ok (cs, c1) =>
      match floatOfText cs with
      | .finite false ds e =>
        if overflowsFloat ds e then .error { offset := c.offset, cut := true }
        else .ok (.finite false ds e, c1)
      | v => .ok (v, c1)
    | .error f => if f.cut then .error f else specialFloat c
  match r with
  | .ok v => .ok v
  | .error f => .error (f.within "floating-point number")

/-! ## Dates and times -/

/-- Reads exactly `n` digits and their value. -/
def fixedDigits (n : Nat) (c : Cursor) : Reading Nat :=
  let ds := (c.rest.take n).takeWhile isDigitChar
  if ds.length = n then .ok (digitsIn 10 hexCharValue ds, c.skip n) else .error c.stop

/-- Reads `n` digits whose value must lie in `lo..hi`; a value outside is a failure at the
first digit with the range as its cause. -/
def rangedDigits (n lo hi : Nat) (c : Cursor) : Reading Nat :=
  match fixedDigits n c with
  | .ok (v, c1) =>
    if lo ≤ v ∧ v ≤ hi then .ok (v, c1) else .error { c.stop with cause := some outOfRange }
  | .error f => .error f

/-- Reads a character `ch`. -/
def char (ch : Char) (c : Cursor) : Reading Unit :=
  if c.peek? = some ch then .ok ((), c.next) else .error c.stop

/-- The days of a month; February has 29 in a leap year. -/
def monthDays (year month : Nat) : Nat :=
  if month = 2 then (if year % 4 = 0 ∧ (year % 100 ≠ 0 ∨ year % 400 = 0) then 29 else 28)
  else if month = 4 ∨ month = 6 ∨ month = 9 ∨ month = 11 then 30
  else 31

/-- Reads a date `YYYY-MM-DD`. After the first dash every failure is final. -/
def fullDate (c : Cursor) : Except Fault (Unit × Cursor) := do
  let (year, c1) ← fixedDigits 4 c
  let ((), c2) ← char '-' c1
  let cut {α : Type} (r : Reading α) : Reading α := match r with
    | .ok v => .ok v
    | .error f => .error f.toCut
  let (month, c3) ← cut (rangedDigits 2 1 12 c2)
  let ((), c4) ← cut (char '-' c3)
  let (day, c5) ← cut (rangedDigits 2 1 31 c4)
  if monthDays year month < day then .error { c4.stop with cause := some outOfRange, cut := true }
  else .ok ((), c5)

/-- Reads a time `HH:MM:SS` with an optional fraction. After the colon every failure is final. -/
def partialTime (c : Cursor) : Except Fault (Unit × Cursor) := do
  let (_, c1) ← rangedDigits 2 0 23 c
  let ((), c2) ← char ':' c1
  let cut {α : Type} (r : Reading α) : Reading α := match r with
    | .ok v => .ok v
    | .error f => .error f.toCut
  let (_, c3) ← cut (rangedDigits 2 0 59 c2)
  let ((), c4) ← cut (char ':' c3)
  let (_, c5) ← cut (rangedDigits 2 0 60 c4)
  if c5.peek? = some '.' then
    let (ds, c6) := c5.next.takeWhile isDigitChar
    if ds.isEmpty then .ok ((), c5) else .ok ((), c6)
  else .ok ((), c5)

/-- Reads a time offset: `Z`, `z`, or a sign, hours and minutes. -/
def timeOffset (c : Cursor) : Reading Unit :=
  let r : Reading Unit :=
    match c.peek? with
    | some 'Z' | some 'z' => .ok ((), c.next)
    | some '+' | some '-' =>
      let c1 := c.next
      match rangedDigits 2 0 23 c1 with
      | .error f => .error f.toCut
      | .ok (_, c2) =>
        match char ':' c2 with
        | .error f => .error f.toCut
        | .ok (_, c3) =>
          match rangedDigits 2 0 59 c3 with
          | .error f => .error f.toCut
          | .ok (_, c4) => .ok ((), c4)
    | _ => .error c.stop
  match r with
  | .ok v => .ok v
  | .error f => .error (f.within "time offset")

/-- Reads what may follow a date: a delimiter, a time and perhaps an offset. A failure that is
not final leaves the date alone. -/
def dateSuffix (c : Cursor) : Reading Unit :=
  match c.peek? with
  | some 'T' | some 't' | some ' ' =>
    match partialTime c.next with
    | .error f => if f.cut then .error f else .ok ((), c)
    | .ok (_, c1) =>
      match timeOffset c1 with
      | .ok (_, c2) => .ok ((), c2)
      | .error f => if f.cut then .error f else .ok ((), c1)
  | _ => .ok ((), c)

/-- Reads a date-time, a date, or a time. -/
def dateTime (c : Cursor) : Reading Unit :=
  let withDate : Reading Unit :=
    match fullDate c with
    | .error f => .error f
    | .ok (_, c1) => dateSuffix c1
  match withDate with
  | .ok v => .ok v
  | .error f =>
    if f.cut then .error (f.within "date-time")
    else
      match partialTime c with
      | .ok v => .ok v
      | .error g => .error (g.within "time")

/-- Reads a value that starts with a sign or a digit: a date-time, else a float, else an
integer. -/
def numberOrDate (c : Cursor) : Reading Scalar :=
  match dateTime c with
  | .ok (_, c1) => .ok (.datetime, c1)
  | .error f =>
    if f.cut then .error f
    else
      match float c with
      | .ok (v, c1) => .ok (.float v, c1)
      | .error g =>
        if g.cut then .error g
        else
          match integer c with
          | .ok (n, c1) => .ok (.integer n, c1)
          | .error h => .error h

end StudyPlanner.Toml
