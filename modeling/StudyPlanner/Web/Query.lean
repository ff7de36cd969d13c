import StudyPlanner.Text.Blank
import StudyPlanner.Text.Decimal
import StudyPlanner.Text.Percent
/-!
# Query strings

Pages take their parameters from the query of their URL, in the form encoding of HTML forms:
pairs `key=value` joined by `&`, where a space is written `+` and every byte but ASCII letters,
digits and `*-._` is percent-encoded.

Reading takes what follows the first `?` (or the whole text when there is none) up to the
first `#`, skips empty pieces between `&`s, splits each piece at its first `=` (a piece
without one has an empty value) and decodes both sides: `+` to a space, then
percent-decoding, then UTF-8, lossily. Looking a key up takes its first pair.

Writing skips text values that are empty and writes numbers in decimal.
-/

namespace StudyPlanner.Web

/-- Decodes one side of a pair: `+` is a space, then percent-decoding and UTF-8. -/
def decodeFormComponent (cs : List Char) : String :=
  let bytes := (Text.Utf8.encode (String.ofList cs)).map fun b => if b.toNat = 0x2B then 0x20 else b
  Text.Utf8.decodeLossy (Text.Percent.decodeBytes bytes)

/-- Splits a character list at every occurrence of a separator. -/
def splitAt (sep : Char) : List Char → List (List Char)
  | [] => [[]]
  | c :: rest =>
    match splitAt sep rest with
    | piece :: more => if c = sep then [] :: piece :: more else (c :: piece) :: more
    | [] => [[c]]

/-- The pair a non-empty piece of a query writes. -/
def pairOfPiece (piece : List Char) : String × String :=
  match piece.span (· != '=') with
  | (k, []) => (decodeFormComponent k, "")
  | (k, _ :: v) => (decodeFormComponent k, decodeFormComponent v)

/-- The query part of a URL or query text: after the first `?`, before the first `#`. -/
def queryPart (cs : List Char) : List Char :=
  let afterMark := match cs.span (· != '?') with
    | (_, _ :: q) => q
    | (whole, []) => whole
  afterMark.takeWhile (· != '#')

/-- The pairs of a query, in order. -/
structure QueryMap where
  pairs : List (String × String) := []
  deriving DecidableEq, Repr, Inhabited

namespace QueryMap

/-- Reads the pairs of a query text, or of the query of a URL. -/
def parse (input : String) : QueryMap :=
  { pairs := ((splitAt '&' (queryPart input.toList)).filter (!·.isEmpty)).map pairOfPiece }

/-- The value of the first pair with the key. -/
def get? (q : QueryMap) (key : String) : Option String :=
  (q.pairs.find? fun p => p.1 == key).map (·.2)

/-- The first value of the key, trimmed and read as a 64-bit integer. -/
def getInt64? (q : QueryMap) (key : String) : Option Int64 :=
  (q.get? key).bind fun v => Text.Decimal.readInt64? (Text.trim v)

/-- The first value of the key, trimmed and read as a 32-bit integer, or the default. -/
def getInt32D (q : QueryMap) (key : String) (default : Int32) : Int32 :=
  ((q.get? key).bind fun v => Text.Decimal.readInt32? (Text.trim v)).getD default

end QueryMap

/-- A byte the form encoding writes as itself: ASCII letters, digits and `*-._`. -/
def isFormSafe (b : UInt8) : Bool :=
  Text.Percent.isAlphanumeric b || b.toNat = 0x2A || b.toNat = 0x2D || b.toNat = 0x2E ||
    b.toNat = 0x5F

/-- The form encoding of one side of a pair: a space as `+`, other bytes escaped. -/
def encodeFormComponent (s : String) : String :=
  String.ofList ((Text.Utf8.encode s).flatMap fun b =>
    if b.toNat = 0x20 then ['+']
    else if isFormSafe b then [Char.ofNat b.toNat]
    else Text.Percent.escapeByte b)

/-- A query being written: its pairs so far. -/
structure QueryWriter where
  pairs : List (String × String) := []
  deriving DecidableEq, Repr, Inhabited

namespace QueryWriter

/-- Adds a text pair, unless the value is empty. -/
def push (w : QueryWriter) (key value : String) : QueryWriter :=
  if value.isEmpty then w else { pairs := w.pairs ++ [(key, value)] }

/-- Adds a number pair, in decimal. -/
def pushInt (w : QueryWriter) (key : String) (value : Int) : QueryWriter :=
  { pairs := w.pairs ++ [(key, Text.Decimal.ofInt value)] }

/-- The query text of the pairs. -/
def finish (w : QueryWriter) : String :=
  "&".intercalate (w.pairs.map fun p => encodeFormComponent p.1 ++ "=" ++ encodeFormComponent p.2)

end QueryWriter

end StudyPlanner.Web
