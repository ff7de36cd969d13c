import StudyPlanner.Toml.Fault
/-!
# Reading blanks, comments, strings and keys

The readers here work on a `Cursor`: the characters not read yet and the number of bytes read
so far, which is what every span and failure is measured in. A reader returns what it read and
the cursor after it, or a `Fault`.

* Blanks are spaces and tabs; a line ends with a line feed, or a carriage return and a line
  feed; a comment runs from `#` to the end of the line and holds no control character but tab.
* A basic string is written between `"` and may hold escapes (`\b \t \n \f \r \" \\`, `\uXXXX`,
  `\UXXXXXXXX`); a literal string between `'` holds its characters as they are. Both have a
  multi-line form between triple quotes, where a line feed right after the opening quotes is
  dropped and, in the basic form, a backslash at the end of a line swallows the line break and
  the blanks after it.
* A key is one or more simple keys joined by dots: a bare key of letters, digits, `_` and `-`,
  or a quoted string.

Loops that go through the input carry fuel: the number of characters left, plus one, since
each turn reads at least one character.
-/

namespace StudyPlanner.Toml

/-- A position in the input: the characters not read yet and the bytes read so far. -/
structure Cursor where
  rest : List Char
  offset : Nat
  deriving DecidableEq, Repr, Inhabited

/-- The result of a reader: what it read and the cursor after it, or why it failed. -/
abbrev Reading (α : Type) := Except Fault (α × Cursor)

/-- Reads the characters for which `p` holds, from a list starting at byte offset `o`. -/
def scanWhile (p : Char → Bool) : List Char → Nat → List Char × Cursor
  | [], o => ([], ⟨[], o⟩)
  | ch :: tail, o =>
    if p ch then
      let r := scanWhile p tail (o + ch.utf8Size)
      (ch :: r.1, r.2)
    else ([], ⟨ch :: tail, o⟩)

namespace Cursor

/-- The cursor at the start of a text. -/
def start (s : String) : Cursor := ⟨s.toList, 0⟩

/-- The cursor one character further; at the end it stays where it is. -/
def next (c : Cursor) : Cursor :=
  match c.rest with
  | [] => c
  | ch :: tail => ⟨tail, c.offset + ch.utf8Size⟩

/-- The cursor `n` characters further. -/
def skip : Nat → Cursor → Cursor
  | 0, c => c
  | n + 1, c => skip n c.next

/-- The next character, if any. -/
def peek? (c : Cursor) : Option Char := c.rest.head?

/-- Whether the next characters are those of `s`. -/
def startsWith (c : Cursor) (s : String) : Bool := s.toList.isPrefixOf c.rest

/-- Whether every character has been read. -/
def atEnd (c : Cursor) : Bool := c.rest.isEmpty

/-- A failure that lets an enclosing reader try something else, here. -/
def stop (c : Cursor) : Fault := { offset := c.offset }

/-- A final failure here, reading a thing labelled `l`. -/
def cutWithin (c : Cursor) (l : String) : Fault := { offset := c.offset, label := some l, cut := true }

/-- Reads the characters for which `p` holds. -/
def takeWhile (p : Char → Bool) (c : Cursor) : List Char × Cursor := scanWhile p c.rest c.offset

/-- The number of characters left, plus one: fuel for a loop that reads one or more a turn. -/
def fuel (c : Cursor) : Nat := c.rest.length + 1

end Cursor

/-! ## Character classes -/

/-- A blank: space or tab. -/
def isWsChar (c : Char) : Bool := c = ' ' || c = '\t'

/-- A character a comment may hold: tab, printable ASCII, or anything beyond ASCII. -/
def isNonEol (c : Char) : Bool :=
  c = '\t' || (0x20 ≤ c.toNat && c.toNat ≤ 0x7E) || 0x80 ≤ c.toNat

/-- A character a basic string holds as itself: not a control but tab, not `"`, not `\`. -/
def isBasicUnescaped (c : Char) : Bool :=
  c = '\t' || c = ' ' || c = '!' || (0x23 ≤ c.toNat && c.toNat ≤ 0x5B) ||
    (0x5D ≤ c.toNat && c.toNat ≤ 0x7E) || 0x80 ≤ c.toNat

/-- A character a literal string holds: not a control but tab, not `'`. -/
def isLiteralChar (c : Char) : Bool :=
  c = '\t' || (0x20 ≤ c.toNat && c.toNat ≤ 0x26) || (0x28 ≤ c.toNat && c.toNat ≤ 0x7E) ||
    0x80 ≤ c.toNat

/-- A character of a bare key: an ASCII letter or digit, `_` or `-`. -/
def isKeyChar (c : Char) : Bool :=
  ('a' ≤ c && c ≤ 'z') || ('A' ≤ c && c ≤ 'Z') || ('0' ≤ c && c ≤ '9') || c = '_' || c = '-'

/-- An ASCII digit. -/
def isDigitChar (c : Char) : Bool := '0' ≤ c && c ≤ '9'

/-- An ASCII hexadecimal digit, in either case. -/
def isHexChar (c : Char) : Bool :=
  isDigitChar c || ('a' ≤ c && c ≤ 'f') || ('A' ≤ c && c ≤ 'F')

/-- The value of a hexadecimal digit. -/
def hexCharValue (c : Char) : Nat :=
  if isDigitChar c then c.toNat - '0'.toNat
  else if 'a' ≤ c && c ≤ 'f' then c.toNat - 'a'.toNat + 10
  else c.toNat - 'A'.toNat + 10

/-- The value of digits in base `b`, most significant first. -/
def digitsIn (b : Nat) (value : Char → Nat) (ds : List Char) : Nat :=
  ds.foldl (fun acc d => acc * b + value d) 0

/-! ## Blanks, line ends and comments -/

/-- Skips blanks. -/
def skipWs (c : Cursor) : Cursor := (c.takeWhile isWsChar).2

/-- Reads a line end: a line feed, or a carriage return and a line feed. -/
def newline (c : Cursor) : Reading Unit :=
  match c.rest with
  | '\n' :: _ => .ok ((), c.next)
  | '\r' :: '\n' :: _ => .ok ((), c.next.next)
  | '\r' :: _ => .error c.next.stop
  | _ => .error c.stop

/-- Reads a comment if one starts here: `#` and the characters up to the end of the line. -/
def comment? (c : Cursor) : Option Cursor :=
  match c.rest with
  | '#' :: _ => some (c.next.takeWhile isNonEol).2
  | _ => none

/-- Reads the end of a line or of the input. -/
def lineEnding (c : Cursor) : Reading Unit :=
  match newline c with
  | .ok r => .ok r
  | .error _ => if c.atEnd then .ok ((), c) else .error c.stop

/-- Reads what may end a line after a value or a header: blanks, a comment, the line end. -/
def lineTrailing (c : Cursor) : Reading Unit :=
  let c1 := skipWs c
  lineEnding ((comment? c1).getD c1)

/-- Reads blanks, comments and line ends, as between the values of an array. A comment must
be followed by a line end here. -/
def wsCommentNewline : Nat → Cursor → Reading Unit
  | 0, c => .ok ((), c)
  | fuel + 1, c =>
    let c1 := skipWs c
    match c1.peek? with
    | some '#' =>
      match newline ((comment? c1).getD c1) with
      | .ok (_, c2) => wsCommentNewline fuel c2
      | .error f => .error f
    | some '\n' | some '\r' =>
      match newline c1 with
      | .ok (_, c2) => wsCommentNewline fuel c2
      | .error f => .error f
    | _ => .ok ((), c1)

/-- Reads blanks and line ends, any number of each. -/
def skipWsNewlines : Nat → Cursor → Cursor
  | 0, c => c
  | fuel + 1, c =>
    match newline c with
    | .ok (_, c1) => skipWsNewlines fuel c1
    | .error _ =>
      let (blanks, c1) := c.takeWhile isWsChar
      if blanks.isEmpty then c else skipWsNewlines fuel c1

/-! ## Escapes -/

/-- The escapes a basic string accepts after a backslash, as a failure lists them. -/
def escapeLetters : List Char := ['b', 'f', 'n', 'r', 't', 'u', 'U', '\\', '"']

/-- Reads the `n` hexadecimal digits of a `\u` or `\U` escape and the character they name,
which must be a Unicode scalar value. -/
def hexEscape (n : Nat) (label : String) (c : Cursor) : Reading Char :=
  let ds := (c.rest.take n).takeWhile isHexChar
  if ds.length ≠ n then .error (c.cutWithin label)
  else
    let v := digitsIn 16 hexCharValue ds
    if v < 0xD800 ∨ (0xDFFF < v ∧ v < 0x110000) then .ok (Char.ofNat v, c.skip n)
    else .error { c.cutWithin label with cause := some outOfRange }

/-- Reads what follows a backslash in a basic string and gives the character it stands for. -/
def escapeSeq (c : Cursor) : Reading Char :=
  match c.rest with
  | [] => .error c.stop
  | x :: _ =>
    let c1 := c.next
    if x = 'b' then .ok ('\x08', c1)
    else if x = 'f' then .ok ('\x0c', c1)
    else if x = 'n' then .ok ('\n', c1)
    else if x = 'r' then .ok ('\r', c1)
    else if x = 't' then .ok ('\t', c1)
    else if x = 'u' then hexEscape 4 "unicode 4-digit hex code" c1
    else if x = 'U' then hexEscape 8 "unicode 8-digit hex code" c1
    else if x = '\\' then .ok ('\\', c1)
    else if x = '"' then .ok ('"', c1)
    else .error { c1.cutWithin "escape sequence" with expected := escapeLetters.map .char }

/-! ## One-line strings -/

/-- Reads the inside of a basic string: plain characters and escapes, up to the first
character that is neither. -/
def basicChars : Nat → List Char → Cursor → Reading (List Char)
  | 0, acc, c => .ok (acc, c)
  | fuel + 1, acc, c =>
    match c.rest with
    | '\\' :: _ =>
      match escapeSeq c.next with
      | .ok (ch, c1) => basicChars fuel (acc ++ [ch]) c1
      | .error f => if f.cut then .error f else .ok (acc, c)
    | ch :: _ =>
      if isBasicUnescaped ch then
        let (run, c1) := c.takeWhile isBasicUnescaped
        basicChars fuel (acc ++ run) c1
      else .ok (acc, c)
    | [] => .ok (acc, c)

/-- Reads a basic string; the cursor stands on its opening `"`. -/
def basicString (c : Cursor) : Reading String :=
  match basicChars c.fuel [] c.next with
  | .error f => .error f
  | .ok (cs, c1) =>
    if c1.peek? = some '"' then .ok (String.ofList cs, c1.next)
    else .error (c1.cutWithin "basic string")

/-- Reads a literal string; the cursor stands on its opening `'`. -/
def literalString (c : Cursor) : Reading String :=
  let (cs, c1) := c.next.takeWhile isLiteralChar
  if c1.peek? = some '\'' then .ok (String.ofList cs, c1.next)
  else .error (c1.cutWithin "literal string")

/-! ## Multi-line strings -/

/-- Reads one or more backslashes that end a line, each with the blanks and line ends after it. -/
def escapedNewlines : Nat → Bool → Cursor → Option Cursor
  | 0, _, c => some c
  | fuel + 1, seen, c =>
    match c.rest with
    | '\\' :: _ =>
      match newline (skipWs c.next) with
      | .ok (_, c1) => escapedNewlines fuel true (skipWsNewlines c1.fuel c1)
      | .error _ => if seen then some c else none
    | _ => if seen then some c else none

/-- Reads one piece of the inside of a multi-line basic string: a run of plain characters, a
line-ending backslash (which stands for nothing), an escape, or a line end (a line feed). -/
def mlbContent (c : Cursor) : Reading (List Char) :=
  match c.rest with
  | '\\' :: _ =>
    match escapedNewlines c.fuel false c with
    | some c1 => .ok ([], c1)
    | none =>
      match escapeSeq c.next with
      | .ok (ch, c1) => .ok ([ch], c1)
      | .error f => .error f
  | ch :: _ =>
    if isBasicUnescaped ch then .ok (c.takeWhile isBasicUnescaped)
    else
      match newline c with
      | .ok (_, c1) => .ok (['\n'], c1)
      | .error f => .error f
  | [] => .error c.stop

/-- Reads pieces of a multi-line basic string while there are any. -/
def mlbContents : Nat → List Char → Cursor → Reading (List Char)
  | 0, acc, c => .ok (acc, c)
  | fuel + 1, acc, c =>
    match mlbContent c with
    | .ok (t, c1) => mlbContents fuel (acc ++ t) c1
    | .error f => if f.cut then .error f else .ok (acc, c)

/-- Reads one or two quotes of a multi-line string (`q` is the quote) when `term` holds after
them, two if it can. -/
def mlQuotes (q : Char) (term : Cursor → Bool) (c : Cursor) : Option (List Char × Cursor) :=
  if c.startsWith (String.ofList [q, q]) && term (c.skip 2) then some ([q, q], c.skip 2)
  else if c.startsWith (String.ofList [q]) && term c.next then some ([q], c.next)
  else none

/-- Whether the next character exists and is not `q`. -/
def nextIsNot (q : Char) (c : Cursor) : Bool :=
  match c.peek? with
  | some ch => ch ≠ q
  | none => false

/-- Reads the quotes-then-text turns of a multi-line basic string. -/
def mlbQuoted : Nat → List Char → Cursor → Reading (List Char)
  | 0, acc, c => .ok (acc, c)
  | fuel + 1, acc, c =>
    match mlQuotes '"' (nextIsNot '"') c with
    | none => .ok (acc, c)
    | some (q, c1) =>
      match mlbContent c1 with
      | .ok (t, c2) =>
        match mlbContents c2.fuel (acc ++ q ++ t) c2 with
        | .ok (acc', c3) => mlbQuoted fuel acc' c3
        | .error f => .error f
      | .error f => if f.cut then .error f else .ok (acc, c1)

/-- Reads a multi-line basic string; the cursor stands on its opening `"""`. -/
def mlBasicString (c : Cursor) : Reading String :=
  let c1 := c.skip 3
  let c2 := match newline c1 with
    | .ok (_, c') => c'
    | .error _ => c1
  let body : Reading (List Char) :=
    match mlbContents c2.fuel [] c2 with
    | .error f => .error f
    | .ok (acc, c3) =>
      match mlbQuoted c3.fuel acc c3 with
      | .error f => .error f
      | .ok (acc', c4) =>
        match mlQuotes '"' (fun c' => c'.startsWith "\"\"\"") c4 with
        | some (q, c5) => .ok (acc' ++ q, c5)
        | none => .ok (acc', c4)
  match body with
  | .error f => .error (f.within "multiline basic string")
  | .ok (cs, c3) =>
    if c3.startsWith "\"\"\"" then .ok (String.ofList cs, c3.skip 3)
    else .error (c3.cutWithin "multiline basic string")

/-- Reads one character of a multi-line literal string, a line end giving a line feed. -/
def mllContent (c : Cursor) : Option (Char × Cursor) :=
  match c.rest with
  | ch :: _ =>
    if isLiteralChar ch then some (ch, c.next)
    else
      match newline c with
      | .ok (_, c1) => some ('\n', c1)
      | .error _ => none
  | [] => none

/-- Reads characters of a multi-line literal string while there are any. -/
def mllContents : Nat → List Char → Cursor → List Char × Cursor
  | 0, acc, c => (acc, c)
  | fuel + 1, acc, c =>
    match mllContent c with
    | some (ch, c1) => mllContents fuel (acc ++ [ch]) c1
    | none => (acc, c)

/-- Reads the quotes-then-text turns of a multi-line literal string; a turn whose quotes are
not followed by text is not taken. -/
def mllQuoted : Nat → List Char → Cursor → List Char × Cursor
  | 0, acc, c => (acc, c)
  | fuel + 1, acc, c =>
    match mlQuotes '\'' (nextIsNot '\'') c with
    | none => (acc, c)
    | some (q, c1) =>
      match mllContent c1 with
      | none => (acc, c)
      | some (ch, c2) =>
        let (acc', c3) := mllContents c2.fuel (acc ++ q ++ [ch]) c2
        mllQuoted fuel acc' c3

/-- Reads a multi-line literal string; the cursor stands on its opening `'''`. -/
def mlLiteralString (c : Cursor) : Reading String :=
  let c1 := c.skip 3
  let c2 := match newline c1 with
    | .ok (_, c') => c'
    | .error _ => c1
  let (acc, c3) := mllContents c2.fuel [] c2
  let (acc', c4) := mllQuoted c.fuel acc c3
  let (cs, c5) := match mlQuotes '\'' (fun c' => c'.startsWith "'''") c4 with
    | some (q, c') => (acc' ++ q, c')
    | none => (acc', c4)
  if c5.startsWith "'''" then .ok (String.ofList cs, c5.skip 3)
  else .error (c5.cutWithin "multiline literal string")

/-- Reads a string of any of the four forms; the cursor stands on a quote. -/
def quotedString (c : Cursor) : Reading String :=
  if c.startsWith "\"\"\"" then mlBasicString c
  else if c.startsWith "\"" then basicString c
  else if c.startsWith "'''" then mlLiteralString c
  else literalString c

/-! ## Keys -/

/-- Reads a simple key: a basic or literal string, or a bare key. -/
def simpleKey (c : Cursor) : Reading Key :=
  let finish (r : Reading String) : Reading Key :=
    match r with
    | .ok (name, c1) => .ok ({ name := name, span := ⟨c.offset, c1.offset⟩ }, c1)
    | .error f => .error f
  match c.peek? with
  | some '"' => finish (basicString c)
  | some '\'' => finish (literalString c)
  | some _ =>
    let (cs, c1) := c.takeWhile isKeyChar
    if cs.isEmpty then .error c.stop else finish (.ok (String.ofList cs, c1))
  | none => .error c.stop

/-- Reads the simple keys after the first of a dotted key, each after a dot. -/
def dottedRest : Nat → List Key → Cursor → Reading (List Key)
  | 0, acc, c => .ok (acc, c)
  | fuel + 1, acc, c =>
    if c.peek? = some '.' then
      match simpleKey (skipWs c.next) with
      | .ok (k, c1) => dottedRest fuel (acc ++ [k]) (skipWs c1)
      | .error f => if f.cut then .error f else .ok (acc, c)
    else .ok (acc, c)

/-- Reads a key: simple keys joined by dots, with blanks around each. -/
def key (c : Cursor) : Reading (List Key) :=
  match simpleKey (skipWs c) with
  | .error f => .error (f.within "key")
  | .ok (k, c1) =>
    match dottedRest c.fuel [k] (skipWs c1) with
    | .ok r => .ok r
    | .error f => .error (f.within "key")

end StudyPlanner.Toml
