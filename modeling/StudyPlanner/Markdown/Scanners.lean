import StudyPlanner.Markdown.Entity
import StudyPlanner.Markdown.Punctuation
import StudyPlanner.Text.Blank
/-!
# Scanning markdown syntax

Small readers over the source text, each starting at a position and giving what it read and
the position after it, or nothing when the syntax is not there:

* character references: `&name;` for the named ones, `&#1234;` and `&#x1F;` for code points
  (a code point that is zero, a surrogate or beyond Unicode stands for U+FFFD);
* link labels `[...]`, destinations (`<...>`, or a run without spaces and with balanced
  parentheses) and titles (`"..."`, `'...'`, `(...)`);
* autolinks `<scheme:...>` and `<user@host>`;
* raw HTML: open and closing tags, comments, processing instructions, declarations and CDATA
  sections.

The readers loop on fuel, the length of the source plus one, as each turn reads a character.
-/

namespace StudyPlanner.Markdown

/-- The source text being read. -/
abbrev Source := Array Char

/-- An ASCII letter. -/
def isAsciiLetter (c : Char) : Bool := ('a' ≤ c && c ≤ 'z') || ('A' ≤ c && c ≤ 'Z')

/-- An ASCII digit. -/
def isAsciiDigit (c : Char) : Bool := '0' ≤ c && c ≤ '9'

/-- An ASCII hexadecimal digit. -/
def isAsciiHex (c : Char) : Bool := isAsciiDigit c || ('a' ≤ c && c ≤ 'f') || ('A' ≤ c && c ≤ 'F')

/-- An ASCII letter or digit. -/
def isAsciiAlnum (c : Char) : Bool := isAsciiLetter c || isAsciiDigit c

/-- A space or a tab. -/
def isSpaceOrTab (c : Char) : Bool := c = ' ' || c = '\t'

/-- A blank in HTML syntax: space, tab, line feed, vertical tab, form feed, carriage return. -/
def isHtmlBlank (c : Char) : Bool :=
  c = ' ' || c = '\t' || c = '\n' || c = '\x0b' || c = '\x0c' || c = '\r'

/-- The value of a hexadecimal digit. -/
def hexValue (c : Char) : Nat :=
  if isAsciiDigit c then c.toNat - 48
  else if 'a' ≤ c && c ≤ 'f' then c.toNat - 87
  else c.toNat - 55

/-- Reads characters for which `p` holds from position `i`, at most `max` of them. -/
def takeFrom (s : Source) (p : Char → Bool) (i max : Nat) : List Char :=
  ((s.extract i (i + max)).toList).takeWhile p

/-- The position of the first character at or after `i` for which `p` fails. -/
def skipFrom (s : Source) (p : Char → Bool) (i : Nat) : Nat :=
  i + ((s.extract i s.size).toList.takeWhile p).length

/-- Whether the characters of `t` stand at position `i`. -/
def hasAt (s : Source) (i : Nat) (t : String) : Bool :=
  t.toList.isPrefixOf (s.extract i (i + t.length)).toList

/-- Like `hasAt`, ignoring the case of ASCII letters. -/
def hasAtFolded (s : Source) (i : Nat) (t : String) : Bool :=
  let lower (c : Char) : Char := if 'A' ≤ c && c ≤ 'Z' then Char.ofNat (c.toNat + 32) else c
  (t.toList.map lower).isPrefixOf ((s.extract i (i + t.length)).toList.map lower)

/-- The first position at or after `i` where `t` stands, if any. -/
def findFrom (s : Source) (t : String) : Nat → Nat → Option Nat
  | 0, _ => none
  | fuel + 1, i =>
    if i + t.length > s.size then none
    else if hasAt s i t then some i
    else findFrom s t fuel (i + 1)

/-! ## Character references -/

/-- The character a numeric reference names. -/
def codePointChar (n : Nat) : Char :=
  if n = 0 ∨ (0xD800 ≤ n ∧ n ≤ 0xDFFF) ∨ n > 0x10FFFF then Char.ofNat 0xFFFD else Char.ofNat n

/-- Reads a character reference; position `pos` holds the `&`. -/
def entityAt (s : Source) (pos : Nat) : Option (String × Nat) :=
  if s[pos + 1]? = some '#' then
    if s[pos + 2]? = some 'x' || s[pos + 2]? = some 'X' then
      let ds := takeFrom s isAsciiHex (pos + 3) 6
      if ds.isEmpty || s[pos + 3 + ds.length]? ≠ some ';' then none
      else some ((codePointChar (ds.foldl (fun n d => n * 16 + hexValue d) 0)).toString,
        pos + 4 + ds.length)
    else
      let ds := takeFrom s isAsciiDigit (pos + 2) 7
      if ds.isEmpty || s[pos + 2 + ds.length]? ≠ some ';' then none
      else some ((codePointChar (ds.foldl (fun n d => n * 10 + hexValue d) 0)).toString,
        pos + 3 + ds.length)
  else
    match s[pos + 1]? with
    | some c =>
      if !isAsciiLetter c then none
      else
        let name := takeFrom s isAsciiAlnum (pos + 1) 32
        if s[pos + 1 + name.length]? ≠ some ';' then none
        else (namedEntity? (String.ofList name)).map fun v => (v, pos + 2 + name.length)
    | none => none

/-- Resolves backslash escapes and character references in a text. -/
def unescapeFrom (s : Source) : Nat → Nat → List Char → List Char
  | 0, _, acc => acc
  | fuel + 1, i, acc =>
    match s[i]? with
    | none => acc
    | some '\\' =>
      match s[i + 1]? with
      | some c => if isAsciiPunctuation c then unescapeFrom s fuel (i + 2) (acc ++ [c])
                  else unescapeFrom s fuel (i + 1) (acc ++ ['\\'])
      | none => acc ++ ['\\']
    | some '&' =>
      match entityAt s i with
      | some (v, j) => unescapeFrom s fuel j (acc ++ v.toList)
      | none => unescapeFrom s fuel (i + 1) (acc ++ ['&'])
    | some c => unescapeFrom s fuel (i + 1) (acc ++ [c])

/-- A text with its backslash escapes and character references resolved. -/
def unescape (cs : List Char) : String :=
  let s := cs.toArray
  String.ofList (unescapeFrom s (s.size + 1) 0 [])

/-! ## Links -/

/-- Skips spaces and tabs, at most one line end, and spaces and tabs after it. -/
def skipSpnl (s : Source) (i : Nat) : Nat :=
  let j := skipFrom s isSpaceOrTab i
  if s[j]? = some '\n' then skipFrom s isSpaceOrTab (j + 1) else j

/-- Reads a link label from `[` at `pos` to its `]`: at most 999 characters, no unescaped
bracket inside. Gives the position after `]`. -/
def linkLabelEnd (s : Source) (pos : Nat) : Option Nat :=
  let rec go : Nat → Nat → Nat → Option Nat
    | 0, _, _ => none
    | fuel + 1, i, n =>
      if n > 999 then none
      else
        match s[i]? with
        | none => none
        | some ']' => some (i + 1)
        | some '[' => none
        | some '\\' =>
          match s[i + 1]? with
          | some _ => go fuel (i + 2) (n + 2)
          | none => none
        | some _ => go fuel (i + 1) (n + 1)
  if s[pos]? = some '[' then go (s.size + 1) (pos + 1) 0 else none

/-- Reads a link destination between `<` and `>`: no line end and no unescaped `<` or `>`. -/
def angleDestination (s : Source) (pos : Nat) : Option (String × Nat) :=
  let rec go : Nat → Nat → Option Nat
    | 0, _ => none
    | fuel + 1, i =>
      match s[i]? with
      | none => none
      | some '>' => some i
      | some '<' => none
      | some '\n' => none
      | some '\\' => if (s[i + 1]?).isSome && s[i + 1]? ≠ some '\n' then go fuel (i + 2) else go fuel (i + 1)
      | some _ => go fuel (i + 1)
  match go (s.size + 1) (pos + 1) with
  | some e => some (unescape (s.extract (pos + 1) e).toList, e + 1)
  | none => none

/-- Reads a link destination without angle brackets: no blank or control character, with
balanced unescaped parentheses nested at most 32 deep. It may be empty only before `)`. -/
def plainDestination (s : Source) (pos : Nat) : Option (String × Nat) :=
  let rec go : Nat → Nat → Nat → Option Nat
    | 0, _, _ => none
    | fuel + 1, i, depth =>
      match s[i]? with
      | none => if depth = 0 then some i else none
      | some c =>
        if c = '\\' && (s[i + 1]?.map isAsciiPunctuation).getD false then go fuel (i + 2) depth
        else if c = '(' then (if depth + 1 > 32 then none else go fuel (i + 1) (depth + 1))
        else if c = ')' then (if depth = 0 then some i else go fuel (i + 1) (depth - 1))
        else if c.toNat ≤ 0x20 || c.toNat = 0x7F then (if depth = 0 then some i else none)
        else go fuel (i + 1) depth
  match go (s.size + 1) pos 0 with
  | some e => if e = pos && s[e]? ≠ some ')' then none else some (unescape (s.extract pos e).toList, e)
  | none => none

/-- Reads a link destination. -/
def linkDestination (s : Source) (pos : Nat) : Option (String × Nat) :=
  if s[pos]? = some '<' then angleDestination s pos else plainDestination s pos

/-- Reads a link title: between double quotes, single quotes or parentheses, with escapes. -/
def linkTitle (s : Source) (pos : Nat) : Option (String × Nat) :=
  let close? : Option Char := match s[pos]? with
    | some '"' => some '"'
    | some '\'' => some '\''
    | some '(' => some ')'
    | _ => none
  match close? with
  | none => none
  | some close =>
    let rec go : Nat → Nat → Option Nat
      | 0, _ => none
      | fuel + 1, i =>
        match s[i]? with
        | none => none
        | some c =>
          if c = close then some i
          else if c = '(' && close = ')' then none
          else if c = '\\' && (s[i + 1]?).isSome then go fuel (i + 2)
          else go fuel (i + 1)
    match go (s.size + 1) (pos + 1) with
    | some e => some (unescape (s.extract (pos + 1) e).toList, e + 1)
    | none => none

/-- Normalizes a link label for matching: blanks collapsed to one space, trimmed, ASCII letters
made small. -/
def normalizeLabel (cs : List Char) : String :=
  let lower (c : Char) : Char := if 'A' ≤ c && c ≤ 'Z' then Char.ofNat (c.toNat + 32) else c
  let words := (String.ofList (cs.map fun c => if Text.isBlank c then ' ' else lower c)).splitOn " "
  " ".intercalate (words.filter (fun w => !w.isEmpty))

/-! ## Autolinks -/

/-- Reads an autolink `<scheme:rest>`: a scheme of 2 to 32 letters, digits, `+`, `.`, `-`
starting with a letter, and no blank, control, `<` or `>` after the colon. Gives the URI. -/
def uriAutolink (s : Source) (pos : Nat) : Option (String × Nat) :=
  match s[pos + 1]? with
  | some c =>
    if !isAsciiLetter c then none
    else
      let scheme := takeFrom s (fun c => isAsciiAlnum c || c = '+' || c = '.' || c = '-') (pos + 1) 33
      if scheme.length < 2 || scheme.length > 32 || s[pos + 1 + scheme.length]? ≠ some ':' then none
      else
        let restStart := pos + 2 + scheme.length
        let e := skipFrom s (fun c => c ≠ '<' && c ≠ '>' && c.toNat > 0x20) restStart
        if s[e]? = some '>' then some (String.ofList (s.extract (pos + 1) e).toList, e + 1) else none
  | none => none

/-- A character allowed before the `@` of an email autolink. -/
def isEmailLocal (c : Char) : Bool :=
  isAsciiAlnum c || ".!#$%&'*+/=?^_`|~-".toList.contains c || c = '\x7b' || c = '\x7d'

/-- Reads the labels of an email domain: letters and digits with inner `-`, at most 63 each,
separated by dots. Gives the position after the last label. -/
def emailDomainEnd (s : Source) : Nat → Nat → Option Nat
  | 0, _ => none
  | fuel + 1, i =>
    let label := takeFrom s (fun c => isAsciiAlnum c || c = '-') i 64
    if label.isEmpty || label.length > 63 || label.head? = some '-' || label.getLast? = some '-' then none
    else
      let j := i + label.length
      if s[j]? = some '.' then
        match emailDomainEnd s fuel (j + 1) with
        | some e => some e
        | none => some j
      else some j

/-- Reads an email autolink `<local@domain>`. Gives the address. -/
def emailAutolink (s : Source) (pos : Nat) : Option (String × Nat) :=
  let localEnd := skipFrom s isEmailLocal (pos + 1)
  if localEnd = pos + 1 || s[localEnd]? ≠ some '@' then none
  else
    match emailDomainEnd s (s.size + 1) (localEnd + 1) with
    | some e => if s[e]? = some '>' then some (String.ofList (s.extract (pos + 1) e).toList, e + 1) else none
    | none => none

/-! ## Raw HTML -/

/-- Reads a tag name: a letter, then letters, digits and `-`. -/
def tagNameEnd (s : Source) (i : Nat) : Option Nat :=
  match s[i]? with
  | some c => if isAsciiLetter c then some (skipFrom s (fun c => isAsciiAlnum c || c = '-') (i + 1)) else none
  | none => none

/-- Reads an attribute value: unquoted, or between single or double quotes. -/
def attributeValueEnd (s : Source) (i : Nat) : Option Nat :=
  match s[i]? with
  | some '\'' => let e := skipFrom s (· ≠ '\'') (i + 1); if s[e]? = some '\'' then some (e + 1) else none
  | some '"' => let e := skipFrom s (· ≠ '"') (i + 1); if s[e]? = some '"' then some (e + 1) else none
  | some _ =>
    let e := skipFrom s (fun c => c.toNat > 0x20 && !"\"'=<>`".toList.contains c) i
    if e = i then none else some e
  | none => none

/-- Reads the attributes of an open tag, each after blanks: a name and perhaps `= value`. -/
def attributesEnd (s : Source) : Nat → Nat → Nat
  | 0, i => i
  | fuel + 1, i =>
    let j := skipFrom s isHtmlBlank i
    if j = i then i
    else
      match s[j]? with
      | some c =>
        if isAsciiLetter c || c = '_' || c = ':' then
          let nameEnd := skipFrom s (fun c => isAsciiAlnum c || "_.:-".toList.contains c) (j + 1)
          let k := skipFrom s isHtmlBlank nameEnd
          let afterValue :=
            if s[k]? = some '=' then attributeValueEnd s (skipFrom s isHtmlBlank (k + 1)) else none
          attributesEnd s fuel (afterValue.getD nameEnd)
        else i
      | none => i

/-- Reads an open tag `<name attributes /?>` starting at `<`. -/
def openTagEnd (s : Source) (pos : Nat) : Option Nat :=
  match tagNameEnd s (pos + 1) with
  | none => none
  | some n =>
    let a := attributesEnd s (s.size + 1) n
    let b := skipFrom s isHtmlBlank a
    if s[b]? = some '>' then some (b + 1)
    else if s[b]? = some '/' && s[b + 1]? = some '>' then some (b + 2)
    else none

/-- Reads a closing tag `</name>` starting at `<`. -/
def closeTagEnd (s : Source) (pos : Nat) : Option Nat :=
  if s[pos + 1]? ≠ some '/' then none
  else
    match tagNameEnd s (pos + 2) with
    | none => none
    | some n =>
      let b := skipFrom s isHtmlBlank n
      if s[b]? = some '>' then some (b + 1) else none

/-- Reads raw inline HTML starting at `<`. -/
def htmlTagEnd (s : Source) (pos : Nat) : Option Nat :=
  match s[pos + 1]? with
  | some '/' => closeTagEnd s pos
  | some '?' => (findFrom s "?>" (s.size + 1) (pos + 2)).map (· + 2)
  | some '!' =>
    if hasAt s pos "<!-->" then some (pos + 5)
    else if hasAt s pos "<!--->" then some (pos + 6)
    else if hasAt s pos "<!--" then (findFrom s "-->" (s.size + 1) (pos + 4)).map (· + 3)
    else if hasAt s pos "<![CDATA[" then (findFrom s "]]>" (s.size + 1) (pos + 9)).map (· + 3)
    else
      match s[pos + 2]? with
      | some c =>
        if isAsciiLetter c then
          let e := skipFrom s (· ≠ '>') (pos + 3)
          if s[e]? = some '>' then some (e + 1) else none
        else none
      | none => none
  | some _ => openTagEnd s pos
  | none => none

end StudyPlanner.Markdown
