import StudyPlanner.Markdown.Event
import StudyPlanner.Markdown.Scanners
/-!
# Inline content

The text of a paragraph, heading or table cell is read left to right into pieces: finished
nodes (text, code spans, autolinks, raw HTML, line breaks, links), runs of emphasis
delimiters (`*`, `_`, `~`), and brackets that may open a link.

* A line end is a hard break after two or more spaces or a backslash, else a soft break; the
  spaces around it are dropped.
* A code span runs from a run of backticks to the next run of the same length; line ends in
  it become spaces, and one space is dropped from each end when both ends have one.
* A `]` closes the nearest bracket: with an inline target `(dest "title")`, or a reference
  `[label]`, `[]` or the bracketed text itself matching a definition, the pieces since the
  bracket become a link or image. A link inside a link is not allowed: after a link, the
  brackets before it no longer open links.
* Delimiter runs become emphasis as the runs are met: a run that can close looks for the
  nearest matching opener below the lower bound kept for its kind, takes as many delimiters
  as both have (two at a time as strong, the last one as emphasis), and turns the runs in
  between into text. A run of both kinds never pairs with one whose length makes the sum a
  multiple of three, unless both lengths are. Tildes pair only with a run of the same length
  and give one strikethrough.

Whether a run can open or close depends on the characters on either side (blank,
punctuation, or other), as CommonMark defines left- and right-flanking runs; `_` moreover
does not open or close inside a word.
-/

namespace StudyPlanner.Markdown

/-- Where a link reference definition points. -/
structure LinkTarget where
  dest : String
  title : String
  deriving DecidableEq, Repr, Inhabited

/-- The link reference definitions of a document, by normalized label, first one first. -/
abbrev Definitions := List (String × LinkTarget)

/-- A piece of inline content before emphasis is resolved. -/
inductive Piece where
  | node (n : Inline)
  | delim (id : Nat) (c : Char) (count : Nat) (canOpen canClose : Bool)
  /-- A `[` or `![`: whether it may still open a link, where its text starts, and whether
  another bracket came after it. -/
  | bracket (image active : Bool) (textStart : Nat) (bracketAfter : Bool)
  deriving Repr, Inhabited

/-! ## Emphasis -/

/-- What emphasis resolution has produced so far: nodes, and delimiter runs still open. -/
inductive Slot where
  | node (n : Inline)
  | delim (id : Nat) (c : Char) (count : Nat)
  deriving Repr, Inhabited

/-- A delimiter run `count` characters long. -/
def delimText (c : Char) (count : Nat) : String := String.ofList (List.replicate count c)

/-- A slot as inline content, an unpaired run being text. -/
def Slot.toInline : Slot → Inline
  | .node n => n
  | .delim _ c n => .text (delimText c n)

/-- An open delimiter run waiting for a closer. -/
structure Opener where
  id : Nat
  c : Char
  count : Nat
  runLength : Nat
  both : Bool
  deriving Repr, Inhabited

/-- The state of emphasis resolution. -/
structure Resolver where
  out : Array Slot := #[]
  stack : Array Opener := #[]
  bounds : Array Nat := Array.replicate 9 0
  deriving Repr, Inhabited

/-- Which lower bounds a run of `c` is searched under, and which one a failed search sets. -/
def boundSlots (c : Char) (runLength : Nat) (both : Bool) : List Nat × Nat :=
  if c = '_' then (if both then ([6 + runLength % 3], 6 + runLength % 3) else ([6 + runLength % 3, 0], 0))
  else if c = '*' then (if both then ([2 + runLength % 3], 2 + runLength % 3) else ([2 + runLength % 3, 1], 1))
  else ([5], 5)

/-- Nests content in emphasis for `k` paired delimiters: strong for each two, from the inside,
and emphasis around them for an odd one. -/
def wrapEmphasis : Nat → List Inline → List Inline
  | 0, cs => cs
  | 1, cs => [.emphasis cs]
  | k + 2, cs => wrapEmphasis k [.strong cs]

/-- Whether an opener can pair with a closing run. -/
def pairs (el : Opener) (c : Char) (runLength : Nat) (both : Bool) : Bool :=
  el.c = c && (c ≠ '~' || el.runLength = runLength) &&
    ((!both && !el.both) || (runLength + el.runLength) % 3 ≠ 0 ||
      (runLength % 3 = 0 && el.runLength % 3 = 0))

namespace Resolver

/-- The nearest opener at or above position `lb` of the stack that pairs with a closer. -/
def findOpener (r : Resolver) (c : Char) (runLength : Nat) (both : Bool) (lb : Nat) : Option Nat :=
  ((List.range r.stack.size).reverse.filter (· ≥ lb)).find? fun i =>
    match r.stack[i]? with
    | some el => pairs el c runLength both
    | none => false

/-- The position in the output of the slot of a delimiter run. -/
def slotOf (r : Resolver) (id : Nat) : Nat :=
  (r.out.findIdx? fun s => match s with
    | .delim i _ _ => i = id
    | .node _ => false).getD r.out.size

/-- Pairs a closing run with openers while it has delimiters left and an opener is found. -/
def closeRun (c : Char) (runLength : Nat) (both : Bool) : Nat → Resolver → Nat → Resolver × Nat
  | 0, r, count => (r, count)
  | fuel + 1, r, count =>
    if count = 0 then (r, 0)
    else
      let (get, set) := boundSlots c runLength both
      let bound := (get.map fun i => r.bounds.getD i 0).foldl min r.stack.size
      match r.findOpener c runLength both (min r.stack.size bound) with
      | none => ({ r with bounds := r.bounds.set! set r.stack.size }, count)
      | some mi =>
        let el := r.stack.getD mi default
        let k := min count el.count
        let p := r.slotOf el.id
        let children := (r.out.extract (p + 1) r.out.size).toList.map Slot.toInline
        let node : Inline := if c = '~' then .strikethrough children
          else (wrapEmphasis k children).headD (.text "")
        let keep := el.count - k
        let kept : Array Slot := if keep > 0 then #[.delim el.id el.c keep] else #[]
        let keptOpener : Array Opener := if keep > 0 then #[{ el with count := keep }] else #[]
        let r' : Resolver :=
          { r with out := r.out.extract 0 p ++ kept ++ #[.node node],
                   stack := r.stack.extract 0 mi ++ keptOpener }
        closeRun c runLength both fuel r' (count - k)

/-- Takes a delimiter run. -/
def takeDelim (r : Resolver) (id : Nat) (c : Char) (count : Nat) (canOpen canClose : Bool) : Resolver :=
  let both := canOpen && canClose
  let (r, left) := if canClose then closeRun c count both (count + 1) r count else (r, count)
  if left = 0 then r
  else if canOpen then
    { r with stack := r.stack.push ⟨id, c, left, count, both⟩, out := r.out.push (.delim id c left) }
  else { r with out := r.out.push (.node (.text (delimText c left))) }

/-- Takes one piece. -/
def take (r : Resolver) : Piece → Resolver
  | .node n => { r with out := r.out.push (.node n) }
  | .delim id c count canOpen canClose => r.takeDelim id c count canOpen canClose
  | .bracket image _ _ _ => { r with out := r.out.push (.node (.text (if image then "![" else "["))) }

end Resolver

/-- Joins neighbouring text nodes. -/
def mergeTexts : List Inline → List Inline
  | [] => []
  | .text a :: rest =>
    match mergeTexts rest with
    | .text b :: rest' => .text (a ++ b) :: rest'
    | rest' => .text a :: rest'
  | n :: rest => n :: mergeTexts rest

/-- Resolves emphasis in a sequence of pieces. -/
def resolveEmphasis (pieces : List Piece) : List Inline :=
  mergeTexts ((pieces.foldl Resolver.take {}).out.toList.map Slot.toInline)

/-! ## Reading pieces -/

/-- The state of reading inline content. -/
structure InlineScan where
  src : Source
  defs : Definitions
  pos : Nat := 0
  pieces : Array Piece := #[]
  nextId : Nat := 0
  deriving Inhabited

/-- Whether a character needs more than being copied as text. -/
def isSpecial (c : Char) : Bool :=
  c = '\n' || c = '\\' || c = '`' || c = '*' || c = '_' || c = '~' || c = '[' || c = ']' ||
    c = '!' || c = '<' || c = '&'

namespace InlineScan

/-- Adds text, joined to text just before it. -/
def pushText (st : InlineScan) (s : String) : InlineScan :=
  match st.pieces.back? with
  | some (.node (.text t)) => { st with pieces := st.pieces.pop.push (.node (.text (t ++ s))) }
  | _ => { st with pieces := st.pieces.push (.node (.text s)) }

/-- Adds a node. -/
def pushNode (st : InlineScan) (n : Inline) : InlineScan := { st with pieces := st.pieces.push (.node n) }

/-- The position of the last bracket among the pieces. -/
def lastBracket (st : InlineScan) : Option Nat :=
  (List.range st.pieces.size).reverse.find? fun i => match st.pieces[i]? with
    | some (.bracket _ _ _ _) => true
    | _ => false

/-- Adds a bracket, marking the bracket before it as followed by one. -/
def pushBracket (st : InlineScan) (image : Bool) (textStart : Nat) : InlineScan :=
  let pieces := match st.lastBracket with
    | some i =>
      match st.pieces[i]? with
      | some (.bracket im act ts _) => st.pieces.set! i (.bracket im act ts true)
      | _ => st.pieces
    | none => st.pieces
  { st with pieces := pieces.push (.bracket image true textStart false) }

/-- A line end: a hard break after two spaces, else a soft break; spaces around it dropped. -/
def lineEnd (st : InlineScan) : InlineScan :=
  let (st, hard) := match st.pieces.back? with
    | some (.node (.text t)) =>
      if t.endsWith " " then
        let kept := String.ofList ((t.toList.reverse.dropWhile (· = ' ')).reverse)
        let pieces := if kept.isEmpty then st.pieces.pop else st.pieces.pop.push (.node (.text kept))
        ({ st with pieces := pieces }, t.endsWith "  ")
      else (st, false)
    | _ => (st, false)
  let st := st.pushNode (if hard then .hardBreak else .softBreak)
  { st with pos := skipFrom st.src (· = ' ') (st.pos + 1) }

/-- A backslash: a hard break before a line end, an escaped punctuation character, or itself. -/
def backslash (st : InlineScan) : InlineScan :=
  match st.src[st.pos + 1]? with
  | some '\n' =>
    let st := st.pushNode .hardBreak
    { st with pos := skipFrom st.src (· = ' ') (st.pos + 2) }
  | some c =>
    if isAsciiPunctuation c then { st.pushText c.toString with pos := st.pos + 2 }
    else { st.pushText "\\" with pos := st.pos + 1 }
  | none => { st.pushText "\\" with pos := st.pos + 1 }

/-- The start of the next run of exactly `n` backticks at or after `i`. -/
def closingTicks (s : Source) (n : Nat) : Nat → Nat → Option Nat
  | 0, _ => none
  | fuel + 1, i =>
    let j := skipFrom s (· ≠ '`') i
    if j ≥ s.size then none
    else
      let m := (skipFrom s (· = '`') j) - j
      if m = n then some j else closingTicks s n fuel (j + m)

/-- A run of backticks: a code span if a run of the same length closes it, else text. -/
def codeSpan (st : InlineScan) : InlineScan :=
  let n := (skipFrom st.src (· = '`') st.pos) - st.pos
  match closingTicks st.src n (st.src.size + 1) (st.pos + n) with
  | none => { st.pushText (delimText '`' n) with pos := st.pos + n }
  | some j =>
    let body := (st.src.extract (st.pos + n) j).toList.map fun c => if c = '\n' then ' ' else c
    let body :=
      if body.length ≥ 2 && body.head? = some ' ' && body.getLast? = some ' ' && body.any (· ≠ ' ')
      then (body.drop 1).dropLast else body
    { st.pushNode (.code (String.ofList body)) with pos := j + n }

/-- A run of `*`, `_` or `~` as a delimiter run, with whether it can open and close. -/
def delimRun (st : InlineScan) (c : Char) : InlineScan :=
  let n := (skipFrom st.src (· = c) st.pos) - st.pos
  if c = '~' && n > 2 then { st.pushText (delimText c n) with pos := st.pos + n }
  else
    let before := if st.pos = 0 then none else st.src[st.pos - 1]?
    let after := st.src[st.pos + n]?
    let blank (x : Option Char) : Bool := match x with
      | none => true
      | some ch => Text.isBlank ch
    let punct (x : Option Char) : Bool := match x with
      | none => false
      | some ch => isPunctuation ch
    let left := !blank after && (!punct after || blank before || punct before)
    let right := !blank before && (!punct before || blank after || punct after)
    let (canOpen, canClose) :=
      if c = '_' then (left && (!right || punct before), right && (!left || punct after))
      else (left, right)
    { st with pieces := st.pieces.push (.delim st.nextId c n canOpen canClose),
              nextId := st.nextId + 1, pos := st.pos + n }

/-- Reads an inline link's target after `]`: `(`, a destination, a title after blanks, `)`. -/
def inlineTarget (s : Source) (pos : Nat) : Option (String × String × Nat) :=
  if s[pos]? ≠ some '(' then none
  else
    match linkDestination s (skipSpnl s (pos + 1)) with
    | none => none
    | some (dest, p2) =>
      let p3 := skipSpnl s p2
      let (title, p4) :=
        if p3 > p2 then (match linkTitle s p3 with
          | some (t, e) => (t, e)
          | none => ("", p3))
        else ("", p3)
      let p5 := skipSpnl s p4
      if s[p5]? = some ')' then some (dest, title, p5 + 1) else none

/-- Turns the bracket at `b` back into text. -/
def dropBracket (st : InlineScan) (b : Nat) : InlineScan :=
  match st.pieces[b]? with
  | some (.bracket image _ _ _) => { st with pieces := st.pieces.set! b (.node (.text (if image then "![" else "["))) }
  | _ => st

/-- A `]`: closes the nearest bracket as a link or image when a target follows or a definition
matches, else is text. -/
def closeBracket (st : InlineScan) : InlineScan :=
  let literal (st : InlineScan) : InlineScan := { st.pushText "]" with pos := st.pos + 1 }
  match st.lastBracket with
  | none => literal st
  | some b =>
    match st.pieces[b]? with
    | some (.bracket image active textStart bracketAfter) =>
      if !active then literal (st.dropBracket b)
      else
        let after := st.pos + 1
        let target : Option (String × String × Nat) :=
          match inlineTarget st.src after with
          | some t => some t
          | none =>
            let labelEnd := linkLabelEnd st.src after
            let n := match labelEnd with
              | some e => e - after
              | none => 0
            let label : Option (List Char) :=
              if n > 2 then some (st.src.extract (after + 1) (after + n - 1)).toList
              else if !bracketAfter then some (st.src.extract textStart st.pos).toList
              else none
            let endPos := if n = 0 then after else after + n
            match label with
            | some l =>
              match st.defs.lookup (normalizeLabel l) with
              | some t => some (t.dest, t.title, endPos)
              | none => none
            | none => none
        match target with
        | none => literal (st.dropBracket b)
        | some (dest, title, endPos) =>
          let inner := resolveEmphasis (st.pieces.extract (b + 1) st.pieces.size).toList
          let node : Inline := if image then .image dest title inner else .link .written dest title inner
          let kept := (st.pieces.extract 0 b).push (.node node)
          let kept := if image then kept else kept.map fun p => match p with
            | .bracket false _ ts ba => .bracket false false ts ba
            | other => other
          { st with pieces := kept, pos := endPos }
    | _ => literal st

/-- A `<`: an autolink, raw HTML, or text. -/
def angle (st : InlineScan) : InlineScan :=
  match uriAutolink st.src st.pos with
  | some (uri, e) => { st.pushNode (.link .autolink uri "" [.text uri]) with pos := e }
  | none =>
    match emailAutolink st.src st.pos with
    | some (addr, e) => { st.pushNode (.link .email addr "" [.text addr]) with pos := e }
    | none =>
      match htmlTagEnd st.src st.pos with
      | some e => { st.pushNode (.html (String.ofList (st.src.extract st.pos e).toList)) with pos := e }
      | none => { st.pushText "<" with pos := st.pos + 1 }

/-- Reads one piece. -/
def step (st : InlineScan) : InlineScan :=
  match st.src[st.pos]? with
  | none => st
  | some c =>
    if c = '\n' then st.lineEnd
    else if c = '\\' then st.backslash
    else if c = '`' then st.codeSpan
    else if c = '*' || c = '_' || c = '~' then st.delimRun c
    else if c = '[' then { st.pushBracket false (st.pos + 1) with pos := st.pos + 1 }
    else if c = '!' then
      if st.src[st.pos + 1]? = some '[' then { st.pushBracket true (st.pos + 2) with pos := st.pos + 2 }
      else { st.pushText "!" with pos := st.pos + 1 }
    else if c = ']' then st.closeBracket
    else if c = '<' then st.angle
    else if c = '&' then
      match entityAt st.src st.pos with
      | some (v, e) => { st.pushText v with pos := e }
      | none => { st.pushText "&" with pos := st.pos + 1 }
    else
      let e := skipFrom st.src (fun ch => !isSpecial ch) st.pos
      { st.pushText (String.ofList (st.src.extract st.pos e).toList) with pos := e }

/-- Reads pieces until the end of the source. -/
def run : Nat → InlineScan → InlineScan
  | 0, st => st
  | fuel + 1, st => if st.pos ≥ st.src.size then st else run fuel st.step

end InlineScan

/-- The inline content of a text. -/
def parseInlines (defs : Definitions) (text : String) : List Inline :=
  let src := text.toList.toArray
  let st := InlineScan.run (src.size + 1) { src := src, defs := defs }
  resolveEmphasis st.pieces.toList

end StudyPlanner.Markdown
