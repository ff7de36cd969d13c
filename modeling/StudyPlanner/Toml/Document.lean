import StudyPlanner.Toml.Value
/-!
# Reading a document

A document is read line by line: blank lines, comments, `key = value` lines and table headers
`[a.b]` or `[[a.b]]`. Key/value lines go into the *current table*: the top level until the
first header, then the table the last header opened.

The current table is kept apart from the finished part of the document and put in it when the
next header comes, or at the end:

* a header `[a.b]` may open a table that was only made on the way to another header, which is
  then taken out to be filled and put back after the tables placed since; any other table or
  value already under its key is a duplicate;
* a header `[[a.b]]` adds a table to the array of tables under its key, making the array if
  there is none; any other item there is a duplicate;
* a key/value line goes down its dotted path from the current table, and its last key must be
  new there.

A clash found at a line is reported at the start of that line (a header's clash with the label
`table header`); one found at the end has no position.
-/

namespace StudyPlanner.Toml

/-- What has been read of a document so far. -/
structure ReadState where
  root : Entries := []
  current : Entries := []
  currentSpan : Option Span := none
  currentPath : List Key := []
  currentIsArray : Bool := false
  deriving Repr, Inhabited

namespace ReadState

/-- Places a key/value line's item under its dotted path in the current table. -/
def onKeyval (st : ReadState) (path : List Key) (k : Key) (item : Item) : Except Clash ReadState :=
  let place : AtTable Unit := fun form entries =>
    if form.dotted = path.isEmpty then .error (.duplicateKey k.name none)
    else if (entries.lookup k.name).isSome then
      .error (.duplicateKey k.name (some (st.currentPath.map Key.name)))
    else .ok (entries ++ [(k, item)], ())
  match descend false true [] path {} st.current place with
  | .ok (entries, _) => .ok { st with current := entries }
  | .error e => .error e

/-- Puts the current table in the finished part of the document. -/
def finalize (st : ReadState) : Except Clash ReadState :=
  let table : Item := .table st.currentSpan {} st.current
  let cleared (root : Entries) : ReadState := { root := root }
  match st.currentPath.reverse with
  | [] => .ok (cleared st.current)
  | last :: earlier =>
    let parentPath := earlier.reverse
    let clash : Clash := .duplicateKey last.name (some (parentPath.map Key.name))
    let place : AtTable Unit := fun _ parent =>
      match parent.lookup last.name, st.currentIsArray with
      | none, false => .ok (parent ++ [(last, table)], ())
      | none, true => .ok (parent ++ [(last, .tables [table])], ())
      | some (.tables items), true => .ok (parent.replace last.name (.tables (items ++ [table])), ())
      | some _, _ => .error clash
    match descend false false [] parentPath {} st.root place with
    | .ok (root, _) => .ok (cleared root)
    | .error e => .error e

/-- Opens the table a header `[path]` names, after finishing the current one. -/
def onTableHeader (st : ReadState) (path : List Key) (span : Span) : Except Clash ReadState :=
  match st.finalize with
  | .error e => .error e
  | .ok st1 =>
    match path.reverse with
    | [] => .ok st1
    | last :: earlier =>
      let parentPath := earlier.reverse
      let clash : Clash := .duplicateKey last.name (some (parentPath.map Key.name))
      let take : AtTable Entries := fun _ parent =>
        match parent.lookup last.name with
        | none => .ok (parent, [])
        | some (.table _ form inner) =>
          if form.implicit && !form.dotted && !form.inline then .ok (parent.remove last.name, inner)
          else .error clash
        | some _ => .error clash
      match descend false false [] parentPath {} st1.root take with
      | .error e => .error e
      | .ok (root, inner) =>
        .ok { root := root, current := inner, currentSpan := some span, currentPath := path }

/-- Opens a new table of the array of tables a header `[[path]]` names, after finishing the
current one. -/
def onArrayHeader (st : ReadState) (path : List Key) (span : Span) : Except Clash ReadState :=
  match st.finalize with
  | .error e => .error e
  | .ok st1 =>
    match path.reverse with
    | [] => .ok st1
    | last :: earlier =>
      let parentPath := earlier.reverse
      let clash : Clash := .duplicateKey last.name (some (parentPath.map Key.name))
      let make : AtTable Unit := fun _ parent =>
        match parent.lookup last.name with
        | none => .ok (parent ++ [(last, .tables [])], ())
        | some (.tables _) => .ok (parent, ())
        | some _ => .error clash
      match descend false false [] parentPath {} st1.root make with
      | .error e => .error e
      | .ok (root, _) =>
        .ok { root := root, currentSpan := some span, currentPath := path, currentIsArray := true }

end ReadState

/-- The failure for a clash found on the line starting at `c`. -/
def clashAt (c : Cursor) (e : Clash) : Fault :=
  { offset := c.offset, cause := some e.message, cut := true }

/-- Reads a key/value line; the cursor stands on its first character. -/
def keyvalLine (st : ReadState) (c : Cursor) : Except Fault (ReadState × Cursor) :=
  match key c with
  | .error f => .error f.toCut
  | .ok (keys, c1) =>
    if c1.peek? ≠ some '=' then
      .error { offset := c1.offset, expected := [.char '.', .char '='], cut := true }
    else
      let c2 := skipWs c1.next
      match value (valueFuel c2) 0 c2 with
      | .error f => .error f.toCut
      | .ok (v, c3) =>
        match lineTrailing c3 with
        | .error f => .error ((f.expecting (.char '\n')).expecting (.char '#')).toCut
        | .ok (_, c4) =>
          match keys.getLast? with
          | none => .ok (st, c4)
          | some k =>
            match st.onKeyval keys.dropLast k v with
            | .error e => .error (clashAt c e)
            | .ok st' => .ok (st', c4)

/-- Reads a header line; the cursor stands on its `[`. `double` says whether it is `[[`. -/
def headerLine (st : ReadState) (c : Cursor) : Except Fault (ReadState × Cursor) :=
  let double := c.startsWith "[["
  let closing := if double then "]]" else "]"
  let r : Except Fault (ReadState × Cursor) :=
    if c.rest.length < 2 then .error c.stop
    else
      match key (c.skip (if double then 2 else 1)) with
      | .error f => .error f.toCut
      | .ok (path, c1) =>
        if !c1.startsWith closing then
          .error { offset := c1.offset, expected := [.char '.', .literal closing], cut := true }
        else
          let c2 := c1.skip closing.length
          let span : Span := ⟨c.offset, c2.offset⟩
          match lineTrailing c2 with
          | .error f => .error ((f.expecting (.char '\n')).expecting (.char '#')).toCut
          | .ok (_, c3) =>
            let opened := if double then st.onArrayHeader path span else st.onTableHeader path span
            match opened with
            | .error e => .error (clashAt c e)
            | .ok st' => .ok (st', c3)
  match r with
  | .ok v => .ok v
  | .error f => .error (f.within "table header").toCut

/-- Reads the lines of a document until the input ends or a line cannot start. -/
def lines : Nat → ReadState → Cursor → Except Fault (ReadState × Cursor)
  | 0, st, c => .ok (st, c)
  | fuel + 1, st, c =>
    match c.peek? with
    | none => .ok (st, c)
    | some '#' =>
      match lineEnding ((comment? c).getD c) with
      | .error f => .error f.toCut
      | .ok (_, c1) => lines fuel st (skipWs c1)
    | some '[' =>
      match headerLine st c with
      | .error f => .error f
      | .ok (st', c1) => lines fuel st' (skipWs c1)
    | some '\n' | some '\r' =>
      match newline c with
      | .ok (_, c1) => lines fuel st (skipWs c1)
      | .error _ => .ok (st, c)
    | some _ =>
      match keyvalLine st c with
      | .error f => .error f
      | .ok (st', c1) => lines fuel st' (skipWs c1)

/-- The byte order mark, which a document may start with. -/
def byteOrderMark : Char := Char.ofNat 0xFEFF

/-- Reads a document: its top-level table, or why it cannot be read. -/
def readDocument (text : String) : Except TomlError Entries :=
  let c0 := Cursor.start text
  let c1 := skipWs (if c0.peek? = some byteOrderMark then c0.next else c0)
  match lines c1.fuel {} c1 with
  | .error f => .error (f.toError text.utf8ByteSize)
  | .ok (st, c2) =>
    if !c2.atEnd then .error (({ offset := c2.offset } : Fault).toError text.utf8ByteSize)
    else
      match st.finalize with
      | .error e => .error { message := e.message, span := none }
      | .ok st' => .ok st'.root

end StudyPlanner.Toml
