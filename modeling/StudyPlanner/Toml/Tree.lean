import StudyPlanner.Toml.Syntax
/-!
# Placing keys in tables

A key/value line, a header or an inline table's pair names a path of keys. The tables on the
way are found or made, and the item is placed in the last one, unless that clashes with what
is already there:

* a key defined twice in one table is a duplicate;
* a dotted key may go through tables it made itself, or made on the way to a header, but not
  through a table opened by a header (that is a duplicate as well);
* a dotted key cannot go through a value that is not a table.

Tables are lists of entries in the order their keys were first placed; `descend` rebuilds the
tables along the path around the change it makes at the end.
-/

namespace StudyPlanner.Toml

/-- Why a key cannot be placed. -/
inductive Clash where
  | duplicateKey (key : String) (table : Option (List String))
  | extendsNonTable (path : List String) (actual : String)
  deriving DecidableEq, Repr

/-- What a clash says: the key and, when known, the table it is in. -/
def Clash.message : Clash → String
  | .duplicateKey k none => "duplicate key `" ++ k ++ "`"
  | .duplicateKey k (some []) => "duplicate key `" ++ k ++ "` in document root"
  | .duplicateKey k (some t) => "duplicate key `" ++ k ++ "` in table `" ++ ".".intercalate t ++ "`"
  | .extendsNonTable p a =>
    "dotted key `" ++ ".".intercalate p ++ "` attempted to extend non-table type (" ++ a ++ ")"

/-- The entries of a table, in the order their keys were placed. -/
abbrev Entries := List (Key × Item)

namespace Entries

/-- The item under a name. -/
def lookup (entries : Entries) (name : String) : Option Item :=
  (entries.find? (fun e => e.1.name = name)).map Prod.snd

/-- Puts `item` under `name` in place of what was there. -/
def replace (entries : Entries) (name : String) (item : Item) : Entries :=
  entries.map (fun e => if e.1.name = name then (e.1, item) else e)

/-- Takes the entry under `name` out, keeping the order of the others. -/
def remove (entries : Entries) (name : String) : Entries :=
  entries.filter (fun e => e.1.name ≠ name)

end Entries

/-- What is done to the table at the end of a path: given its form and entries, its new entries
and a result, or a clash. -/
abbrev AtTable (α : Type) := TableForm → Entries → Except Clash (Entries × α)

/-- Goes down `path` from a table with entries `entries`, making implicit tables where none
are, and applies `f` at the end. `inline` says whether this is inside an inline table, where
only inline tables can be gone through; outside, header tables and the last table of an array
of tables can. `dotted` marks the tables made as made by a dotted key. `walked` is the part of
the path already gone down, for messages. -/
def descend {α : Type} (inline dotted : Bool) (walked : List String) :
    List Key → TableForm → Entries → AtTable α → Except Clash (Entries × α)
  | [], form, entries, f => f form entries
  | k :: ks, _, entries, f =>
    let here := walked ++ [k.name]
    match entries.lookup k.name with
    | none =>
      let form : TableForm := { inline := inline, implicit := true, dotted := dotted }
      match descend inline dotted here ks form [] f with
      | .error e => .error e
      | .ok (inner, a) => .ok (entries ++ [(k, .table none form inner)], a)
    | some (.table span form inner) =>
      if form.inline ≠ inline then .error (.extendsNonTable here (Item.table span form inner).typeName)
      else if dotted && !form.implicit then .error (.duplicateKey k.name none)
      else
        match descend inline dotted here ks form inner f with
        | .error e => .error e
        | .ok (inner', a) => .ok (entries.replace k.name (.table span form inner'), a)
    | some (.tables items) =>
      match inline, items.reverse with
      | false, .table span form inner :: earlier =>
        match descend inline dotted here ks form inner f with
        | .error e => .error e
        | .ok (inner', a) =>
          .ok (entries.replace k.name (.tables ((earlier.reverse) ++ [.table span form inner'])), a)
      | _, _ => .error (.extendsNonTable here (Item.tables items).typeName)
    | some other => .error (.extendsNonTable here other.typeName)

end StudyPlanner.Toml
