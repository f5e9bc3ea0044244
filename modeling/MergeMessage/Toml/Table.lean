import MergeMessage.Toml.Basic

/-!
# Tables under construction

The statements of a settings file fill a tree of tables.  A table is opened by a header, by a
header of one of its parts, or by a dotted key; which of these it was decides what may still be
added to it.  Nothing is given twice.

## Main definitions

* `Toml.Node` — what a key of a table under construction leads to.
* `Toml.within?` — the tables after a change of the one at the end of a path.
* `Toml.insert?`, `Toml.openTable?`, `Toml.openItem?` — the three kinds of change.
* `Toml.closed` — the finished table.
-/

namespace MergeMessage.Toml

/-- How a table was opened. -/
inductive Origin
  /-- By a header of its own; the whole file counts as such a table. -/
  | header
  /-- By the header of one of its parts. -/
  | implied
  /-- By a dotted key. -/
  | dotted
  deriving DecidableEq, Repr

/-- What a key of a table under construction leads to. -/
inductive Node
  /-- A finished value. -/
  | value (v : Toml)
  /-- A table. -/
  | table (origin : Origin) (entries : List (Text × Node))
  /-- An array of tables, each opened by a header: the last one, and those before it, the
  nearest first. -/
  | tables (last : List (Text × Node)) (before : List (List (Text × Node)))
  deriving Inhabited

/-- The entries of a table under construction. -/
abbrev Entries := List (Text × Node)

/-- The entries after a change of what a key leads to; a new key comes last. -/
def alter? (change : Option Node → Option Node) (key : Text) : Entries → Option Entries
  | [] => (change none).map fun node => [(key, node)]
  | (k, node) :: entries =>
    if k = key then (change (some node)).map fun node => (k, node) :: entries
    else (alter? change key entries).map ((k, node) :: ·)

/-- The entries of a table after a change of the table at the end of a path from it.  Tables
that are missing on the way are opened with the origin `new`.  The way leads through the last
table of an array.  A dotted key cannot go into a table that has a header. -/
def within? (new : Origin) (change : Origin → Entries → Option Entries) :
    (path : List Text) → Origin → Entries → Option Entries
  | [], origin, entries => change origin entries
  | key :: path, _, entries =>
    alter? (fun
      | none => (within? new change path new []).map (.table new)
      | some (.value _) => none
      | some (.table origin entries) =>
        if new = .dotted && origin = .header then none
        else (within? new change path origin entries).map (.table origin)
      | some (.tables last before) =>
        (within? new change path .header last).map fun last => .tables last before) key entries

/-- The entries of a table with one more value under a key, which must be new. -/
def insertHere? (key : Text) (v : Toml) (entries : Entries) : Option Entries :=
  alter? (fun
    | none => some (.value v)
    | some _ => none) key entries

/-- The entries of a table with one more value under a dotted key, given as its path and its
last part.  A dotted key adds to tables only that were opened by dotted keys. -/
def insert? (path : List Text) (key : Text) (v : Toml) (entries : Entries) : Option Entries :=
  within? .dotted (fun origin entries =>
    if path ≠ [] && origin ≠ .dotted then none else insertHere? key v entries) path .header entries

/-- The entries of a file after the header of a table, which must not have had a header before
and not have been opened by a dotted key. -/
def openTable? (path : List Text) (key : Text) (entries : Entries) : Option Entries :=
  within? .implied (fun _ entries =>
    alter? (fun
      | none => some (.table .header [])
      | some (.table .implied entries) => some (.table .header entries)
      | some _ => none) key entries) path .header entries

/-- The entries of a file after the header of one more table of an array. -/
def openItem? (path : List Text) (key : Text) (entries : Entries) : Option Entries :=
  within? .implied (fun _ entries =>
    alter? (fun
      | none => some (.tables [] [])
      | some (.tables last before) => some (.tables [] (last :: before))
      | some _ => none) key entries) path .header entries

/-! ### Finished tables -/

mutual

/-- The value that a key leads to in the end. -/
def Node.closed : Node → Toml
  | .value v => v
  | .table _ entries => .table (closedEntries entries)
  | .tables last before => .array (closedItems [.table (closedEntries last)] before)

/-- The entries of a table in the end. -/
def closedEntries : List (Text × Node) → List (Text × Toml)
  | [] => []
  | (key, node) :: entries => (key, node.closed) :: closedEntries entries

/-- The tables of an array in the end, in front of those that are closed already. -/
def closedItems (done : List Toml) : List (List (Text × Node)) → List Toml
  | [] => done
  | entries :: before => closedItems (.table (closedEntries entries) :: done) before

end

/-- The finished table. -/
def closed (entries : Entries) : Toml := .table (closedEntries entries)

@[simp] theorem within?_nil (new : Origin) (change : Origin → Entries → Option Entries)
    (origin : Origin) (entries : Entries) :
    within? new change [] origin entries = change origin entries := rfl

end MergeMessage.Toml
