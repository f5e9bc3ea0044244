import MergeMessage.Toml.Scalar
import MergeMessage.Toml.Strings
import MergeMessage.Toml.Table

/-!
# Reading settings files

A settings file is a sequence of statements, one a line: a header opens a table or one more
table of an array, a key with a value adds to the table that was opened last.  The whole file is
refused if one statement of it cannot be read or does not fit to those before it.

## Main definitions

* `Toml.Key` — a dotted key.
* `Toml.value?` — the value at the front of a text.
* `Toml.Statement`, `Toml.statements?` — the statements of a file.
* `Toml.ofFile?` — the table that a file holds.
-/

namespace MergeMessage.Toml

/-! ### Keys -/

/-- A dotted key: the way to a table, and the name of something in it. -/
structure Key where
  /-- The names on the way. -/
  path : List Text
  /-- The name at its end. -/
  last : Text
  deriving DecidableEq, Repr

/-- All names of a key. -/
def Key.names (key : Key) : List Text := key.path ++ [key.last]

/-- The key that starts with one more name. -/
def Key.under (name : Text) (key : Key) : Key := ⟨name :: key.path, key.last⟩

/-- Is the character one that may stand in a name without quotes? -/
def isNameChar (c : Char) : Bool := c.isAlphanum || c == '_' || c == '-'

/-- The name at the front of a text, with or without quotes, and what follows it. -/
def name? : Text → Option (Text × Text)
  | '"' :: s => basic? s
  | '\'' :: s => literal? s
  | s =>
    match s.takeWhile isNameChar with
    | [] => none
    | name => some (name, s.dropWhile isNameChar)

/-- The key at the front of a text, after blanks, and what follows it and the blanks after it;
`fuel` bounds the number of its names. -/
def keyWithin? : (fuel : Nat) → Text → Option (Key × Text)
  | 0, _ => none
  | fuel + 1, s =>
    match name? (skipBlanks s) with
    | none => none
    | some (name, s) =>
      match skipBlanks s with
      | '.' :: s => (keyWithin? fuel s).map fun (key, rest) => (key.under name, rest)
      | s => some (⟨[], name⟩, s)

/-- The key at the front of a text, after blanks, and what follows it and the blanks after
it. -/
def key? (s : Text) : Option (Key × Text) := keyWithin? (s.length + 1) s

/-! ### Values -/

/-- How deep arrays and tables may be nested in one value. -/
def maxDepth : Nat := 80

/-- What follows the separator or the closing bracket after a part of a value. -/
inductive After
  /-- Perhaps another part: what follows the comma. -/
  | comma (rest : Text)
  /-- Nothing: what follows the closing bracket. -/
  | close (rest : Text)

/-- The separator or the closing bracket at the front of a text, after blanks, line ends and
comments. -/
def after? (closing : Char) (s : Text) : Option After :=
  match skipGap? s with
  | some (c :: rest) =>
    if c = ',' then some (.comma rest) else if c = closing then some (.close rest) else none
  | _ => none

/-- What follows a character at the front of a text, after blanks, line ends and comments. -/
def punctuation? (c : Char) (s : Text) : Option Text := (skipGap? s).bind (char? c)

/-- The value without parts at the front of a text, and what follows it. -/
def simpleValue? (s : Text) : Option (Toml × Text) :=
  if s.head?.any fun c => c == '"' || c == '\'' then
    (text? s).map fun (content, rest) => (.text content, rest)
  else
    match word s with
    | (word, rest) => (Scalar.ofWord? word).map fun scalar => (.scalar scalar, rest)

mutual

/-- The value at the front of a text, and what follows it; `depth` bounds how deep it is nested,
and `fuel` the depth of the recursion. -/
def valueWithin? : (fuel depth : Nat) → Text → Option (Toml × Text)
  | 0, _, _ => none
  | _ + 1, 0, s => if s.head?.any fun c => c == '[' || c == '\x7b' then none else simpleValue? s
  | fuel + 1, depth + 1, '[' :: s =>
    (itemsWithin? fuel depth s).map fun (items, rest) => (.array items, rest)
  | fuel + 1, depth + 1, '\x7b' :: s =>
    (entriesWithin? fuel depth [] s).map fun (entries, rest) => (closed entries, rest)
  | _ + 1, _ + 1, s => simpleValue? s

/-- The items of an array up to its closing bracket, and what follows it. -/
def itemsWithin? : (fuel depth : Nat) → Text → Option (List Toml × Text)
  | 0, _, _ => none
  | fuel + 1, depth, s =>
    match punctuation? ']' s with
    | some rest => some ([], rest)
    | none => do
      let (item, s) ← valueWithin? fuel depth (← skipGap? s)
      match ← after? ']' s with
      | .close rest => return ([item], rest)
      | .comma s =>
        let (items, rest) ← itemsWithin? fuel depth s
        return (item :: items, rest)

/-- The entries of a table on one line, with those that were read before, up to its closing
brace, and what follows it. -/
def entriesWithin? : (fuel depth : Nat) → Entries → Text → Option (Entries × Text)
  | 0, _, _, _ => none
  | fuel + 1, depth, entries, s =>
    match punctuation? '\x7d' s with
    | some rest => some (entries, rest)
    | none => do
      let (key, s) ← key? (← skipGap? s)
      let s ← punctuation? '=' s
      let (value, s) ← valueWithin? fuel depth (← skipGap? s)
      let entries ← insert? key.path key.last value entries
      match ← after? '\x7d' s with
      | .close rest => return (entries, rest)
      | .comma s => entriesWithin? fuel depth entries s

end

/-- The value at the front of a text, and what follows it. -/
def value? (s : Text) : Option (Toml × Text) := valueWithin? (2 * s.length + 1) maxDepth s

/-! ### Statements -/

/-- A statement of a settings file. -/
inductive Statement
  /-- The header of a table. -/
  | header (key : Key)
  /-- The header of one more table of an array. -/
  | item (key : Key)
  /-- A key with its value. -/
  | assign (key : Key) (value : Toml)

/-- The key of a header, up to its closing brackets, and what follows them. -/
def headerKey? (closing : Text) (s : Text) : Option (Key × Text) := do
  let (key, s) ← key? s
  let rest ← closing.isPrefixOf? s
  return (key, rest)

/-- The statement at the front of a text, and what follows it. -/
def statement? : Text → Option (Statement × Text)
  | '[' :: '[' :: s =>
    (headerKey? [']', ']'] s).map fun (key, rest) => (.item key, rest)
  | '[' :: s => (headerKey? [']'] s).map fun (key, rest) => (.header key, rest)
  | s => do
    let (key, s) ← key? s
    let s ← char? '=' s
    let (value, rest) ← value? (skipBlanks s)
    return (.assign key value, rest)

/-- The statements of a text; `fuel` bounds their number. -/
def statementsWithin? : (fuel : Nat) → Text → Option (List Statement)
  | 0, _ => none
  | fuel + 1, s =>
    match skipGap? s with
    | none => none
    | some [] => some []
    | some s => do
      let (statement, s) ← statement? s
      return statement :: (← statementsWithin? fuel (← lineEnd? s))

/-- The statements of a file.  A mark of the order of octets at its front does not count. -/
def statements? : Text → Option (List Statement)
  | '\ufeff' :: s => statementsWithin? (s.length + 1) s
  | s => statementsWithin? (s.length + 1) s

/-! ### Files -/

/-- What was read of a file: its entries, and the way to the table that was opened last. -/
structure Draft where
  /-- The entries of the file. -/
  entries : Entries
  /-- The way to the table that keys are added to. -/
  here : List Text

/-- A file of which nothing was read. -/
def Draft.empty : Draft := ⟨[], []⟩

/-- What was read after one more statement, if it fits to those before it. -/
def Draft.add? (draft : Draft) : Statement → Option Draft
  | .header key =>
    (openTable? key.path key.last draft.entries).map fun entries => ⟨entries, key.names⟩
  | .item key =>
    (openItem? key.path key.last draft.entries).map fun entries => ⟨entries, key.names⟩
  | .assign key value =>
    (within? .implied (fun _ entries => insert? key.path key.last value entries) draft.here .header
      draft.entries).map fun entries => ⟨entries, draft.here⟩

/-- The entries of the table that a file holds. -/
def ofFile? (s : Text) : Option (List (Text × Toml)) := do
  let draft ← (← statements? s).foldlM Draft.add? Draft.empty
  return closedEntries draft.entries

/-- The value under a key. -/
def lookup? (key : Text) (entries : List (Text × Toml)) : Option Toml :=
  (entries.find? (·.1 = key)).map Prod.snd

end MergeMessage.Toml
