import MergeMessage.Json.Basic

/-!
# Reading JSON

Two dialects are read.  The strict one is JSON as its standard has it: one comma between two
items, nothing after the value.  The loose one reads one object at the front of a text and
nothing more; commas between the members may be left out, repeated and stand at the end, but
not at the start, and all strings must stand for texts.

## Main definitions

* `Json.Dialect` — how a dialect treats commas, numbers and strings.
* `Json.value?` — the value at the front of a text.
* `Json.ofStrict?` — the value that a text of the strict dialect holds.
* `Json.ofLoose?` — the object at the front of a text of the loose dialect.
-/

namespace MergeMessage.Json

/-! ### Numbers -/

/-- The longest run of digits at the front of a text, and the rest. -/
def digits (s : Text) : Text × Text := (s.takeWhile Char.isDigit, s.dropWhile Char.isDigit)

/-- The spelling of an optional sign from `signs` at the front of a text, and the rest. -/
def optionalSign (signs : Text) : Text → Text × Text
  | [] => ([], [])
  | c :: s => if signs.contains c then ([c], s) else ([], c :: s)

/-- The whole part of a strict number: a zero alone, or digits that start with another one. -/
def wholePart? (s : Text) : Option (Text × Text) :=
  match digits s with
  | ([], _) => none
  | ('0' :: _ :: _, _) => none
  | (whole, rest) => some (whole, rest)

/-- The fraction of a strict number, which may be left out but not be empty. -/
def fraction? : Text → Option (Text × Text)
  | '.' :: s =>
    match digits s with
    | ([], _) => none
    | (fraction, rest) => some ('.' :: fraction, rest)
  | s => some ([], s)

/-- The exponent of a strict number, which may be left out but not be empty. -/
def exponent? : Text → Option (Text × Text)
  | [] => some ([], [])
  | c :: s =>
    if c == 'e' || c == 'E' then
      let (sign, s) := optionalSign ['+', '-'] s
      match digits s with
      | ([], _) => none
      | (exponent, rest) => some (c :: sign ++ exponent, rest)
    else some ([], c :: s)

/-- The number at the front of a text of the strict dialect. -/
def strictNumber? (s : Text) : Option (Text × Text) := do
  let (sign, s) := optionalSign ['-'] s
  let (whole, s) ← wholePart? s
  let (fraction, s) ← fraction? s
  let (exponent, s) ← exponent? s
  return (sign ++ whole ++ fraction ++ exponent, s)

/-- The fraction of a loose number, which may be left out or empty. -/
def looseFraction : Text → Text × Text
  | '.' :: s => let (fraction, rest) := digits s; ('.' :: fraction, rest)
  | s => ([], s)

/-- The exponent of a loose number, which may be left out or empty. -/
def looseExponent : Text → Text × Text
  | [] => ([], [])
  | c :: s =>
    if c == 'e' || c == 'E' then
      let (sign, s) := optionalSign ['+', '-'] s
      let (exponent, rest) := digits s
      (c :: sign ++ exponent, rest)
    else ([], c :: s)

/-- The whole part of a loose number: a zero, after which no digit is read, or the digits. -/
def looseWhole? : Text → Option (Text × Text)
  | '0' :: s => some (['0'], s)
  | s =>
    match digits s with
    | ([], _) => none
    | (whole, rest) => some (whole, rest)

/-- The number at the front of a text of the loose dialect. -/
def looseNumber? (s : Text) : Option (Text × Text) := do
  let (sign, s) := optionalSign ['-'] s
  let (whole, s) ← looseWhole? s
  let (fraction, s) := looseFraction s
  let (exponent, s) := looseExponent s
  return (sign ++ whole ++ fraction ++ exponent, s)

/-! ### Values -/

/-- How a dialect differs from another. -/
structure Dialect where
  /-- May commas be left out, be repeated and stand at the end? -/
  looseCommas : Bool
  /-- Must every string stand for a text, also one that is passed over? -/
  wholeStrings : Bool
  /-- The number at the front of a text. -/
  number? : Text → Option (Text × Text)

/-- JSON as its standard has it. -/
def Dialect.strict : Dialect := ⟨false, false, strictNumber?⟩

/-- The dialect of a tolerant reader. -/
def Dialect.loose : Dialect := ⟨true, true, looseNumber?⟩

/-- What comes next in an array or an object. -/
inductive Next
  /-- The closing bracket, and what follows it. -/
  | close (rest : Text)
  /-- An item at the front of this text. -/
  | item (s : Text)

/-- What comes next in an array or object with this closing bracket; `first` says that no item
was read yet. -/
def next? (d : Dialect) (closing : Char) (first : Bool) (s : Text) : Option Next :=
  match s.dropWhile isGap with
  | [] => none
  | c :: s =>
    if c = closing then some (.close s)
    else if first then some (.item (c :: s))
    else if d.looseCommas then
      match (c :: s).dropWhile fun c => isGap c || c == ',' with
      | [] => none
      | c :: s => if c = closing then some (.close s) else some (.item (c :: s))
    else if c = ',' then
      match s.dropWhile isGap with
      | [] => none
      | c :: s => if c = closing then none else some (.item (c :: s))
    else none

/-- The string literal at the front of a text. -/
def stringAt? (d : Dialect) : Text → Option (Option Text × Text)
  | '"' :: s =>
    match string? s with
    | some (none, rest) => if d.wholeStrings then none else some (none, rest)
    | r => r
  | _ => none

/-- The key of a member at the front of a text, with the colon after it. -/
def keyAt? (d : Dialect) (s : Text) : Option (Option Text × Text) :=
  match stringAt? d s with
  | some (key, rest) =>
    match rest.dropWhile isGap with
    | ':' :: rest => some (key, rest)
    | _ => none
  | none => none

/-- The word, string or number at the front of a text. -/
def scalar? (d : Dialect) (s : Text) : Option (Json × Text) :=
  match "null".toList.isPrefixOf? s with
  | some rest => some (.null, rest)
  | none =>
  match "true".toList.isPrefixOf? s with
  | some rest => some (.bool true, rest)
  | none =>
  match "false".toList.isPrefixOf? s with
  | some rest => some (.bool false, rest)
  | none =>
  match stringAt? d s with
  | some (value, rest) => some (.string value, rest)
  | none => (d.number? s).map fun (literal, rest) => (.number literal, rest)

mutual

/-- The value at the front of a text, after blanks, and what follows it; `fuel` bounds the depth
of the recursion. -/
def value? (d : Dialect) : Nat → Text → Option (Json × Text)
  | 0, _ => none
  | fuel + 1, s =>
    match s.dropWhile isGap with
    | '[' :: s => (items? d fuel true s).map fun (items, rest) => (.array items, rest)
    | '{' :: s => (members? d fuel true s).map fun (members, rest) => (.object members, rest)
    | s => scalar? d s

/-- The items of an array up to its closing bracket, and what follows it. -/
def items? (d : Dialect) : Nat → Bool → Text → Option (List Json × Text)
  | 0, _, _ => none
  | fuel + 1, first, s =>
    match next? d ']' first s with
    | none => none
    | some (.close rest) => some ([], rest)
    | some (.item s) =>
      match value? d fuel s with
      | none => none
      | some (item, rest) =>
        (items? d fuel false rest).map fun (items, rest) => (item :: items, rest)

/-- The members of an object up to its closing brace, and what follows it. -/
def members? (d : Dialect) : Nat → Bool → Text → Option (List (Option Text × Json) × Text)
  | 0, _, _ => none
  | fuel + 1, first, s =>
    match next? d '}' first s with
    | none => none
    | some (.close rest) => some ([], rest)
    | some (.item s) =>
      match keyAt? d s with
      | none => none
      | some (key, s) =>
        match value? d fuel s with
        | none => none
        | some (value, rest) =>
          (members? d fuel false rest).map fun (members, rest) => ((key, value) :: members, rest)

end

/-- Enough fuel for a text: each of its characters opens at most one bracket, and a bracket
takes two steps. -/
def fuelFor (s : Text) : Nat := 2 * s.length + 2

/-- The value that a text of the strict dialect holds. -/
def ofStrict? (s : Text) : Option Json :=
  match value? .strict (fuelFor s) s with
  | some (value, rest) => if rest.all isGap then some value else none
  | none => none

/-- The members of the object at the front of a text of the loose dialect.  What follows the
object is not looked at. -/
def ofLoose? (s : Text) : Option (List (Option Text × Json)) :=
  match value? .loose (fuelFor s) s with
  | some (.object members, _) => some members
  | _ => none

/-! ### Asking for a type -/

/-- The text of a string that stands for one. -/
def text? : Json → Option Text
  | .string value => value
  | _ => none

/-- An optional text: null is its absence. -/
def optionalText? : Json → Option (Option Text)
  | .null => some none
  | .string (some value) => some (some value)
  | _ => none

/-- The items of an array. -/
def items : Json → Option (List Json)
  | .array items => some items
  | _ => none

/-- A whole number below `bound`, spelled with digits only and without leading zeros. -/
def natBelow? (bound : Nat) : Json → Option Nat
  | .number literal =>
    match wholePart? literal with
    | some (whole, []) =>
      let n := whole.foldl (fun n c => n * 10 + (c.toNat - 48)) 0
      if n < bound then some n else none
    | _ => none
  | _ => none

end MergeMessage.Json
