import MergeMessage.Pattern.Basic
import MergeMessage.Pattern.Scan
import MergeMessage.Text.Hex

/-!
# What a backslash names

Behind a backslash stand characters that would mean something else on their own, characters by
their numbers, sets of characters by a letter or by a property, and conditions on a place.

## Main definitions

* `PatternAtom` — what a single character or a name behind a backslash stands for.
* `Scanning.escape` — the atom behind a backslash, with its place.
-/

namespace MergeMessage

/-- What a single character or a name behind a backslash stands for. -/
inductive PatternAtom
  /-- A character; with the flag, it was given by two digits and is an octet where characters are
  octets. -/
  | char (c : Char) (octet : Bool)
  /-- A set of characters. -/
  | set (s : CharSet)
  /-- A condition on a place. -/
  | anchor (a : Anchor)
  deriving DecidableEq, Repr

namespace PatternFlags

/-- A set of characters as the flags mean it: with the other forms of its letters, if case makes
no difference. -/
def widen (f : PatternFlags) (s : CharSet) : CharSet :=
  if f.ignoresCase then (if f.unicode then .withForms s else .withAsciiForms s) else s

end PatternFlags

namespace Scanning

/-- What lies outside of a set, if `negated`.  Where characters are octets, this is no text. -/
def complIf (negated : Bool) (place : Stretch) (s : CharSet) : Scanning CharSet := do
  if negated && !(← flags).unicode then note .noText place
  return .complIf negated s

/-- The characters that mean something in a pattern. -/
def isPatternSign (c : Char) : Bool := "\\.+*?()|[]\x7b\x7d^$#&-~".toList.contains c

/-- The characters that stand for themselves behind a backslash: those that mean something in a
pattern and the other ASCII characters that are no letters, digits or angle brackets. -/
def isPlainEscape (c : Char) : Bool :=
  isPatternSign c || (c.toNat < 0x80 && !c.isAlphanum && c ≠ '<' && c ≠ '>')

/-- The control characters that have a letter of their own. -/
def controlOf? (c : Char) : Option Char :=
  [('a', '\x07'), ('f', '\x0C'), ('t', '\t'), ('n', '\n'), ('r', '\r'), ('v', '\x0B')].lookup c

/-- So many digits. -/
def hexDigits : Nat → Scanning Text
  | 0 => return []
  | count + 1 => do
    match ← char? with
    | none => fail .escapeUnfinished ⟨← here, ← here⟩
    | some c =>
      if !isHexDigit c then fail .hexDigit ⟨← here, (← here) + 1⟩
      advance
      return c :: (← hexDigits count)

/-- A character by its number, behind the letter that says how many digits there are unless they
stand in braces. -/
def hexAtom (letter : Char) : Scanning PatternAtom := do
  advance
  let first ← here
  match ← char? with
  | none => fail .escapeUnfinished ⟨first, first⟩
  | some '\x7b' =>
    advance
    let digits ← spacedRun isHexDigit
    let past ← here
    match ← char? with
    | none => fail .escapeUnfinished ⟨first, past⟩
    | some '\x7d' =>
      advance
      if digits.isEmpty then fail .hexEmpty ⟨first, ← here⟩
      match charOfHex? digits with
      | some c => return .char c false
      | none => fail .hexNoCharacter ⟨first + 1, past⟩
    | some _ => fail .hexDigit ⟨past, past + 1⟩
  | some _ =>
    let digits ← hexDigits (if letter = 'x' then 2 else if letter = 'u' then 4 else 8)
    match charOfHex? digits with
    | some c => return .char c (letter = 'x')
    | none => fail .hexNoCharacter ⟨first, ← here⟩

/-- The characters with a property that is given by a name, or by a name and a value. -/
def propertyNamed (name : Text) : Except PatternFault (Bool × CharProperty) :=
  let valued (differs : Bool) (key value : Text) : Except PatternFault (Bool × CharProperty) :=
    let key := CharProperty.plainName key
    let known :=
      if key = "gc".toList || key = "generalcategory".toList then some CharProperty.ofCategory?
      else if ["sc", "script", "scx", "scriptextensions"].any (·.toList = key) then
        some CharProperty.ofScript?
      else none
    match known with
    | none => .error .propertyUnknown
    | some ofValue? => ((ofValue? value).map fun p => .ok (differs, p)).getD
        (.error .propertyValueUnknown)
  match Text.splitOnce? name "!=".toList with
  | some (key, value) => valued true key value
  | none =>
    match Text.splitOnce? name [':'], Text.splitOnce? name ['='] with
    | some (key, value), _ => valued false key value
    | none, some (key, value) => valued false key value
    | none, none => ((CharProperty.ofName? name).map fun p => .ok (false, p)).getD
        (.error .propertyUnknown)

/-- The characters with a property, or those without it. -/
def propertyAtom (first : Nat) (negated : Bool) : Scanning PatternAtom := do
  advance
  let name ←
    match ← char? with
    | none => fail .escapeUnfinished ⟨← here, ← here⟩
    | some '\x7b' =>
      advance
      let name ← spacedRun (· ≠ '\x7d')
      if ← atEnd then fail .escapeUnfinished ⟨← here, ← here⟩
      skip 1
      pure name
    | some c =>
      if c = '\\' then fail .propertyName ⟨← here, (← here) + 1⟩
      advance
      pure [c]
  let place : Stretch := ⟨first, ← here⟩
  if !(← flags).unicode then
    note .propertyOfOctets place
    return .set .none
  match propertyNamed name with
  | .ok (differs, p) =>
    return .set (.complIf (negated != differs) ((← flags).widen (.property p)))
  | .error fault =>
    note fault place
    return .set .none

/-- The set of characters that a letter names. -/
def namedSet (letter : Char) (place : Stretch) : Scanning PatternAtom := do
  let unicode := (← flags).unicode
  let positive :=
    match letter.toLower with
    | 'd' => if unicode then .property .decimal else .range '0' '9'
    | 's' => if unicode then .property .blank
        else .inter .ascii (.property .blank)
    | _ => if unicode then .word else .inter .ascii .word
  return .set (← complIf letter.isUpper place positive)

/-- The edge of words that stands in braces behind the letter for edges, if one does.  A digit
there belongs to the bounds of a repetition. -/
def wordEdge? (first : Nat) : Scanning (Option WordEdge) := do
  let isNameChar (c : Char) : Bool := c.isAlpha || c = '-'
  let brace ← here
  let before ← get
  if (← char?) ≠ some '\x7b' then return none
  advanceOr .edgeUnfinished first
  let inner ← here
  if !(← char?).any isNameChar then
    set before
    return none
  let name ← spacedRun isNameChar
  let past ← here
  if (← char?) ≠ some '\x7d' then fail .edgeUnclosed ⟨brace, past⟩
  skip 1
  match [("start", WordEdge.start), ("end", .stop), ("start-half", .noneBefore),
      ("end-half", .noneAfter)].find? (·.1.toList = name) with
  | some (_, e) => return some e
  | none => fail .edgeUnknown ⟨inner, past⟩

/-- What a single letter behind a backslash stands for. -/
def letterAtom (first : Nat) (letter : Char) : Scanning PatternAtom := do
  skip 1
  let ascii := !(← flags).unicode
  if isPlainEscape letter then return .char letter false
  if let some c := controlOf? letter then return .char c false
  match letter with
  | 'A' => return .anchor .textStart
  | 'z' => return .anchor .textEnd
  | 'b' => return .anchor (.word ((← wordEdge? first).getD .edge) ascii)
  | 'B' => return .anchor (.word .noEdge ascii)
  | '<' => return .anchor (.word .start ascii)
  | '>' => return .anchor (.word .stop ascii)
  | _ => fail .escapeUnknown ⟨first, ← here⟩

/-- The atom behind a backslash, with its place. -/
def escape : Scanning (PatternAtom × Stretch) := do
  let first ← here
  skip 1
  match ← char? with
  | none => fail .escapeUnfinished ⟨first, ← here⟩
  | some c =>
    if c.isDigit then fail .backReference ⟨first, (← here) + 1⟩
    let atom ←
      match c with
      | 'x' | 'u' | 'U' => hexAtom c
      | 'p' => propertyAtom first false
      | 'P' => propertyAtom first true
      | 'd' | 's' | 'w' | 'D' | 'S' | 'W' => do
        let place : Stretch := ⟨first, (← here) + 1⟩
        skip 1
        namedSet c place
      | _ => letterAtom first c
    return (atom, ⟨first, ← here⟩)

/-- A character of the pattern that stands for itself, or the atom behind a backslash. -/
def atom : Scanning (PatternAtom × Stretch) := do
  match ← char? with
  | some '\\' => escape
  | some c =>
    let first ← here
    skip 1
    return (.char c false, ⟨first, first + 1⟩)
  | none => fail .escapeUnfinished ⟨← here, ← here⟩

end Scanning

end MergeMessage
