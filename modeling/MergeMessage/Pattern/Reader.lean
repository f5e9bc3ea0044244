import MergeMessage.Pattern.SetReader

/-!
# Reading the whole of a pattern

A pattern is a choice between sequences.  The parts of a sequence are characters, sets, conditions
on a place and groups, each of which may be repeated.  A group may have a name or flags of its
own; flags without a group hold up to the end of the group that they stand in.

## Main definitions

* `Pattern.ofText` — the pattern that a text is, or what its writer is shown.
-/

namespace MergeMessage

namespace Scanning

/-! ### Repetition -/

/-- The greatest number of repetitions that can be asked for. -/
def maxCount : Nat := Nat.pow 2 32 - 1

/-- Blank characters are read, and other space after the first of them. -/
def skipBlank : Scanning Unit := do
  if (← char?).any isBlank then
    skipTo (·.dropWhile isBlank)
    skipSpace

/-- A number, or what is wrong with it. -/
def count? : Scanning (Except PatternFlaw Nat) := do
  skipTo (·.dropWhile isBlank)
  let first ← here
  let digits ← spacedRun Char.isDigit
  let place : Stretch := ⟨first, ← here⟩
  skipBlank
  let n := digits.foldl (fun n c => 10 * n + (c.toNat - 48)) 0
  if digits.isEmpty then return .error { fault := .countMissing, place }
  else if maxCount < n then return .error { fault := .numberTooLarge, place }
  else return .ok n

/-- The bounds of a repetition, in braces. -/
def bounds : Scanning (Nat × Option Nat) := do
  let first ← here
  advanceOr .countUnclosed first
  let least? ← count?
  if ← atEnd then fail .countUnclosed ⟨first, ← here⟩
  let (least, most) ←
    if (← char?) = some ',' then do
      advanceOr .countUnclosed first
      if (← char?) = some '\x7d' then
        pure (← least?, none)
      else
        let least ← least?
        pure (least, some (← (← count?)))
    else do
      let n ← least?
      pure (n, some n)
  if (← char?) ≠ some '\x7d' then fail .countUnclosed ⟨first, ← here⟩
  advance
  discard (skipIf "?")
  if most.any (· < least) then fail .countOrder ⟨first, ← here⟩
  return (least, most)

/-- The bounds that a sign for a repetition stands for. -/
def repetition (sign : Char) : Scanning (Nat × Option Nat) := do
  if sign = '\x7b' then bounds
  else
    skip 1
    discard (skipIf "?")
    return if sign = '?' then (0, some 1) else if sign = '*' then (0, none) else (1, none)

/-! ### Groups -/

/-- May the character stand in the name of a group? -/
def isNameChar (isFirst : Bool) (c : Char) : Bool :=
  c = '_' || isAlphabetic c || (!isFirst && (isNumber c || c = '.' || c = '[' || c = ']'))

/-- The name of a group, up to the closing angle bracket. -/
def groupName : Scanning Unit := do
  let first ← here
  let scan ← get
  let name := scan.rest.takeWhile (· ≠ '>')
  if let some (_, i) := name.zipIdx.find? fun (c, i) => !isNameChar (i = 0) c then
    fail .groupNameCharacter ⟨first + i, first + i + 1⟩
  skip name.length
  let place : Stretch := ⟨first, ← here⟩
  if ← atEnd then fail .groupNameUnclosed ⟨place.past, place.past⟩
  skip 1
  if name.isEmpty then fail .groupNameEmpty ⟨first, first⟩
  match scan.names.find? (·.1 = name) with
  | some (_, other) => throw { fault := .groupNameTaken, place, other }
  | none => modify fun scan => { scan with names := (name, place) :: scan.names }

/-- The flags with one of them set or cleared, if there is such a flag.  Whether repetitions are
short or long makes no difference here. -/
def withFlag? (f : PatternFlags) (value : Bool) : Char → Option PatternFlags
  | 'i' => some { f with ignoresCase := value }
  | 'm' => some { f with byLines := value }
  | 's' => some { f with dotIsAny := value }
  | 'R' => some { f with returns := value }
  | 'u' => some { f with unicode := value }
  | 'x' => some { f with spaced := value }
  | 'U' => some f
  | _ => none

/-- The flags of a group up to the colon or the parenthesis that ends them, where `seen` are the
signs before, the last one first, and `value` says whether flags are set or cleared. -/
def flagSigns (f : PatternFlags) (value : Bool) (seen : List (Char × Stretch)) :
    Nat → Scanning (PatternFlags × List (Char × Stretch))
  | 0 => return (f, seen)
  | fuel + 1 => do
    let first ← here
    let place : Stretch := ⟨first, first + 1⟩
    match ← char? with
    | none => return (f, seen)
    | some c =>
      if c = ':' || c = ')' then return (f, seen)
      let some next := if c = '-' then some f else withFlag? f value c
        | fail .flagUnknown place
      if let some (_, other) := seen.find? (·.1 = c) then
        throw { fault := if c = '-' then .flagMinusTwice else .flagTwice, place, other }
      skip 1
      if ← atEnd then fail .flagMissing ⟨first + 1, first + 1⟩
      flagSigns next (value && c ≠ '-') ((c, place) :: seen) fuel

/-- What stands at an opening parenthesis. -/
inductive GroupStart
  /-- Flags without a group. -/
  | flags
  /-- A group; with the flag, its stretch is marked. -/
  | group (marked : Bool) (place : Stretch)

/-- The flags at the start of a group, or without one. -/
def flaggedStart (opened : Stretch) (inner : Nat) : Scanning GroupStart := do
  if ← atEnd then fail .groupUnclosed opened
  let (f, seen) ← flagSigns (← flags) true [] (← get).rest.length
  if let some ('-', place) := seen.head? then fail .flagMinusLast place
  let closed := (← char?) = some ')'
  skip 1
  if closed && seen.isEmpty then fail .nothingToRepeat ⟨inner, inner⟩
  modify fun scan => { scan with flags := f }
  return if closed then .flags else .group false opened

/-- What stands at an opening parenthesis. -/
def groupStart : Scanning GroupStart := do
  let first ← here
  let opened : Stretch := ⟨first, first + 1⟩
  advance
  for sign in ["?=", "?!", "?<=", "?<!"] do
    if ← skipIf sign then fail .lookAround ⟨first, ← here⟩
  let inner ← here
  if (← skipIf "?P<") || (← skipIf "?<") then
    groupName
    return .group true opened
  else if ← skipIf "?" then flaggedStart opened inner
  else return .group true opened

/-! ### Sequences -/

/-- The set that a dot stands for. -/
def dot : Scanning Pattern := do
  let f ← flags
  let first ← here
  skip 1
  if !f.unicode then note .noText ⟨first, first + 1⟩
  let lineEnds := if f.returns then CharSet.union (.single '\n') (.single '\r') else .single '\n'
  return .char (.compl (if f.dotIsAny then .none else lineEnds))

/-- What an atom stands for in a sequence. -/
def ofAtom (a : PatternAtom) (place : Stretch) : Scanning Pattern := do
  let f ← flags
  match a with
  | .char c octet =>
    if octet && !f.unicode && 0x80 ≤ c.toNat then note .noText place
    return .char (f.widen (.single c))
  | .set s => return .char s
  | .anchor a => return .anchor a

/-- A part of a sequence that is no group. -/
def simplePart (c : Char) : Scanning Pattern := do
  let f ← flags
  match c with
  | '[' => return .char (← bracketedSet)
  | '.' => dot
  | '^' => do
    skip 1
    return .anchor (if f.byLines then .lineStart f.returns else .textStart)
  | '$' => do
    skip 1
    return .anchor (if f.byLines then .lineEnd f.returns else .textEnd)
  | _ => do
    let (a, place) ← atom
    ofAtom a place

/-- The parts of a sequence, the last one first, where flags are no part. -/
def sequence (parts : List (Option Pattern)) : Pattern :=
  match parts.reduceOption with
  | [] => .empty
  | last :: before => before.foldl (fun p q => .seq q p) last

/-- A choice between sequences up to the end of the group that was opened at `opened`, or of the
text: `earlier` makes a choice of a sequence and those before it, and `parts` are the parts of the
sequence that have been read, the last one first. -/
def choiceWithin : (fuel : Nat) → (opened : Option Stretch) → (earlier : Pattern → Pattern) →
    (parts : List (Option Pattern)) → Scanning Pattern
  | 0, _, earlier, parts => return earlier (sequence parts)
  | fuel + 1, opened, earlier, parts => do
    skipSpace
    let first ← here
    match ← char? with
    | none =>
      match opened with
      | some place => fail .groupUnclosed place
      | none => return earlier (sequence parts)
    | some '|' => do
      skip 1
      choiceWithin fuel opened (fun q => .either (earlier (sequence parts)) q) []
    | some ')' => do
      if opened.isNone then fail .groupUnopened ⟨first, first + 1⟩
      skip 1
      return earlier (sequence parts)
    | some '(' => do
      let f ← flags
      match ← groupStart with
      | .flags => choiceWithin fuel opened earlier (none :: parts)
      | .group marked place => do
        let p ← choiceWithin fuel (some place) id []
        modify fun scan => { scan with flags := f }
        choiceWithin fuel opened earlier (some (if marked then .group p else p) :: parts)
    | some c => do
      if c = '?' || c = '*' || c = '+' || c = '\x7b' then
        match parts with
        | some p :: before => do
          let (least, most) ← repetition c
          choiceWithin fuel opened earlier (some (.repeated least most p) :: before)
        | _ => fail .nothingToRepeat ⟨first, first⟩
      else do
        let p ← simplePart c
        choiceWithin fuel opened earlier (some p :: parts)

end Scanning

namespace Pattern

/-- The pattern that a text is, and the flaw that matters if there are no others.  Each step of
the reading reads a character. -/
def scanned (s : Text) : Except PatternFlaw (Pattern × Option PatternFlaw) := do
  let (p, scan) ← (Scanning.choiceWithin (s.length + 1) none id []).run { rest := s }
  return (p, scan.later)

/-- What the writer of a pattern is shown whose machine would be too large. -/
def tooLarge : Text :=
  "Compiled regex exceeds size limit of ".toList ++ Text.ofNat weightLimit ++ " bytes.".toList

/-- The pattern that a text is, or what its writer is shown. -/
def ofText (s : Text) : Except Text Pattern :=
  match scanned s with
  | .error flaw => .error (flaw.report s)
  | .ok (_, some flaw) => .error (flaw.report s)
  | .ok (p, none) => if weightLimit < p.weight then .error tooLarge else .ok p

end Pattern

end MergeMessage
