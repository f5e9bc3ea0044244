import MergeMessage.Pattern.Escape

/-!
# Sets in brackets

Between brackets stand the members of a set: characters, ranges, named sets and sets in brackets
of their own.  Two ampersands, hyphens or tildes between them stand for what both sides have, what
only the left side has, and what exactly one side has; they are read from the left.  A circumflex
at the start stands for what lies outside, and a bracket or hyphens at the start for themselves.

## Main definitions

* `Scanning.bracketedSet` — the set at an opening bracket.
-/

namespace MergeMessage.Scanning

/-- The sets of ASCII characters that have a name between colons. -/
def asciiSets : List (String × CodePoints) :=
  [("alnum", [0x30, 0x3A, 0x41, 0x5B, 0x61, 0x7B]), ("alpha", [0x41, 0x5B, 0x61, 0x7B]),
   ("ascii", [0, 0x80]), ("blank", [0x9, 0xA, 0x20, 0x21]), ("cntrl", [0, 0x20, 0x7F, 0x80]),
   ("digit", [0x30, 0x3A]), ("graph", [0x21, 0x7F]), ("lower", [0x61, 0x7B]),
   ("print", [0x20, 0x7F]), ("punct", [0x21, 0x30, 0x3A, 0x41, 0x5B, 0x61, 0x7B, 0x7F]),
   ("space", [0x9, 0xE, 0x20, 0x21]), ("upper", [0x41, 0x5B]),
   ("word", [0x30, 0x3A, 0x41, 0x5B, 0x5F, 0x60, 0x61, 0x7B]),
   ("xdigit", [0x30, 0x3A, 0x41, 0x47, 0x61, 0x67])]

/-- The named set of ASCII characters that starts here, if one does: its name in colons and
brackets, with a circumflex before the name for what lies outside. -/
def asciiSet? : Scanning (Option CharSet) := do
  let first ← here
  match (← get).rest with
  | '[' :: ':' :: inner =>
    let negated := inner.head? = some '^'
    let inner := if negated then inner.tail else inner
    let name := inner.takeWhile (· ≠ ':')
    match asciiSets.find? (·.1.toList = name) with
    | some (_, points) =>
      if Text.startsWith (inner.drop name.length) ":]".toList then
        skip (name.length + if negated then 5 else 4)
        return some (← complIf negated ⟨first, ← here⟩ ((← flags).widen (.points points)))
      else return none
    | none => return none
  | _ => return none

/-- A character is a member of a set, and must be ASCII where characters are octets. -/
def noteMember (c : Char) (octet : Bool) (place : Stretch) : Scanning Unit := do
  if !(← flags).unicode && 0x80 ≤ c.toNat then
    note (if octet then .noText else .propertyOfOctets) place

/-- The members that an atom stands for. -/
def members (a : PatternAtom) (place : Stretch) : Scanning CharSet := do
  match a with
  | .char c octet =>
    noteMember c octet place
    return .single c
  | .set s => return s
  | .anchor _ => fail .escapeInSet place

/-- The end of a range, which must be a character. -/
def rangeEnd (a : PatternAtom) (place : Stretch) : Scanning (Char × Bool) :=
  match a with
  | .char c octet => return (c, octet)
  | _ => fail .rangeEnd place

/-- The character behind the next one. -/
def second? : Scanning (Option Char) := do
  let rest := (← get).rest.tail
  return (if (← flags).spaced then rest.dropWhile isBlank else rest).head?

/-- A member of a set, or a range: a hyphen stands for a range unless the set ends behind it or
another hyphen follows. -/
def memberOrRange (opened : Stretch) : Scanning CharSet := do
  let (a, aPlace) ← atom
  skipSpace
  if ← atEnd then fail .setUnclosed opened
  let behind ← second?
  if (← char?) ≠ some '-' || behind = some ']' || behind = some '-' then
    members a aPlace
  else
    advance
    if ← atEnd then fail .setUnclosed opened
    let (b, bPlace) ← atom
    let (c, cOctet) ← rangeEnd a aPlace
    let (d, dOctet) ← rangeEnd b bPlace
    if d < c then fail .rangeOrder ⟨aPlace.first, bPlace.past⟩
    noteMember c cOctet aPlace
    noteMember d dOctet bPlace
    return .range c d

/-- The hyphens at the start of a set that starts at `first`: are there any? -/
def leadingHyphens (first : Nat) : Nat → Scanning Bool
  | 0 => return false
  | count + 1 => do
    if (← char?) = some '-' then
      advance
      if ← atEnd then fail .setUnclosed ⟨first, first⟩
      discard (leadingHyphens first count)
      return true
    else return false

/-- The start of a set: its place, whether the set is what lies outside, and the members that
stand for themselves because they stand here. -/
def openSet : Scanning (Stretch × Bool × CharSet) := do
  let first ← here
  advanceOr .setUnclosed first
  let negated := (← char?) = some '^'
  if negated then advanceOr .setUnclosed first
  let hyphens ← leadingHyphens first (← get).rest.length
  let bracket := !hyphens && (← char?) = some ']'
  if bracket then advanceOr .setUnclosed first
  let start : CharSet :=
    if hyphens then .single '-' else if bracket then .single ']' else .none
  return (⟨first, ← here⟩, negated, start)

mutual

/-- The set at an opening bracket. -/
def bracketedSetWithin : (fuel : Nat) → Scanning CharSet
  | 0 => return .none
  | fuel + 1 => do
    let (opened, negated, start) ← openSet
    let s ← membersWithin fuel opened id start
    complIf negated ⟨opened.first, ← here⟩ ((← flags).widen s)

/-- The rest of a set that was opened at `opened`, where the members `found` have been read since
the last operation, and `finish` is what is to be done with them. -/
def membersWithin : (fuel : Nat) → (opened : Stretch) → (finish : CharSet → CharSet) →
    (found : CharSet) → Scanning CharSet
  | 0, _, finish, found => return finish found
  | fuel + 1, opened, finish, found => do
    skipSpace
    let f ← flags
    let left := f.widen (finish found)
    match (← get).rest with
    | [] => fail .setUnclosed opened
    | '[' :: _ =>
      match ← asciiSet? with
      | some s => membersWithin fuel opened finish (.union found s)
      | none => do
        let s ← bracketedSetWithin fuel
        membersWithin fuel opened finish (.union found s)
    | ']' :: _ => do
      skip 1
      return finish found
    | '&' :: '&' :: _ => do
      skip 2
      membersWithin fuel opened (fun right => .inter left (f.widen right)) .none
    | '-' :: '-' :: _ => do
      skip 2
      membersWithin fuel opened (fun right => .diff left (f.widen right)) .none
    | '~' :: '~' :: _ => do
      skip 2
      membersWithin fuel opened (fun right => .apart left (f.widen right)) .none
    | _ => do
      let s ← memberOrRange opened
      membersWithin fuel opened finish (.union found s)

end

/-- The set at an opening bracket.  Each step reads a character. -/
def bracketedSet : Scanning CharSet := do
  bracketedSetWithin ((← get).rest.length + 1)

end MergeMessage.Scanning
