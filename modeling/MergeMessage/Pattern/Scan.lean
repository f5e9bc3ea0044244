import MergeMessage.Pattern.Flaw
import MergeMessage.Text.Blank

/-!
# Reading a pattern

A pattern is read from the left.  Flags that stand in it change how the rest of their group is
read: with one of them, blank characters and comments between the parts are passed over.  Some
flaws matter only if the rest of the text has none of the others, so the first of them is kept
until then.

## Main definitions

* `PatternFlags` — the flags.
* `PatternScan` — how far a pattern has been read.
* `Scanning` — a step of the reading, which may find a flaw.
-/

namespace MergeMessage

/-- How the parts of a pattern are meant. -/
structure PatternFlags where
  /-- Does case make no difference? -/
  ignoresCase : Bool := false
  /-- Do the anchors speak of lines, not of the text? -/
  byLines : Bool := false
  /-- Does a dot stand for line feeds too? -/
  dotIsAny : Bool := false
  /-- May a carriage return end lines too? -/
  returns : Bool := false
  /-- Are the parts made of characters, not of octets? -/
  unicode : Bool := true
  /-- Are blank characters and comments passed over? -/
  spaced : Bool := false
  deriving DecidableEq, Repr

/-- How far a pattern has been read. -/
structure PatternScan where
  /-- The number of characters that have been read. -/
  done : Nat := 0
  /-- The characters that are left. -/
  rest : Text
  /-- The flags that hold here. -/
  flags : PatternFlags := { }
  /-- The names of the groups, each with its place. -/
  names : List (Text × Stretch) := []
  /-- The first of the flaws that matter only if there are no others. -/
  later : Option PatternFlaw := none

/-- A step of the reading, which may find a flaw. -/
abbrev Scanning := StateT PatternScan (Except PatternFlaw)

namespace Scanning

/-- What is left after blank characters and comments, where `inComment` says whether a comment
has begun.  A comment runs from a number sign to the end of its line. -/
def afterSpace : Bool → Text → Text
  | _, [] => []
  | true, c :: s => afterSpace (c ≠ '\n') s
  | false, c :: s =>
    if isBlank c then afterSpace false s
    else if c = '#' then afterSpace true s
    else c :: s

/-- The reading ends with a flaw. -/
def fail {α : Type} (fault : PatternFault) (place : Stretch) : Scanning α :=
  throw { fault, place }

/-- A flaw is kept that matters only if there are no others. -/
def note (fault : PatternFault) (place : Stretch) : Scanning Unit :=
  modify fun scan => { scan with later := scan.later <|> some { fault, place } }

/-- The number of characters that have been read. -/
def here : Scanning Nat := return (← get).done

/-- The flags that hold here. -/
def flags : Scanning PatternFlags := return (← get).flags

/-- The next character, if there is one. -/
def char? : Scanning (Option Char) := return (← get).rest.head?

/-- Is nothing left? -/
def atEnd : Scanning Bool := return (← get).rest.isEmpty

/-- The next characters are read. -/
def skip (count : Nat) : Scanning Unit :=
  modify fun scan =>
    { scan with done := scan.done + min count scan.rest.length, rest := scan.rest.drop count }

/-- The next characters are read if they are the given ones. -/
def skipIf (word : String) : Scanning Bool := do
  if (← get).rest.startsWith word.toList then
    skip word.length
    return true
  else return false

/-- What a function of the text passes over is read. -/
def skipTo (remaining : Text → Text) : Scanning Unit := do
  let rest := (← get).rest
  skip (rest.length - (remaining rest).length)

/-- Blank characters and comments are read, if the flags say so. -/
def skipSpace : Scanning Unit := do
  if (← flags).spaced then skipTo (afterSpace false)

/-- The next character is read, and the space after it. -/
def advance : Scanning Unit := do
  skip 1
  skipSpace

/-- The next character is read and the space after it, and something must be left then; what lies
between `first` and the end is wrong otherwise. -/
def advanceOr (fault : PatternFault) (first : Nat) : Scanning Unit := do
  advance
  if ← atEnd then fail fault ⟨first, ← here⟩

/-- The next characters in the class `p` are read, up to so many, with space after each. -/
def spacedWhile (p : Char → Bool) : Nat → Scanning Text
  | 0 => return []
  | count + 1 => do
    match ← char? with
    | some c =>
      if p c then
        advance
        return c :: (← spacedWhile p count)
      else return []
    | none => return []

/-- The next characters in the class `p` are read, with space after each. -/
def spacedRun (p : Char → Bool) : Scanning Text := do
  spacedWhile p (← get).rest.length

end Scanning

end MergeMessage
