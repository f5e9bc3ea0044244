import MergeMessage.Text.Basic

/-!
# What is wrong with a pattern

A text that is no pattern is shown to its writer with marks below the stretch that is wrong, and
with the reason.  A text of more lines is shown with the numbers of its lines.

## Main definitions

* `Stretch` — a stretch of a text.
* `PatternFault` — the reasons; `PatternFault.message`.
* `PatternFlaw` — a reason with its place; `PatternFlaw.report`, what the writer is shown.
-/

namespace MergeMessage

/-- A stretch of a text, given by the numbers of characters before its start and before its
end. -/
structure Stretch where
  /-- The number of characters before the start. -/
  first : Nat
  /-- The number of characters before the end. -/
  past : Nat
  deriving DecidableEq, Repr

/-- Why a text is no pattern. -/
inductive PatternFault
  /-- A condition on a place stands in a set. -/
  | escapeInSet
  /-- A range in a set ends before it starts. -/
  | rangeOrder
  /-- A range in a set is not between two characters. -/
  | rangeEnd
  /-- A set is not closed. -/
  | setUnclosed
  /-- A number is too large. -/
  | numberTooLarge
  /-- A character is to be named by its number, but there is none. -/
  | hexEmpty
  /-- A number is not the number of a character. -/
  | hexNoCharacter
  /-- A number has a character that is no digit. -/
  | hexDigit
  /-- The text ends after a backslash. -/
  | escapeUnfinished
  /-- Nothing is named by this character after a backslash. -/
  | escapeUnknown
  /-- Flags end with a minus sign. -/
  | flagMinusLast
  /-- A flag is given twice. -/
  | flagTwice
  /-- Flags have two minus signs. -/
  | flagMinusTwice
  /-- The text ends amid flags. -/
  | flagMissing
  /-- There is no such flag. -/
  | flagUnknown
  /-- The name of a group is taken. -/
  | groupNameTaken
  /-- The name of a group is empty. -/
  | groupNameEmpty
  /-- The name of a group has a character that names do not have. -/
  | groupNameCharacter
  /-- The text ends amid the name of a group. -/
  | groupNameUnclosed
  /-- A group is not closed. -/
  | groupUnclosed
  /-- A group is closed that was not opened. -/
  | groupUnopened
  /-- The bounds of a repetition are in the wrong order. -/
  | countOrder
  /-- A repetition has no number. -/
  | countMissing
  /-- The bounds of a repetition are not closed. -/
  | countUnclosed
  /-- There is nothing to repeat. -/
  | nothingToRepeat
  /-- The name of an edge of words is not closed. -/
  | edgeUnclosed
  /-- There is no such edge of words. -/
  | edgeUnknown
  /-- The text ends after the opening brace behind an edge of words. -/
  | edgeUnfinished
  /-- The name of a property is a backslash. -/
  | propertyName
  /-- Earlier groups cannot be referred to. -/
  | backReference
  /-- Groups cannot look around. -/
  | lookAround
  /-- Properties are not to be used where characters are octets. -/
  | propertyOfOctets
  /-- The pattern describes octets that are no text. -/
  | noText
  /-- There is no such property. -/
  | propertyUnknown
  /-- The property has no such value. -/
  | propertyValueUnknown
  deriving DecidableEq, Repr

/-- The words for a reason. -/
def PatternFault.message : PatternFault → String
  | .escapeInSet => "invalid escape sequence found in character class"
  | .rangeOrder => "invalid character class range, the start must be <= the end"
  | .rangeEnd => "invalid range boundary, must be a literal"
  | .setUnclosed => "unclosed character class"
  | .numberTooLarge => "decimal literal invalid"
  | .hexEmpty => "hexadecimal literal empty"
  | .hexNoCharacter => "hexadecimal literal is not a Unicode scalar value"
  | .hexDigit => "invalid hexadecimal digit"
  | .escapeUnfinished => "incomplete escape sequence, reached end of pattern prematurely"
  | .escapeUnknown => "unrecognized escape sequence"
  | .flagMinusLast => "dangling flag negation operator"
  | .flagTwice => "duplicate flag"
  | .flagMinusTwice => "flag negation operator repeated"
  | .flagMissing => "expected flag but got end of regex"
  | .flagUnknown => "unrecognized flag"
  | .groupNameTaken => "duplicate capture group name"
  | .groupNameEmpty => "empty capture group name"
  | .groupNameCharacter => "invalid capture group character"
  | .groupNameUnclosed => "unclosed capture group name"
  | .groupUnclosed => "unclosed group"
  | .groupUnopened => "unopened group"
  | .countOrder => "invalid repetition count range, the start must be <= the end"
  | .countMissing => "repetition quantifier expects a valid decimal"
  | .countUnclosed => "unclosed counted repetition"
  | .nothingToRepeat => "repetition operator missing expression"
  | .edgeUnclosed =>
    "special word boundary assertion is either unclosed or contains an invalid character"
  | .edgeUnknown =>
    "unrecognized special word boundary assertion, valid choices are: " ++
      "start, end, start-half or end-half"
  | .edgeUnfinished =>
    "found either the beginning of a special word boundary or a bounded repetition on a \\b " ++
      "with an opening brace, but no closing brace"
  | .propertyName => "invalid Unicode character class"
  | .backReference => "backreferences are not supported"
  | .lookAround => "look-around, including look-ahead and look-behind, is not supported"
  | .propertyOfOctets => "Unicode not allowed here"
  | .noText => "pattern can match invalid UTF-8"
  | .propertyUnknown => "Unicode property not found"
  | .propertyValueUnknown => "Unicode property value not found"

/-- A reason with its place. -/
structure PatternFlaw where
  /-- Why the text is no pattern. -/
  fault : PatternFault
  /-- The stretch that is wrong. -/
  place : Stretch
  /-- The stretch with which it does not agree. -/
  other : Option Stretch := none
  deriving DecidableEq, Repr

namespace PatternFlaw

/-- The line of a place, and the column in this line, both from zero. -/
def lineAndColumn (pattern : Text) (place : Nat) : Nat × Nat :=
  let before := pattern.take place
  (before.count '\n', (before.reverse.takeWhile (· ≠ '\n')).length)

/-- Stretches of a line as pairs of columns: marks below them, where the first `done` columns have
been passed. -/
def marks : Nat → List (Nat × Nat) → Text
  | _, [] => []
  | done, (first, past) :: more =>
    let width := max 1 (past - first)
    List.replicate (first - done) ' ' ++ List.replicate width '^' ++
      marks (max done first + width) more

/-- The stretches that the flaw speaks of, in their order. -/
def places (flaw : PatternFlaw) : List Stretch :=
  match flaw.other with
  | some other =>
    if other.first ≤ flaw.place.first then [other, flaw.place] else [flaw.place, other]
  | none => [flaw.place]

/-- The columns of the stretches that lie in a line. -/
def columnsIn (flaw : PatternFlaw) (pattern : Text) (line : Nat) : List (Nat × Nat) :=
  flaw.places.filterMap fun s =>
    let (firstLine, first) := lineAndColumn pattern s.first
    let (lastLine, past) := lineAndColumn pattern s.past
    if firstLine = line && lastLine = line then some (first, past) else none

/-- A line of the pattern behind a margin, and the marks below it if there are any. -/
def noted (flaw : PatternFlaw) (pattern : Text) (margin : Nat → Text) (line : Nat) (s : Text) :
    Text :=
  let columns := flaw.columnsIn pattern line
  margin line ++ s ++ ['\n'] ++
    if columns.isEmpty then []
    else List.replicate (margin line).length ' ' ++ marks 0 columns ++ ['\n']

/-- The notes on the stretches that run over more than one line. -/
def longNotes (flaw : PatternFlaw) (pattern : Text) : Text :=
  let notes := flaw.places.filterMap fun s =>
    let (firstLine, first) := lineAndColumn pattern s.first
    let (lastLine, past) := lineAndColumn pattern s.past
    if firstLine = lastLine then none
    else some ("on line ".toList ++ Text.ofNat (firstLine + 1) ++ " (column ".toList ++
      Text.ofNat (first + 1) ++ ") through line ".toList ++ Text.ofNat (lastLine + 1) ++
      " (column ".toList ++ Text.ofNat past ++ ")".toList)
  if notes.isEmpty then [] else Text.join "\n".toList notes ++ ['\n']

/-- The margin with the number of a line, where the last line has the number `count`. -/
def numbered (count line : Nat) : Text :=
  let number := Text.ofNat (line + 1)
  List.replicate ((Text.ofNat count).length - number.length) ' ' ++ number ++ ": ".toList

/-- What the writer of the pattern is shown. -/
def report (flaw : PatternFlaw) (pattern : Text) : Text :=
  let lines := pattern.lines
  let count := lines.length + if pattern.getLast? = some '\n' then 1 else 0
  let margin (line : Nat) : Text :=
    if count ≤ 1 then List.replicate 4 ' ' else numbered count line
  let body := (lines.mapIdx fun line s => flaw.noted pattern margin line s).flatten
  let reason := "error: ".toList ++ flaw.fault.message.toList
  let divider := List.replicate 79 '~' ++ ['\n']
  "regex parse error:\n".toList ++
    if pattern.contains '\n' then
      divider ++ body ++ divider ++ flaw.longNotes pattern ++ reason
    else body ++ reason

end PatternFlaw

end MergeMessage
