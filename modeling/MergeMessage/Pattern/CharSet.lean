import MergeMessage.Text.CaseForms
import MergeMessage.Text.Category

/-!
# Sets of characters

A pattern names sets of characters by ranges, by properties and by the operations on sets.  Where
case is ignored, a set also holds the other forms of its letters.

## Main definitions

* `CharSet` — a set of characters as a pattern names it.
* `CharSet.contains` — membership.
-/

namespace MergeMessage

/-- A set of characters as a pattern names it. -/
inductive CharSet
  /-- The characters of some ranges. -/
  | points (ps : CodePoints)
  /-- The word characters. -/
  | word
  /-- The characters with a property. -/
  | property (p : CharProperty)
  /-- The characters that lie outside a set. -/
  | compl (s : CharSet)
  /-- The characters of either set. -/
  | union (s t : CharSet)
  /-- The characters of both sets. -/
  | inter (s t : CharSet)
  /-- A set with the other forms of its letters. -/
  | withForms (s : CharSet)
  /-- A set with the other forms of its ASCII letters. -/
  | withAsciiForms (s : CharSet)
  deriving DecidableEq, Repr

namespace CharSet

/-- The set without members. -/
def none : CharSet := .points []

/-- The set of one character. -/
def single (c : Char) : CharSet := .points [c.toNat, c.toNat + 1]

/-- The characters from one up to another one. -/
def range (first last : Char) : CharSet := .points [first.toNat, last.toNat + 1]

/-- The first 128 characters. -/
def ascii : CharSet := .points [0, 0x80]

/-- The characters of the first set that are not in the second. -/
def diff (s t : CharSet) : CharSet := .inter s (.compl t)

/-- The characters of exactly one of the sets. -/
def apart (s t : CharSet) : CharSet := .union (diff s t) (diff t s)

/-- The set or, if the flag is set, what lies outside. -/
def complIf (negated : Bool) (s : CharSet) : CharSet := if negated then .compl s else s

/-- The ASCII letter in its other case; any other character stays. -/
def otherAsciiCase (c : Char) : Char := if c.isUpper then c.toLower else c.toUpper

/-- Membership. -/
def contains : CharSet → Char → Bool
  | .points ps, c => ps.contains c.toNat
  | .word, c => isWordChar c
  | .property p, c => p.holds c
  | .compl s, c => !s.contains c
  | .union s t, c => s.contains c || t.contains c
  | .inter s t, c => s.contains c && t.contains c
  | .withForms s, c => (caseForms (caseLetter c)).any fun n => s.contains (Char.ofNat n)
  | .withAsciiForms s, c => s.contains c || s.contains (otherAsciiCase c)

end CharSet

end MergeMessage
