import MergeMessage.Text.LetterCase

/-!
# Case forms

Characters that differ in case alone are forms of one letter.  Each letter has a form that stands
for it: mostly the lowercase form, and for the few letters with more lowercase forms one of these.

## Main definitions

* `caseLetter` — the code point of the letter of which a character is a form.
* `caseForms` — the code points of all forms of a letter.
-/

namespace MergeMessage

/-- The lowercase forms that do not stand for their letter, each with the one that does. -/
def otherLowerForms : List (Nat × Nat) :=
  [(0xB5, 0x3BC), (0x17F, 0x73), (0x345, 0x3B9), (0x3C2, 0x3C3), (0x3D0, 0x3B2), (0x3D1, 0x3B8),
   (0x3D5, 0x3C6), (0x3D6, 0x3C0), (0x3F0, 0x3BA), (0x3F1, 0x3C1), (0x3F5, 0x3B5), (0x1C80, 0x432),
   (0x1C81, 0x434), (0x1C82, 0x43E), (0x1C83, 0x441), (0x1C84, 0x442), (0x1C85, 0x442),
   (0x1C86, 0x44A), (0x1C87, 0x463), (0x1C88, 0xA64B), (0x1E9B, 0x1E61), (0x1FBE, 0x3B9),
   (0x1FD3, 0x390), (0x1FE3, 0x3B0), (0xFB05, 0xFB06)]

/-- The letter of which the character is a form, by the code point that stands for it. -/
def caseLetter (c : Char) : Nat :=
  let lower := (lowerRuns.findSome? (·.lower? c.toNat)).getD c.toNat
  (otherLowerForms.lookup lower).getD lower

/-- The code points of a run whose lowercase form is the given one. -/
def LowerRun.upper? (r : LowerRun) (lower : Nat) : Option Nat :=
  let upper := ((lower : Int) - r.offset).toNat
  if r.lower? upper = some lower then some upper else none

/-- The code points of the forms of the letter that a code point stands for. -/
def caseForms (letter : Nat) : List Nat :=
  letter :: lowerRuns.filterMap (·.upper? letter) ++
    (otherLowerForms.filter (·.2 = letter)).map (·.1)

end MergeMessage
