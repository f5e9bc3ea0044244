import MergeMessage.Text.Basic

/-!
# Sets of code points

A set of code points is written as the increasing list of the points at which membership
changes: `[a, b, c]` holds the points from `a` up to but without `b`, and all from `c` on.
The properties that a standard defines by long tables of ranges are written this way.

## Main definitions

* `CodePoints` — a set of code points, as the points where membership changes.
* `CodePoints.contains` — membership.
-/

namespace MergeMessage

/-- A set of code points: the increasing list of the points where membership changes. -/
abbrev CodePoints := List Nat

namespace CodePoints

/-- Membership: the number of changes at or before the point is odd. -/
def contains : CodePoints → Nat → Bool
  | [], _ => false
  | change :: changes, n => if n < change then false else !contains changes n

@[simp] theorem contains_nil (n : Nat) : contains [] n = false := rfl

theorem contains_cons (change : Nat) (changes : CodePoints) (n : Nat) :
    contains (change :: changes) n = (!decide (n < change) && !contains changes n) := by
  by_cases h : n < change <;> simp [contains, h]

/-- Points before the first change lie outside. -/
theorem contains_of_lt {change n : Nat} (h : n < change) (changes : CodePoints) :
    contains (change :: changes) n = false := by
  simp [contains, h]

end CodePoints

end MergeMessage
