import MergeMessage.Text.Basic

/-!
# Hexadecimal digits

Numbers and characters that are written in digits of base sixteen.  The digits above nine are
letters of either case.

## Main definitions

* `hexDigit?` — the value of a digit.
* `hexNumber?` — the number that digits stand for.
* `charOfNat?`, `charOfHex?` — the character with a code point.
-/

namespace MergeMessage

/-- The value of a hexadecimal digit of either case. -/
def hexDigit? (c : Char) : Option Nat :=
  if c.isDigit then some (c.toNat - 48)
  else if 'a' ≤ c && c ≤ 'f' then some (c.toNat - 87)
  else if 'A' ≤ c && c ≤ 'F' then some (c.toNat - 55)
  else none

/-- Is the character a hexadecimal digit? -/
def isHexDigit (c : Char) : Bool := (hexDigit? c).isSome

/-- The number that hexadecimal digits stand for. -/
def hexNumber? (digits : Text) : Option Nat :=
  digits.foldlM (fun n c => (hexDigit? c).map (n * 16 + ·)) 0

/-- The character with a code point, if there is one: half of a surrogate pair is none. -/
def charOfNat? (n : Nat) : Option Char := if n.isValidChar then some (Char.ofNat n) else none

/-- The character that hexadecimal digits stand for. -/
def charOfHex? (digits : Text) : Option Char := (hexNumber? digits).bind charOfNat?

@[simp] theorem hexNumber?_nil : hexNumber? [] = some 0 := rfl

end MergeMessage
