import MergeMessage.Text.Utf8

/-!
# Octets that should be a text

What comes from elsewhere may not be well formed UTF-8.  Each longest piece of it that starts a
character but does not end it, and each octet that starts none, is shown as a replacement
character.  In UTF-16 two octets are a unit, and a character is a unit or a leading and a trailing
one; each leading or trailing unit that stands alone is shown as a replacement character.

## Main definitions

* `Octets.lossyText` — the text that octets stand for, with replacement characters.
* `Octets.lossyWideText` — the text that octets stand for in UTF-16.
* `Octets.markedText` — the text of octets that may start with a mark of their encoding.
-/

namespace MergeMessage.Octets

/-- A character of which some octets came. -/
structure Partial where
  /-- The number that its octets stand for so far. -/
  value : Nat
  /-- How many octets it lacks. -/
  lacking : Nat
  /-- The least octet that may come next. -/
  low : UInt8 := 0x80
  /-- The greatest octet that may come next. -/
  high : UInt8 := 0xBF
  deriving DecidableEq, Repr

/-- The replacement character. -/
def replacement : Char := '\ufffd'

/-- What an octet at the start of a character stands for, and the character that it starts. -/
def start (b : UInt8) : Text × Option Partial :=
  if b < 0x80 then ([Char.ofNat b.toNat], none)
  else if b < 0xC2 then ([replacement], none)
  else if b < 0xE0 then ([], some { value := b.toNat - 0xC0, lacking := 1 })
  else if b = 0xE0 then ([], some { value := 0, lacking := 2, low := 0xA0 })
  else if b = 0xED then ([], some { value := 0xD, lacking := 2, high := 0x9F })
  else if b < 0xF0 then ([], some { value := b.toNat - 0xE0, lacking := 2 })
  else if b = 0xF0 then ([], some { value := 0, lacking := 3, low := 0x90 })
  else if b < 0xF4 then ([], some { value := b.toNat - 0xF0, lacking := 3 })
  else if b = 0xF4 then ([], some { value := 4, lacking := 3, high := 0x8F })
  else ([replacement], none)

/-- What one more octet stands for, and the character that is not complete after it. -/
def advance (p : Partial) (b : UInt8) : Text × Option Partial :=
  if p.low ≤ b && b ≤ p.high then
    let value := p.value * 0x40 + continuation b
    if p.lacking ≤ 1 then ([Char.ofNat value], none)
    else ([], some { value, lacking := p.lacking - 1 })
  else
    let (text, next) := start b
    (replacement :: text, next)

/-- The text that octets stand for after the start of a character. -/
def lossyTextAfter : Option Partial → Octets → Text
  | none, [] => []
  | some _, [] => [replacement]
  | none, b :: s => (start b).1 ++ lossyTextAfter (start b).2 s
  | some p, b :: s => (advance p b).1 ++ lossyTextAfter (advance p b).2 s

/-- The text that octets stand for, with replacement characters. -/
def lossyText (s : Octets) : Text := lossyTextAfter none s

@[simp] theorem lossyText_nil : lossyText [] = [] := rfl

/-! ### UTF-16 -/

/-- Is the unit the first one of a character of two units? -/
def isLeading (unit : Nat) : Bool := 0xD800 ≤ unit && unit ≤ 0xDBFF

/-- Is the unit the second one of a character of two units? -/
def isTrailing (unit : Nat) : Bool := 0xDC00 ≤ unit && unit ≤ 0xDFFF

/-- What a unit at the start of a character stands for, and the leading unit that it is. -/
def startWide (unit : Nat) : Text × Option Nat :=
  if isLeading unit then ([], some unit)
  else if isTrailing unit then ([replacement], none)
  else ([Char.ofNat unit], none)

/-- What one more unit stands for after a leading one, and the leading unit that it is. -/
def advanceWide (leading unit : Nat) : Text × Option Nat :=
  if isTrailing unit then
    ([Char.ofNat (0x10000 + (leading - 0xD800) * 0x400 + (unit - 0xDC00))], none)
  else
    let (text, next) := startWide unit
    (replacement :: text, next)

/-- The text that octets stand for in UTF-16, perhaps after a leading unit.  Of what is left over at
the end, one replacement character is shown. -/
def lossyWideTextAfter (unit : UInt8 → UInt8 → Nat) : Option Nat → Octets → Text
  | none, [] => []
  | some _, [] => [replacement]
  | _, [_] => [replacement]
  | none, a :: b :: s =>
    let (text, next) := startWide (unit a b)
    text ++ lossyWideTextAfter unit next s
  | some leading, a :: b :: s =>
    let (text, next) := advanceWide leading (unit a b)
    text ++ lossyWideTextAfter unit next s

/-- The text that octets stand for in UTF-16, where `unit` says in which order two of them come. -/
def lossyWideText (unit : UInt8 → UInt8 → Nat) (s : Octets) : Text :=
  lossyWideTextAfter unit none s

/-! ### Marks -/

/-- The text that octets stand for.  The mark of an encoding at their front tells which one it is,
and does not count; without one it is UTF-8. -/
def markedText : Octets → Text
  | 0xEF :: 0xBB :: 0xBF :: s => lossyText s
  | 0xFF :: 0xFE :: s => lossyWideText (fun low high => high.toNat * 0x100 + low.toNat) s
  | 0xFE :: 0xFF :: s => lossyWideText (fun high low => high.toNat * 0x100 + low.toNat) s
  | s => lossyText s

end MergeMessage.Octets
