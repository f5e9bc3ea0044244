import MergeMessage.Text.Basic

/-!
# Dates and times

A date has four digits for the year and two for the month and the day; a time has two each for
the hour, the minute and the second, which may be left out, and a fraction of the second.  A
date and a time together have a letter or a space between them, and may say how far they are
from the time of Greenwich.

## Main definitions

* `Toml.isMoment` — is the text a date, a time or both?
-/

namespace MergeMessage.Toml

/-- The number that decimal digits stand for, if there are as many of them at the front of a
text, and what follows them. -/
def digitsAt? (count : Nat) (s : Text) : Option (Nat × Text) :=
  let digits := s.take count
  if digits.length = count && digits.all Char.isDigit then
    some (digits.foldl (fun n c => n * 10 + (c.toNat - 48)) 0, s.drop count)
  else none

/-- The number of two digits at the front of a text, if it lies between two bounds, and what
follows it. -/
def twoDigits? (low high : Nat) (s : Text) : Option (Nat × Text) :=
  match digitsAt? 2 s with
  | some (n, rest) => if low ≤ n && n ≤ high then some (n, rest) else none
  | none => none

/-- What follows a character at the front of a text. -/
def char? (c : Char) : Text → Option Text
  | [] => none
  | d :: s => if d = c then some s else none

/-- Has the year 366 days? -/
def isLeapYear (year : Nat) : Bool := year % 4 == 0 && (year % 100 != 0 || year % 400 == 0)

/-- The number of days of a month. -/
def daysIn (year month : Nat) : Nat :=
  if month = 2 then if isLeapYear year then 29 else 28
  else if month = 4 || month = 6 || month = 9 || month = 11 then 30
  else 31

/-- What follows the date at the front of a text. -/
def date? (s : Text) : Option Text := do
  let (year, s) ← digitsAt? 4 s
  let s ← char? '-' s
  let (month, s) ← twoDigits? 1 12 s
  let s ← char? '-' s
  let (_, s) ← twoDigits? 1 (daysIn year month) s
  return s

/-- What follows the fraction of a second, which may be left out but not be empty. -/
def fraction? : Text → Option Text
  | '.' :: s => if s.head?.any Char.isDigit then some (s.dropWhile Char.isDigit) else none
  | s => some s

/-- What follows the time at the front of a text. -/
def time? (s : Text) : Option Text := do
  let (_, s) ← twoDigits? 0 23 s
  let s ← char? ':' s
  let (_, s) ← twoDigits? 0 59 s
  match char? ':' s with
  | some s => do
    let (_, s) ← twoDigits? 0 60 s
    fraction? s
  | none => return s

/-- Is the text a distance from the time of Greenwich? -/
def isOffset : Text → Bool
  | [c] => c == 'Z' || c == 'z'
  | c :: s =>
    (c == '+' || c == '-') &&
      (do let (_, s) ← twoDigits? 0 23 s
          let s ← char? ':' s
          let (_, s) ← twoDigits? 0 59 s
          return s) == some []
  | [] => false

/-- Is the character one that stands between a date and a time? -/
def joinsDateAndTime (c : Char) : Bool := c == 'T' || c == 't' || c == ' '

/-- Is the text a date, a time or both? -/
def isMoment (s : Text) : Bool :=
  match date? s with
  | some [] => true
  | some (c :: s) =>
    joinsDateAndTime c &&
      match time? s with
      | some rest => rest.isEmpty || isOffset rest
      | none => false
  | none => time? s == some []

end MergeMessage.Toml
