import MergeMessage.Text.Hex
import MergeMessage.Toml.Basic
import MergeMessage.Toml.Moment

/-!
# Numbers, truth values and dates in settings files

A value without quotes is a word.  Single underscores may stand between the digits of a number;
a whole number may be written with the digits of base 16, 8 or 2.

## Main definitions

* `Toml.integer?` — the whole number that a word stands for.
* `Toml.isFloat` — is the word another number?
* `Toml.Scalar.ofWord?` — the value that a word stands for.
* `Toml.word` — the word at the front of a text.
-/

namespace MergeMessage.Toml

/-! ### Digits -/

/-- The digits of a word in which single underscores may stand between two digits. -/
def digits? (isDigit : Char → Bool) (s : Text) : Option Text :=
  let groups := Text.pieces '_' s
  if groups.all fun group => !group.isEmpty && group.all isDigit then some groups.flatten else none

/-- Is the character a digit of this base? -/
def isDigitOf (base : Nat) (c : Char) : Bool := (hexDigit? c).any (· < base)

/-- The number that digits of a base stand for. -/
def valueOf (base : Nat) (digits : Text) : Nat :=
  digits.foldl (fun n c => n * base + (hexDigit? c).getD 0) 0

/-- The number that the digits of a word stand for. -/
def natural? (base : Nat) (s : Text) : Option Nat :=
  (digits? (isDigitOf base) s).map (valueOf base)

/-- The decimal digits of a word; more than one of them must not start with a zero. -/
def plainDigits? (s : Text) : Option Text :=
  match digits? Char.isDigit s with
  | some ('0' :: _ :: _) => none
  | r => r

/-- The sign at the front of a word, and the rest. -/
def sign : Text → Option Char × Text
  | '+' :: s => (some '+', s)
  | '-' :: s => (some '-', s)
  | s => (none, s)

/-! ### Whole numbers -/

/-- The whole number that a word stands for, of any size. -/
def wholeNumber? (s : Text) : Option Int :=
  match s with
  | '0' :: 'x' :: s => (natural? 16 s).map Int.ofNat
  | '0' :: 'o' :: s => (natural? 8 s).map Int.ofNat
  | '0' :: 'b' :: s => (natural? 2 s).map Int.ofNat
  | s =>
    match sign s with
    | (some '-', s) => (plainDigits? s).map fun digits => -(Int.ofNat (valueOf 10 digits))
    | (_, s) => (plainDigits? s).map fun digits => Int.ofNat (valueOf 10 digits)

/-- The whole number that a word stands for, if 128 bits hold it with a sign or without. -/
def integer? (s : Text) : Option Int :=
  match wholeNumber? s with
  | some n => if -(Int.pow 2 127) ≤ n && n < Int.pow 2 128 then some n else none
  | none => none

/-! ### Other numbers -/

/-- The digits after the point of a number without an exponent; there may be no point. -/
structure Mantissa where
  /-- The digits before the point. -/
  whole : Text
  /-- The digits after the point, if there is one. -/
  fraction : Option Text
  deriving DecidableEq, Repr

/-- The mantissa that a word stands for. -/
def mantissa? (s : Text) : Option Mantissa :=
  match Text.splitOnce? s ['.'] with
  | none => do return ⟨← plainDigits? s, none⟩
  | some (whole, fraction) => do
    return ⟨← plainDigits? whole, some (← digits? Char.isDigit fraction)⟩

/-- The exponent that a word stands for. -/
def exponent? (s : Text) : Option Int :=
  match sign s with
  | (some '-', s) => (digits? Char.isDigit s).map fun digits => -(Int.ofNat (valueOf 10 digits))
  | (_, s) => (digits? Char.isDigit s).map fun digits => Int.ofNat (valueOf 10 digits)

/-- The least number that is rounded up to infinity in 64 bits. -/
def floatBound : Nat := Nat.pow 2 1024 - Nat.pow 2 970

/-- Is a number of these digits, times a power of ten, too large for 64 bits? -/
def overflows (digits : Text) (power : Int) : Bool :=
  let digits := digits.dropWhile (· == '0')
  let places := Int.ofNat digits.length + power
  if digits.isEmpty || places ≤ 308 then false
  else if 310 < places then true
  else if 0 ≤ power then floatBound ≤ valueOf 10 digits * Nat.pow 10 power.toNat
  else floatBound * Nat.pow 10 (-power).toNat ≤ valueOf 10 digits

/-- Is the word without a sign a number with a fraction or an exponent? -/
def isUnsignedFloat (s : Text) : Bool :=
  let isE (c : Char) : Bool := c == 'e' || c == 'E'
  match s.takeWhile (!isE ·), s.dropWhile (!isE ·) with
  | s, [] =>
    match mantissa? s with
    | some ⟨whole, some fraction⟩ => !overflows (whole ++ fraction) (-(Int.ofNat fraction.length))
    | _ => false
  | s, _ :: e =>
    match mantissa? s, exponent? e with
    | some ⟨whole, fraction⟩, some e =>
      let fraction := fraction.getD []
      !overflows (whole ++ fraction) (e - Int.ofNat fraction.length)
    | _, _ => false

/-- Is the word a number with a fraction or an exponent, or one of the two words for what is no
finite number? -/
def isFloat (s : Text) : Bool :=
  let s := (sign s).2
  s = "inf".toList || s = "nan".toList || isUnsignedFloat s

/-! ### Words -/

/-- The value that a word stands for. -/
def Scalar.ofWord? (s : Text) : Option Scalar :=
  if s = "true".toList then some (.boolean true)
  else if s = "false".toList then some (.boolean false)
  else if isMoment s then some (.moment s)
  else
    match integer? s with
    | some n => some (.integer n)
    | none => if isFloat s then some (.float s) else none

/-- Is the character one that ends a word? -/
def endsWord (c : Char) : Bool :=
  isBlank c || "\r\n#,=[]\x7b\x7d'\"".toList.contains c

/-- The word at the front of a text, and the rest.  A date and a time that follows it after a
space are one word. -/
def word (s : Text) : Text × Text :=
  let first := s.takeWhile (!endsWord ·)
  match s.dropWhile (!endsWord ·) with
  | ' ' :: c :: rest =>
    if date? first = some [] && c.isDigit then
      (first ++ ' ' :: (c :: rest).takeWhile (!endsWord ·), (c :: rest).dropWhile (!endsWord ·))
    else (first, ' ' :: c :: rest)
  | rest => (first, rest)

end MergeMessage.Toml
