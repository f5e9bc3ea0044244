import MergeMessage.Text.Basic

/-!
# Texts as octets

Files and streams hold octets, and a text stands in them as UTF-8: one to four octets for a
character, never more than needed, and none for the surrogate code points.

## Main definitions

* `Octets` — a sequence of octets.
* `Octets.text?` — the text that octets stand for, if they are well formed.
* `Text.octetCount` — the number of octets of a text.
-/

namespace MergeMessage

/-- A sequence of octets. -/
abbrev Octets := List UInt8

namespace Octets

/-- Does the octet continue a character? -/
def isContinuation (b : UInt8) : Bool := 0x80 ≤ b && b < 0xC0

/-- The low six bits of a continuation octet. -/
def continuation (b : UInt8) : Nat := b.toNat % 0x40

/-- The character of a two octet sequence. -/
def pair? (a b : UInt8) : Option Char :=
  if 0xC2 ≤ a && a < 0xE0 && isContinuation b then
    some (Char.ofNat ((a.toNat - 0xC0) * 0x40 + continuation b))
  else none

/-- The character of a three octet sequence. -/
def triple? (a b c : UInt8) : Option Char :=
  if 0xE0 ≤ a && a < 0xF0 && isContinuation b && isContinuation c then
    let n := ((a.toNat - 0xE0) * 0x40 + continuation b) * 0x40 + continuation c
    if n < 0x800 || (0xD800 ≤ n && n < 0xE000) then none else some (Char.ofNat n)
  else none

/-- The character of a four octet sequence. -/
def quadruple? (a b c d : UInt8) : Option Char :=
  if 0xF0 ≤ a && a < 0xF5 && isContinuation b && isContinuation c && isContinuation d then
    let n := (((a.toNat - 0xF0) * 0x40 + continuation b) * 0x40 + continuation c) * 0x40 +
      continuation d
    if n < 0x10000 || 0x110000 ≤ n then none else some (Char.ofNat n)
  else none

/-- The text that the octets stand for, or `none` if they are not well formed UTF-8. -/
def text? : Octets → Option Text
  | [] => some []
  | a :: s =>
    if a < 0x80 then (text? s).map (Char.ofNat a.toNat :: ·)
    else match s with
      | [] => none
      | b :: s =>
        match pair? a b with
        | some x => (text? s).map (x :: ·)
        | none =>
          match s with
          | [] => none
          | c :: s =>
            match triple? a b c with
            | some x => (text? s).map (x :: ·)
            | none =>
              match s with
              | [] => none
              | d :: s =>
                match quadruple? a b c d with
                | some x => (text? s).map (x :: ·)
                | none => none

@[simp] theorem text?_nil : text? [] = some [] := rfl

end Octets

namespace Text

/-- The number of octets of a text in UTF-8. -/
def octetCount (s : Text) : Nat := s.foldr (fun c count => c.utf8Size + count) 0

@[simp] theorem octetCount_nil : octetCount [] = 0 := rfl

@[simp] theorem octetCount_cons (c : Char) (s : Text) :
    octetCount (c :: s) = c.utf8Size + octetCount s := rfl

/-- The octets of a text in UTF-8. -/
def octets (s : Text) : Octets := s.flatMap String.utf8EncodeChar

end Text

end MergeMessage
