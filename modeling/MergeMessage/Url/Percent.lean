import MergeMessage.Text.Hex
import MergeMessage.Text.Utf8

/-!
# Percent encoding

In a web address, a character that could be mistaken for a part of the address is written as
its octets, each as a percent sign and two hexadecimal digits.  Which characters are, depends
on the part; non-ASCII characters always are.

## Main definitions

* `Url.percentEncode` — a text with the characters of a class encoded.
* `Url.percentDecode` — the octets of a text with its encoded octets put back.
* `Url.inPathSet`, `Url.inQuerySet`, … — the characters that are encoded in each part.
-/

namespace MergeMessage.Url

/-- The hexadecimal digits of an octet, in capitals. -/
def hexOctet (b : UInt8) : Text :=
  (if b < 0x10 then ['0'] else []) ++ (Nat.toDigits 16 b.toNat).map Char.toUpper

/-- The encoded form of a character. -/
def percentEncodeChar (c : Char) : Text :=
  (String.utf8EncodeChar c).flatMap fun b => '%' :: hexOctet b

/-- The text with the characters of the class `encoded` in their encoded form. -/
def percentEncode (encoded : Char → Bool) (s : Text) : Text :=
  s.flatMap fun c => if encoded c then percentEncodeChar c else [c]

/-- The octets of a text, where a percent sign and two hexadecimal digits stand for one. -/
def percentDecode : Text → Octets
  | [] => []
  | '%' :: a :: b :: s =>
    match hexDigit? a, hexDigit? b with
    | some x, some y => UInt8.ofNat (x * 16 + y) :: percentDecode s
    | _, _ => 0x25 :: percentDecode (a :: b :: s)
  | c :: s => String.utf8EncodeChar c ++ percentDecode s
termination_by s => s.length

/-! ### The characters encoded in each part -/

/-- Control characters and what lies beyond ASCII. -/
def inControlSet (c : Char) : Bool := c.toNat < 0x20 || c.toNat ≥ 0x7F

/-- Is the character encoded in fragments? -/
def inFragmentSet (c : Char) : Bool := inControlSet c || " \"<>\x60".toList.contains c

/-- Is the character encoded in queries? -/
def inQuerySet (c : Char) : Bool := inControlSet c || " \"#<>".toList.contains c

/-- Is the character encoded in queries of the schemes of the web? -/
def inSpecialQuerySet (c : Char) : Bool := inQuerySet c || c == '\''

/-- Is the character encoded in paths? -/
def inPathSet (c : Char) : Bool := inFragmentSet c || "#?\x7b\x7d".toList.contains c

/-- Is the character encoded in user names and passwords? -/
def inUserSet (c : Char) : Bool := inPathSet c || "/:;=@[\\]^|".toList.contains c

end MergeMessage.Url
