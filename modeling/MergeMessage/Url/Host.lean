import MergeMessage.Text.Composition
import MergeMessage.Url.HostChar
import MergeMessage.Url.Joining
import MergeMessage.Url.Percent
import MergeMessage.Url.Punycode

/-!
# Hosts

The host of a web address is a domain name, an IPv4 address, in whose numbers any of four
bases may be used, an IPv6 address in brackets, or for schemes other than those of the web any
text without separators.

## Main definitions

* `Url.domain?` — the plain form of a domain name.
* `Url.ipv4?`, `Url.ipv6?` — addresses.
* `Url.host?`, `Url.opaqueHost?` — the plain form of a host.
-/

namespace MergeMessage.Url

/-! ### Domain names -/

/-- Is the character one that no domain name may hold? -/
def isForbiddenInDomain (c : Char) : Bool :=
  c.toNat ≤ 0x20 || c.toNat = 0x7F || "%#/:<>?@[\\]^|".toList.contains c

/-- Is every character of a label mapped to itself, the first one no mark, and each joiner in
its place? -/
def isPlainLabel (label : Text) : Bool :=
  label.all (fun c => mapHostChar? c == some [c]) && !label.head?.any isMark
    && joinersStand label

/-- The mark of an encoded label. -/
def encodedMark : Text := "xn--".toList

/-- What a label of mapped characters reads, if it may stand in a domain name. -/
def labelText? (label : Text) : Option Text :=
  match encodedMark.isPrefixOf? label with
  | some rest =>
    match Punycode.decode? rest with
    | some decoded =>
      if decoded.any (·.toNat ≥ 0x80) && isPlainLabel decoded && decoded.composed == decoded
      then some decoded else none
    | none => none
  | none => if label.all (·.toNat < 0x80) || isPlainLabel label then some label else none

/-- The plain form of a label that may stand in a domain name. -/
def encodeLabel (label : Text) : Text :=
  if label.all (·.toNat < 0x80) then label else encodedMark ++ Punycode.encode label

/-- The characters of a domain name, each mapped to its plain form. -/
def mapHostChars? : Text → Option Text
  | [] => some []
  | c :: s => do
    let mapped ← mapHostChar? c
    let rest ← mapHostChars? s
    return mapped ++ rest

/-- The plain form of a domain name. -/
def domain? (s : Text) : Option Text := do
  let mapped := (← mapHostChars? s).composed
  if mapped.any isForbiddenInDomain then none
  else
    let labels := Text.pieces '.' mapped
    let texts ← labels.mapM labelText?
    if labelsKeepDirection texts then return Text.join ['.'] (labels.map encodeLabel) else none

/-! ### IPv4 addresses -/

/-- The value of a text in the digits of a base, if all of them are digits. -/
def digitsValue? (base : Nat) (s : Text) : Option Nat :=
  s.foldlM (fun n c => (hexDigit? c).bind fun d => if d < base then some (n * base + d) else none) 0

/-- The value of a part of an address: hexadecimal after `0x`, octal after `0`, else decimal. -/
def ipv4Number? : Text → Option Nat
  | [] => none
  | '0' :: 'x' :: s => digitsValue? 16 s
  | '0' :: 'X' :: s => digitsValue? 16 s
  | '0' :: c :: s => digitsValue? 8 (c :: s)
  | s => digitsValue? 10 s

/-- The parts of a host between its dots; one dot at the end is left out. -/
def dottedParts (s : Text) : List Text :=
  match (s.pieces '.').reverse with
  | [] :: part :: parts => (part :: parts).reverse
  | parts => parts.reverse

/-- Does the host end in a number, so that it must be an address? -/
def endsInNumber (s : Text) : Bool :=
  match (dottedParts s).getLast? with
  | none => false
  | some part => (!part.isEmpty && part.all Char.isDigit) || (ipv4Number? part).isSome

/-- The value of an address: each part but the last is one octet, the last one all the others. -/
def ipv4Value? : Nat → List Nat → Option Nat
  | _, [] => none
  | octets, [last] => if last < Nat.pow 256 octets then some last else none
  | octets, part :: parts =>
    if part > 255 then none
    else (ipv4Value? (octets - 1) parts).map (part * Nat.pow 256 (octets - 1) + ·)

/-- The usual form of an address. -/
def renderIpv4 (n : Nat) : Text :=
  Text.join ['.'] ([n / Nat.pow 256 3, n / Nat.pow 256 2 % 256, n / 256 % 256, n % 256].map
    Text.ofNat)

/-- The usual form of an IPv4 address. -/
def ipv4? (s : Text) : Option Text :=
  let parts := dottedParts s
  if parts.length > 4 then none
  else do
    let numbers ← parts.mapM ipv4Number?
    let value ← ipv4Value? 4 numbers
    return renderIpv4 value

/-! ### IPv6 addresses -/

/-- The numbers of an IPv4 address at the end of an IPv6 address: four decimal numbers up to
255 without leading zeros. -/
def ipv4Tail? (s : Text) : Option (List Nat) :=
  let parts := s.pieces '.'
  if parts.length ≠ 4 then none
  else parts.mapM fun part =>
    match part with
    | [] => none
    | '0' :: _ :: _ => none
    | part => (if part.length ≤ 3 then digitsValue? 10 part else none).bind fun n =>
      if n > 255 then none else some n

/-- The pieces of an IPv6 address; `gap` is the number of pieces before a double colon, and
`pieces` are those read so far, the last one first. -/
def ipv6Pieces? : Nat → Option Nat → List Nat → Text → Option (Option Nat × List Nat)
  | _, gap, pieces, [] => some (gap, pieces)
  | 0, _, _, _ => none
  | fuel + 1, gap, pieces, c :: s =>
    if pieces.length + (if gap.isSome then 1 else 0) ≥ 8 then none
    else if c = ':' then
      if gap.isSome then none else ipv6Pieces? fuel (some pieces.length) pieces s
    else
      let digits := ((c :: s).take 4).takeWhile isHexDigit
      match digitsValue? 16 digits, (c :: s).drop digits.length with
      | some value, [] => if digits.isEmpty then none else some (gap, value :: pieces)
      | some value, ':' :: rest =>
        if rest.isEmpty then none else ipv6Pieces? fuel gap (value :: pieces) rest
      | some _, '.' :: _ =>
        if digits.isEmpty || pieces.length + (if gap.isSome then 1 else 0) > 6 then none
        else match ipv4Tail? (c :: s) with
          | some [a, b, x, y] => some (gap, (x * 256 + y) :: (a * 256 + b) :: pieces)
          | _ => none
      | _, _ => none

/-- The eight pieces of an IPv6 address without its brackets. -/
def ipv6? (s : Text) : Option (List Nat) :=
  let read := match s with
    | ':' :: ':' :: rest => ipv6Pieces? rest.length (some 0) [] rest
    | ':' :: _ => none
    | s => if s.length < 2 then none else ipv6Pieces? s.length none [] s
  match read with
  | none => none
  | some (some gap, pieces) =>
    let pieces := pieces.reverse
    if pieces.length > 7 then none
    else some (pieces.take gap ++ List.replicate (8 - pieces.length) 0 ++ pieces.drop gap)
  | some (none, pieces) => if pieces.length = 8 then some pieces.reverse else none

/-- The length of the run of zeros that a list starts with. -/
def zeroRun (pieces : List Nat) : Nat := (pieces.takeWhile (· == 0)).length

/-- The start and the length of the first longest run of zeros from the position `at_` on. -/
def longestZeroRun : Nat → List Nat → Nat × Nat
  | at_, [] => (at_, 0)
  | at_, piece :: pieces =>
    let here := zeroRun (piece :: pieces)
    let (start, length) := longestZeroRun (at_ + 1) pieces
    if here ≥ length && here > 0 then (at_, here) else (start, length)

/-- The usual form of an IPv6 address: the longest run of two or more zeros is left out. -/
def renderIpv6 (pieces : List Nat) : Text :=
  let hex := fun ps => Text.join [':'] (ps.map (Nat.toDigits 16))
  let (start, length) := longestZeroRun 0 pieces
  if length < 2 then '[' :: hex pieces ++ [']']
  else '[' :: hex (pieces.take start) ++ ':' :: ':' :: hex (pieces.drop (start + length)) ++ [']']

/-- The host in brackets, if the text is one. -/
def bracketed? (s : Text) : Option (Option Text) :=
  match s with
  | '[' :: rest =>
    if rest.getLast? = some ']' then some ((ipv6? rest.dropLast).map renderIpv6) else some none
  | _ => none

/-! ### Hosts -/

/-- The plain form of a host in an address of the web. -/
def host? (s : Text) : Option Text :=
  match bracketed? s with
  | some address => address
  | none => do
    let decoded ← (percentDecode s).text?
    let domain ← domain? decoded
    if domain.isEmpty then none
    else if endsInNumber domain then ipv4? domain
    else return domain

/-- Is the character one that no host may hold? -/
def isForbiddenInHost (c : Char) : Bool :=
  c.toNat = 0 || "\t\n\r #/:<>?@[\\]^|".toList.contains c

/-- The plain form of a host in an address of another scheme. -/
def opaqueHost? (s : Text) : Option Text :=
  match bracketed? s with
  | some address => address
  | none => if s.any isForbiddenInHost then none else some (percentEncode inControlSet s)

end MergeMessage.Url
