import MergeMessage.Http.Basic
import MergeMessage.Text.Hex

/-!
# Requests and replies as octets

On its way through the network a request is a line with its kind and path, some lines with what
else belongs to it, an empty line, and the JSON value that is posted.  A reply starts with a line
that holds its status; how long its body is, the lines after it say.

## Main definitions

* `Http.Wire.octetsOf` — the octets of a request.
* `Http.Wire.Head`, `Http.Wire.head?` — the lines at the start of a reply.
* `Http.Wire.Body`, `Http.Wire.body?` — what comes after them, as far as it came.
* `Http.Wire.reply?` — the reply that octets hold.
-/

namespace MergeMessage.Http.Wire

/-! ### Requests -/

/-- The host of an address and its port, if it is not the usual one. -/
def hostAndPort (u : Url) : Text :=
  u.host.getD [] ++ (u.port.map fun n => ':' :: Text.ofNat n).getD []

/-- What is asked for at the host of an address. -/
def target (u : Url) : Text := u.path ++ (u.query.map ('?' :: ·)).getD []

/-- A line of a request. -/
def line (s : Text) : Text := s ++ ['\r', '\n']

/-- The lines about what is posted. -/
def bodyLines (body : Octets) : Text :=
  line "content-type: application/json".toList ++
    line ("content-length: ".toList ++ Text.ofNat body.length)

/-- The octets of a request to an address.  The connection is used for it alone. -/
def octetsOf (u : Url) (request : Request) : Octets :=
  let body := request.body.map fun j => Text.octets j.render
  let first := (if body.isSome then "POST " else "GET ").toList ++ target u ++ " HTTP/1.1".toList
  let key := (request.key.map fun key => line ("authorization: Bearer ".toList ++ key)).getD []
  let head := line first ++ line ("host: ".toList ++ hostAndPort u) ++
    line "accept: */*".toList ++ line "connection: close".toList ++ key ++
    (body.map bodyLines).getD [] ++ line []
  Text.octets head ++ body.getD []

/-! ### The lines at the start of a reply -/

/-- The octets up to the first line feed, without a carriage return before it, and those after
it. -/
def line? : Octets → Option (Octets × Octets)
  | [] => none
  | 0x0A :: s => some ([], s)
  | 0x0D :: 0x0A :: s => some ([], s)
  | b :: s => (line? s).map fun (before, after) => (b :: before, after)

/-- The lines up to the first empty one, and what follows it; `fuel` bounds their number. -/
def linesWithin? : (fuel : Nat) → Octets → Option (List Octets × Octets)
  | 0, _ => none
  | fuel + 1, s =>
    match line? s with
    | none => none
    | some ([], rest) => some ([], rest)
    | some (first, rest) =>
      (linesWithin? fuel rest).map fun (lines, rest) => (first :: lines, rest)

/-- The start of a reply. -/
structure Head where
  /-- The status. -/
  status : Nat
  /-- The names, in small letters, and values of what else is said. -/
  fields : List (Text × Text)
  deriving DecidableEq, Repr

/-- The number that decimal digits stand for, if there are no other characters. -/
def number? (s : Text) : Option Nat :=
  if !s.isEmpty && s.all Char.isDigit then
    some (s.foldl (fun n c => n * 10 + (c.toNat - 48)) 0)
  else none

/-- The status in the first line of a reply. -/
def status? (s : Text) : Option Nat :=
  match Text.splitOnce? s [' '] with
  | some (version, rest) =>
    if version.startsWith "HTTP/1.".toList then number? (rest.takeWhile (· ≠ ' ')) else none
  | none => none

/-- Does the character stand around values without being part of them? -/
def isPadding (c : Char) : Bool := c == ' ' || c == '\t'

/-- The name and the value in a line after the first. -/
def field? (s : Text) : Option (Text × Text) :=
  (Text.splitOnce? s [':']).map fun (name, value) =>
    (name.map Char.toLower, Text.trimBy isPadding value)

/-- The start of a reply, and what follows it. -/
def head? (s : Octets) : Option (Head × Octets) :=
  match linesWithin? (s.length + 1) s with
  | some (first :: lines, rest) =>
    (status? first.lossyText).map fun status =>
      (⟨status, lines.filterMap fun line => field? line.lossyText⟩, rest)
  | _ => none

/-- The value with a name. -/
def Head.value? (head : Head) (name : String) : Option Text := head.fields.lookup name.toList

/-! ### Bodies -/

/-- A body as far as it came. -/
structure Body where
  /-- Its octets. -/
  octets : Octets
  /-- Did all of it come? -/
  whole : Bool
  deriving DecidableEq, Repr

/-- The body in chunks, each of which has its length in front of it; `fuel` bounds their
number. -/
def chunksWithin : (fuel : Nat) → Octets → Body
  | 0, _ => ⟨[], false⟩
  | fuel + 1, s =>
    match line? s with
    | none => ⟨[], false⟩
    | some (first, rest) =>
      let size := Text.trimBy isPadding (first.lossyText.takeWhile (· ≠ ';'))
      match if size.isEmpty then none else hexNumber? size with
      | none => ⟨[], false⟩
      | some 0 => ⟨[], true⟩
      | some n =>
        match line? (rest.drop n) with
        | some ([], after) =>
          let body := chunksWithin fuel after
          { body with octets := rest.take n ++ body.octets }
        | _ => ⟨rest.take n, false⟩

/-- The body of a reply: it comes in chunks, has a length, or goes on until the end. -/
def body? (head : Head) (s : Octets) : Option Body :=
  match head.value? "transfer-encoding", head.value? "content-length" with
  | some _, _ => some (chunksWithin (s.length + 1) s)
  | none, some length => (number? length).map fun n => ⟨s.take n, n ≤ s.length⟩
  | none, none => some ⟨s, true⟩

/-- Why a body is not whole. -/
def lossMessage : Text := "error decoding response body".toList

/-- The reply with a status and a body. -/
def Body.reply (status : Nat) (body : Body) : Reply :=
  { status, body := body.octets, lost := if body.whole then none else some lossMessage }

/-- Does the status announce another reply? -/
def isPreliminary (status : Nat) : Bool := 100 ≤ status && status < 200

/-- The reply after some preliminary ones, of which `fuel` bounds the number. -/
def replyWithin? : (fuel : Nat) → Octets → Option Reply
  | 0, _ => none
  | fuel + 1, s =>
    match head? s with
    | none => none
    | some (head, rest) =>
      if isPreliminary head.status then replyWithin? fuel rest
      else (body? head rest).map (Body.reply head.status)

/-- The reply that the octets of a connection hold. -/
def reply? (s : Octets) : Option Reply := replyWithin? (s.length + 1) s

@[simp] theorem line?_nil : line? [] = none := rfl

end MergeMessage.Http.Wire
