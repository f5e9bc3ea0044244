import MergeMessage.Http.Status
import MergeMessage.Json.Basic
import MergeMessage.Text.Lossy
import MergeMessage.Url.Reader

/-!
# Requests on the web

A request asks for what is at an address, or posts a JSON value to it.  It is sent only if the
address is one of the web and the key can be part of a request; whether an answer comes, and all of
it, is up to the network.

## Main definitions

* `Http.Request`, `Http.Reply` — what is sent, and what comes back.
* `Http.Network` — what answers requests.
* `Http.SendError` — why there is no reply; `Http.SendError.message`.
* `Http.send` — the reply to a request.
-/

namespace MergeMessage.Http

/-- A request. -/
structure Request where
  /-- Where it goes. -/
  address : Text
  /-- The key of the sender. -/
  key : Option Text := none
  /-- What is posted; if nothing is, the request asks for what is there. -/
  body : Option Json := none
  deriving Inhabited

/-- A reply. -/
structure Reply where
  /-- Its status. -/
  status : Nat
  /-- What it holds, as far as it came. -/
  body : Octets
  /-- Why no more of it came, if it broke off. -/
  lost : Option Text := none
  deriving DecidableEq, Repr

/-- The text of a reply, or why it broke off.  Its encoding is told by a mark at its front; the
lines before the body are taken to name no other one than UTF-8. -/
def Reply.text (reply : Reply) : Except Text Text :=
  match reply.lost with
  | some reason => .error reason
  | none => .ok (Octets.markedText reply.body)

/-- What answers requests; some are left without an answer, and some answers break off. -/
abbrev Network (m : Type → Type) := Request → m (Option Reply)

/-- Why there is no reply. -/
inductive SendError
  /-- The request could not be sent, because of this address if there is one. -/
  | unsendable (address : Option Text)
  /-- No answer came from this address. -/
  | unanswered (address : Text)
  deriving DecidableEq, Repr

/-- What the user is told. -/
def SendError.message : SendError → Text
  | .unsendable none => "builder error".toList
  | .unsendable (some address) => "builder error for url (".toList ++ address ++ [')']
  | .unanswered address => "error sending request for url (".toList ++ address ++ [')']

/-- An address without its user name and password, if they stand for texts.  A password that does
not counts as none. -/
def withoutUser (u : Url) : Url :=
  match (Url.percentDecode u.username).text? with
  | none => u
  | some name =>
    let password := u.password.bind fun password => (Url.percentDecode password).text?
    if name.isEmpty && password.isNone then u else { u with username := [], password := none }

/-- An address as it is shown. -/
def shown (u : Url) : Text := (withoutUser u).render

/-- Is the address one of the web? -/
def isWeb (u : Url) : Bool :=
  u.host.isSome && (u.scheme = "http".toList || u.scheme = "https".toList)

/-- Is the character one that the host of a request may hold? -/
def isHostChar (c : Char) : Bool := c.isAlphanum || "!$&'()*+,-.:;=[]_~".toList.contains c

/-- The number of octets that an address may have. -/
def addressLimit : Nat := 65534

/-- Can a request be sent to the address? -/
def isReachable (u : Url) : Bool :=
  isWeb u && u.host.all (·.all isHostChar) && (shown u).length ≤ addressLimit

/-- Can the text be part of a request next to its address?  Line ends and other control
characters cannot. -/
def isHeaderText (s : Text) : Bool := s.all fun c => c == '\t' || (0x20 ≤ c.toNat && c.toNat ≠ 0x7F)

/-- The address of a request, or why it cannot be sent. -/
def destination (request : Request) : Except SendError Url :=
  match Url.parse? request.address with
  | none => .error (.unsendable none)
  | some u =>
    if !isReachable u then .error (.unsendable (some (shown u)))
    else if request.key.all isHeaderText then .ok u
    else .error (.unsendable none)

/-- The reply to a request, with the address that it came from. -/
def send {m : Type → Type} [Monad m] (network : Network m) (request : Request) :
    m (Except SendError (Text × Reply)) := do
  match destination request with
  | .error e => return .error e
  | .ok u =>
    match ← network request with
    | none => return .error (.unanswered (shown u))
    | some reply => return .ok (shown u, reply)

end MergeMessage.Http
