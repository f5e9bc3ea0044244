import MergeMessage.Http.Basic
import MergeMessage.Provider.Remote

/-!
# The way to the remote service

Requests to the remote service go over the network.  Every reply counts as one, whatever its
status is, if it does not break off.

## Main definitions

* `Remote.transport` — the transport over a network.
-/

namespace MergeMessage.Remote

/-- The transport over a network. -/
def transport {m : Type → Type} [Monad m] (network : Http.Network m) : Transport m :=
  fun address key request => do
    match ← Http.send network { address, key := some key, body := some request.toJson } with
    | .error e => return .error ⟨["failed to send request to OpenAI".toList, e.message]⟩
    | .ok (_, reply) =>
      match reply.text with
      | .error reason => return .error ⟨["failed to read OpenAI response".toList, reason]⟩
      | .ok text => return .ok ⟨reply.status, text⟩

end MergeMessage.Remote
