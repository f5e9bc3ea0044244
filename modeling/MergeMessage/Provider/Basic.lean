import MergeMessage.Text.Blank

/-!
# Providers of messages

A provider is a backend that answers a prompt.  Nothing usable in its answer is not an error
for the provider; it is up to the caller whether it is one.

## Main definitions

* `Failure` — why an operation failed, with the causes behind it.
* `GenerateError` — why no message was generated; `GenerateError.message`.
* `Provider` — a backend.
-/

namespace MergeMessage

/-- Why an operation failed: what failed, and then cause after cause. -/
structure Failure where
  /-- The texts of the failure and of its causes, the outermost first. -/
  causes : List Text
  deriving DecidableEq, Repr

namespace Failure

/-- A failure without a known cause. -/
def ofText (s : Text) : Failure := ⟨[s]⟩

/-- All texts of a failure in one line. -/
def chain (f : Failure) : Text := Text.join [':', ' '] f.causes

end Failure

/-- Why no message was generated. -/
inductive GenerateError
  /-- The model on this machine is not ready. -/
  | providerUnavailable
  /-- There is no key for the remote service. -/
  | missingCredential
  /-- A request to a backend failed. -/
  | requestFailed (reason : Text)
  deriving DecidableEq, Repr

/-- What the user is told. -/
def GenerateError.message : GenerateError → Text
  | .providerUnavailable =>
    "On-device model not available. Run \x60mergebot status\x60 or \x60mergebot pull\x60.".toList
  | .missingCredential => "No OpenAI API key configured.".toList
  | .requestFailed reason => reason

/-- What a request for a text leads to: an error, nothing usable, or a text. -/
abbrev Generated := Except GenerateError (Option Text)

/-- A backend that answers prompts. -/
abbrev Provider (m : Type → Type) := Text → m Generated

/-- Which backend writes the message. -/
inductive ProviderChoice
  /-- The model on this machine. -/
  | onDevice
  /-- The remote service. -/
  | remote
  deriving DecidableEq, Repr

namespace ProviderChoice

/-- The name of a choice. -/
def name : ProviderChoice → Text
  | .onDevice => "on-device".toList
  | .remote => "remote".toList

/-- The choice of this name. -/
def ofName? (s : Text) : Option ProviderChoice :=
  if s = name .onDevice then some .onDevice else if s = name .remote then some .remote else none

@[simp] theorem ofName?_name (choice : ProviderChoice) : ofName? choice.name = some choice := by
  cases choice <;> decide

end ProviderChoice

end MergeMessage
