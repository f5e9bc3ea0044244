import MergeMessage.Log.Entry
import MergeMessage.Provider.Basic

/-!
# The model on this machine

A runtime on this machine serves a model.  If the model is ready, a session is opened, asked
once and released, whatever the answer is.

## Main definitions

* `Availability` — is the model ready?
* `LocalRuntime` — what a runtime can do.
* `OnDevice.generate` — the provider over a runtime.
* `RuntimeCall`, `LocalRuntime.traced` — the calls of a runtime, and a runtime that records them.
-/

namespace MergeMessage

/-- Is the model on this machine ready? -/
inductive Availability
  /-- No runtime answers. -/
  | unavailable
  /-- The runtime has not got the model yet. -/
  | downloadable
  /-- The model can be asked. -/
  | available
  deriving DecidableEq, Repr

/-- The name of an availability. -/
def Availability.name : Availability → Text
  | .unavailable => "unavailable".toList
  | .downloadable => "downloadable".toList
  | .available => "available".toList

/-- What a runtime can do.  Each of its answers may differ from call to call. -/
structure LocalRuntime (m : Type → Type) where
  /-- Is the model ready? -/
  availability : m Availability
  /-- Opens a session. -/
  openSession : m (Except Failure Unit)
  /-- Asks the open session. -/
  prompt : Text → m (Except Failure Text)
  /-- Gives the open session back. -/
  release : m Unit

namespace OnDevice

section

variable {m : Type → Type} [Monad m]

/-- What an answer leads to. -/
def generatedOf : Except Failure Text → Generated
  | .ok reply => .ok (some (Text.trim reply))
  | .error failure => .error (.requestFailed failure.chain)

/-- The answer of a runtime's model to a prompt, or nothing if the model is not ready. -/
def generate (note : Reporter m) (runtime : LocalRuntime m) : Provider m := fun prompt => do
  let availability ← runtime.availability
  if availability = .available then
    match ← runtime.openSession with
    | .error failure => return .error (.requestFailed failure.chain)
    | .ok () =>
      let reply ← runtime.prompt prompt
      runtime.release
      return generatedOf reply
  else
    note ⟨.info, .onDevice,
      "On-device model is ".toList ++ availability.name ++ "; skipping".toList⟩
    return .ok none

end

end OnDevice

/-! ### Recorded calls -/

/-- A call of a runtime. -/
inductive RuntimeCall
  /-- The question whether the model is ready. -/
  | availability
  /-- The opening of a session. -/
  | openSession
  /-- A prompt. -/
  | prompt (text : Text)
  /-- The release of the session. -/
  | release
  deriving DecidableEq, Repr

/-- The runtime that records every call, the last one first, before it passes it on. -/
def LocalRuntime.traced {m : Type → Type} [Monad m] (runtime : LocalRuntime m) :
    LocalRuntime (StateT (List RuntimeCall) m) where
  availability := do modify (.availability :: ·); runtime.availability
  openSession := do modify (.openSession :: ·); runtime.openSession
  prompt text := do modify (.prompt text :: ·); runtime.prompt text
  release := do modify (.release :: ·); runtime.release

end MergeMessage
