import MergeMessage.Commit.Reply
import MergeMessage.Provider.Prompt
import MergeMessage.Provider.Remote
import MergeMessage.PullRequest.Context
import MergeMessage.Settings

/-!
# Generating a message

What is known of a pull request is put into a prompt, the chosen provider answers it, and the
commit message in the answer is tidied.  There is no second provider: if the chosen one fails,
so does the request.

## Main definitions

* `Request` — what a message is asked for with; `Request.assemble`.
* `Backends` — the providers that can be chosen.
* `dispatch` — the answer of the chosen provider.
* `generate`, `ping` — a message, and any answer at all.
-/

namespace MergeMessage

/-- What a message is asked for with. -/
structure Request where
  /-- The author's notes. -/
  notes : Text
  /-- The title of the pull request. -/
  title : Text
  /-- The description of the pull request. -/
  description : Text
  /-- The ticket of the pull request. -/
  ticket : Option Ticket
  deriving DecidableEq, Repr

namespace Request

/-- The request for the pull request that is viewed.  If no view links to a ticket, the name of
the branch may speak of one. -/
def assemble (notes title : Text) (context : PullRequest.Context) (branch : Text) : Request :=
  { notes
    title
    description := context.description.getD []
    ticket := context.ticket.or (Ticket.ofText? branch) }

/-- The prompt of a request. -/
def prompt (r : Request) : Text :=
  buildPrompt r.notes r.title r.description (r.ticket.map Ticket.title)

end Request

section

variable {m : Type → Type} [Monad m]

/-- The providers that can be chosen. -/
structure Backends (m : Type → Type) where
  /-- The model on this machine. -/
  onDevice : Provider m
  /-- The way to the remote service. -/
  post : Transport m

/-- A blank answer of the model on this machine counts as the model not being ready. -/
def refuseBlank : Generated → Generated
  | .error e => .error e
  | .ok none => .error .providerUnavailable
  | .ok (some reply) =>
    if Text.isAllBlank reply then .error .providerUnavailable else .ok (some reply)

/-- The answer of the chosen provider to a prompt. -/
def dispatch (note : Reporter m) (settings : Settings) (backends : Backends m) : Provider m :=
  fun prompt =>
    match settings.choice with
    | .onDevice => return refuseBlank (← backends.onDevice prompt)
    | .remote =>
      match settings.apiKey with
      | none => return .error .missingCredential
      | some key =>
        Remote.generate note backends.post ⟨key, settings.model, settings.apiBase⟩ prompt

/-- A message for a request, or nothing if the answer is blank. -/
def generate (note : Reporter m) (settings : Settings) (backends : Backends m)
    (request : Request) : m Generated := do
  note ⟨.info, .generation,
    "Generating with the ".toList ++ settings.choice.name ++ " provider".toList⟩
  note ⟨.debug, .generation,
    "Generation prompt:\n".toList ++ Text.excerpt 3000 request.prompt⟩
  match ← dispatch note settings backends request.prompt with
  | .error e => return .error e
  | .ok none => return .ok none
  | .ok (some reply) =>
    if Text.isAllBlank reply then
      note ⟨.warn, .generation, "Provider returned an empty message".toList⟩
      return .ok none
    else
      note ⟨.debug, .generation, "Raw model output: ".toList ++ Text.quoted reply⟩
      return .ok (some (Commit.messageOfReply reply (request.ticket.map Ticket.id)))

/-- Any answer of the chosen provider. -/
def ping (note : Reporter m) (settings : Settings) (backends : Backends m) : m Generated :=
  dispatch note settings backends pingPrompt

end

end MergeMessage
