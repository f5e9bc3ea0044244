import MergeMessage.Json.Record
import MergeMessage.Log.Entry
import MergeMessage.Provider.Basic
import MergeMessage.Text.Excerpt
import MergeMessage.Text.Quoted

/-!
# The remote service

The remote service completes chats.  A request has one message of the user, the prompt; of the
reply, the first choice counts.  If the service refuses a request, its own words are reported.

## Main definitions

* `ChatRequest`, `ChatReply` — what is sent, and what comes back.
* `Transport` — a way to send a request.
* `Remote.endpoint` — where requests go.
* `Remote.interpret` — what a reply means.
* `Remote.generate` — the provider over a transport.
-/

namespace MergeMessage

/-- A request to complete a chat of one message. -/
structure ChatRequest where
  /-- The model that completes it. -/
  model : Text
  /-- The message. -/
  prompt : Text
  deriving DecidableEq, Repr

/-- The JSON value of a request.  Little variation is asked for, and a short completion. -/
def ChatRequest.toJson (r : ChatRequest) : Json :=
  .ofMembers [
    ("model", .text r.model),
    ("messages", .array [.ofMembers [("role", .text "user".toList), ("content", .text r.prompt)]]),
    ("temperature", .number "0.3".toList),
    ("max_tokens", .nat 100)]

/-- A reply of the service. -/
structure ChatReply where
  /-- The status of the reply. -/
  status : Nat
  /-- The text of the reply. -/
  body : Text
  deriving DecidableEq, Repr

/-- A way to send a request to an address, with a key. -/
abbrev Transport (m : Type → Type) :=
  (address key : Text) → ChatRequest → m (Except Failure ChatReply)

namespace Remote

/-! ### Addresses -/

/-- The end of a base address that names a version of the service. -/
def versionPart : Text := "/v1".toList

/-- The address that requests go to, for a base address with or without a version at its end. -/
def endpoint (base : Text) : Text :=
  let base := Text.dropEndWhile (· == '/') base
  if base.endsWith versionPart then base ++ "/chat/completions".toList
  else base ++ "/v1/chat/completions".toList

/-! ### Replies -/

/-- How many tokens a request took. -/
structure Usage where
  /-- Those of the prompt. -/
  prompt : Nat
  /-- Those of the completion. -/
  completion : Nat
  /-- All of them. -/
  total : Nat
  deriving DecidableEq, Repr

/-- What a completed chat holds. -/
structure Completion where
  /-- The contents of the choices. -/
  choices : List (Option Text)
  /-- How many tokens it took. -/
  usage : Option Usage
  deriving DecidableEq, Repr

/-- The slots of a record with these fields. -/
def slots? (keys : List String) (j : Json) : Option (List Json.Slot) :=
  j.record? (keys.map String.toList)

/-- The content of a choice. -/
def choice? (j : Json) : Option (Option Text) := do
  match ← slots? ["message"] j with
  | [message] =>
    message.required? fun j => do
      match ← slots? ["content"] j with
      | [content] => content.optional? Json.text?
      | _ => none
  | _ => none

/-- The number of tokens that a value stands for: a whole number of 32 bits. -/
def tokens? (j : Json) : Option Nat := j.natBelow? (Nat.pow 2 32)

/-- The usage that a value stands for. -/
def usage? (j : Json) : Option Usage := do
  match ← slots? ["prompt_tokens", "completion_tokens", "total_tokens"] j with
  | [prompt, completion, total] =>
    return {
      prompt := ← prompt.required? tokens?
      completion := ← completion.required? tokens?
      total := ← total.required? tokens? }
  | _ => none

/-- The completed chat that a value stands for. -/
def completion? (j : Json) : Option Completion := do
  match ← slots? ["choices", "usage"] j with
  | [choices, usage] =>
    return {
      choices := ← choices.defaulted? (fun j => do (← j.items).mapM choice?) []
      usage := ← usage.optional? usage? }
  | _ => none

/-- The words of the service in the body of a refusal. -/
def errorText? (j : Json) : Option (Option Text) := do
  match ← slots? ["error"] j with
  | [error] =>
    let text ← error.optional? fun j => do
      match ← slots? ["message"] j with
      | [message] => message.optional? Json.text?
      | _ => none
    return text.join
  | _ => none

/-- What a refusal is reported as: the words of the service if there are any, else its status. -/
def refusal (reply : ChatReply) : Text :=
  match ((Json.ofStrict? reply.body).bind errorText?).join.bind Text.nonBlank? with
  | some text => text
  | none => "OpenAI API error: ".toList ++ Text.ofNat reply.status

/-- Is the status one of success? -/
def isSuccess (status : Nat) : Bool := 200 ≤ status && status < 300

/-- The text of a completion: the content of its first choice, unless that is blank. -/
def Completion.text? (completion : Completion) : Option Text :=
  match completion.choices.head?.join with
  | some content => (Text.nonBlank? content).map Text.trim
  | none => none

/-- What a reply means, and how many tokens it took. -/
def interpret (reply : ChatReply) : Generated × Option Usage :=
  if isSuccess reply.status then
    match (Json.ofStrict? reply.body).bind completion? with
    | some completion => (.ok completion.text?, completion.usage)
    | none =>
      (.error (.requestFailed "failed to parse OpenAI response: not a completion".toList), none)
  else (.error (.requestFailed (refusal reply)), none)

/-- What is noted about the tokens of a request. -/
def usageNote (usage : Usage) : LogEntry :=
  ⟨.info, .remote, "Token usage: prompt=".toList ++ Text.ofNat usage.prompt ++
    ", completion=".toList ++ Text.ofNat usage.completion ++ ", total=".toList ++
    Text.ofNat usage.total⟩

/-! ### The provider -/

/-- Where and how the service is asked. -/
structure Access where
  /-- The key. -/
  key : Text
  /-- The model. -/
  model : Text
  /-- The base address. -/
  base : Text
  deriving DecidableEq, Repr

/-- The completion of a prompt by the service. -/
def generate {m : Type → Type} [Monad m] (note : Reporter m) (post : Transport m)
    (access : Access) : Provider m := fun prompt => do
  note ⟨.info, .remote, "Calling OpenAI model ".toList ++ Text.quoted access.model⟩
  match ← post (endpoint access.base) access.key ⟨access.model, prompt⟩ with
  | .error failure => return .error (.requestFailed failure.chain)
  | .ok reply =>
    note ⟨.trace, .remote, "OpenAI raw response: ".toList ++ Text.excerpt 2000 reply.body⟩
    let (generated, usage) := interpret reply
    match usage with
    | some usage => note (usageNote usage)
    | none => pure ()
    return generated

end Remote

end MergeMessage
