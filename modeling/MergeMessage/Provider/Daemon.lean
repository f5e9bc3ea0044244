import MergeMessage.Http.Basic
import MergeMessage.Provider.OnDevice
import MergeMessage.Provider.Pull
import MergeMessage.Text.Excerpt
import MergeMessage.Text.Quoted

/-!
# The daemon on this machine

Ollama is a daemon that runs models on this machine and is asked over the web protocol.  It lists
the models that are installed, downloads one that is not, completes chats, and unloads a model
that is to be kept alive for no time.

## Main definitions

* `Daemon` — a daemon and the model that it is to serve.
* `Daemon.Fault` — why a request to it failed; `Daemon.Fault.message`.
* `Daemon.availability` — is the model ready?
* `Daemon.download` — the download of the model.
* `Daemon.runtime` — the daemon as a runtime for the model.
-/

namespace MergeMessage

/-- A daemon and the model that it is to serve. -/
structure Daemon where
  /-- The base address, without slashes at its end. -/
  base : Text
  /-- The model. -/
  model : Text
  deriving DecidableEq, Repr

namespace Daemon

/-- The daemon at an address, which may have slashes at its end. -/
def ofAddress (address model : Text) : Daemon := ⟨Text.dropEndWhile (· == '/') address, model⟩

/-- The address of a service of the daemon. -/
def service (d : Daemon) (path : String) : Text := d.base ++ path.toList

/-! ### Requests -/

/-- Why a request failed. -/
inductive Fault
  /-- There was no reply from this address. -/
  | noReply (address : Text) (error : Http.SendError)
  /-- The request to this address was refused. -/
  | refused (address : Text) (reason : Text)
  /-- The reply broke off. -/
  | brokenOff (reason : Text)
  /-- The reply is not what was asked for. -/
  | undecodable
  deriving DecidableEq, Repr

/-- What the user is told. -/
def Fault.message : Fault → Text
  | .noReply address e =>
    "Error calling Ollama at ".toList ++ address ++ ": ".toList ++ e.message
  | .refused address reason =>
    "Ollama HTTP error from ".toList ++ address ++ ": ".toList ++ reason
  | .brokenOff reason => "Failed to read Ollama response body: ".toList ++ reason
  | .undecodable => "Failed to decode Ollama JSON: not a reply".toList

/-- The request for the list of installed models. -/
def tagsRequest (d : Daemon) : Http.Request := { address := d.service "/api/tags" }

/-- The request for the download of the model, with its progress bit by bit. -/
def pullRequest (d : Daemon) : Http.Request :=
  { address := d.service "/api/pull"
    body := some (.ofMembers [("model", .text d.model), ("stream", .bool true)]) }

/-- The request for the answer to a prompt. -/
def chatRequest (d : Daemon) (prompt : Text) : Http.Request :=
  { address := d.service "/api/chat"
    body := some (.ofMembers [("model", .text d.model), ("stream", .bool false),
      ("messages", .array [
        .ofMembers [("role", .text "user".toList), ("content", .text prompt)]])]) }

/-- The request to unload the model at once. -/
def unloadRequest (d : Daemon) : Http.Request :=
  { address := d.service "/api/generate"
    body := some (.ofMembers [("model", .text d.model), ("keep_alive", .nat 0)]) }

section

variable {m : Type → Type} [Monad m]

/-- The reply to a request, unless it is a refusal. -/
def ask (network : Http.Network m) (request : Http.Request) : m (Except Fault Http.Reply) := do
  match ← Http.send network request with
  | .error e => return .error (.noReply request.address e)
  | .ok (address, reply) =>
    match Http.failureOfStatus? address reply.status with
    | some reason => return .error (.refused request.address reason)
    | none => return .ok reply

/-- The text of a reply that was no refusal. -/
def textOf (reply : Http.Reply) : Except Fault Text := reply.text.mapError .brokenOff

/-- The text of the reply to a request. -/
def fetch (network : Http.Network m) (request : Http.Request) : m (Except Fault Text) :=
  return (← ask network request).bind textOf

/-! ### Replies -/

/-- The value of a member that must be there. -/
def member? {α : Type} (name : String) (read : Json → Option α)
    (members : List (Option Text × Json)) : Option α :=
  (Json.lastMember? name read members).join

/-- The members of an object. -/
def members? : Json → Option (List (Option Text × Json))
  | .object members => some members
  | _ => none

/-- The name of an installed model. -/
def modelName? (j : Json) : Option Text := (members? j).bind (member? "name" Json.text?)

/-- The names of the installed models in a list of them. -/
def modelNames? (s : Text) : Option (List Text) :=
  (Json.ofLoose? s).bind (member? "models" fun j => j.items.bind (·.mapM modelName?))

/-- The answer in the reply to a chat. -/
def chatContent? (s : Text) : Option Text :=
  (Json.ofLoose? s).bind
    (member? "message" fun j => (members? j).bind (member? "content" Json.text?))

/-! ### The model -/

/-- The installed models. -/
def installedModels (network : Http.Network m) (d : Daemon) : m (Except Fault (List Text)) := do
  match ← fetch network (tagsRequest d) with
  | .error fault => return .error fault
  | .ok reply =>
    match modelNames? reply with
    | some names => return .ok names
    | none => return .error .undecodable

/-- Is the model ready?  No runtime answers if the installed models cannot be listed. -/
def availability (note : Reporter m) (network : Http.Network m) (d : Daemon) :
    m Availability := do
  match ← installedModels network d with
  | .error fault =>
    note ⟨.debug, .onDevice, "Ollama not reachable: ".toList ++ fault.message⟩
    return .unavailable
  | .ok names =>
    if names.any (modelMatches d.model) then return .available
    else
      note ⟨.debug, .onDevice,
        d.model ++ " not among installed models ".toList ++ Text.quotedList names⟩
      return .downloadable

/-- Why a download failed. -/
inductive DownloadError
  /-- It did not start. -/
  | fault (fault : Fault)
  /-- A line ended it. -/
  | stream (error : StreamError PullError)
  /-- The reply broke off. -/
  | lost (reason : Text)
  deriving DecidableEq, Repr

/-- What the user is told about the download of a model. -/
def DownloadError.message (model : Text) : DownloadError → Text
  | .fault f => f.message
  | .stream error => PullError.message model error
  | .lost reason => reason

/-- The progress that the reply to a download reports, and whether it came to an end without an
error.  Of a reply that breaks off, no more than the whole lines can be read. -/
def followReply (reply : Http.Reply) : List Progress × Except DownloadError Unit :=
  match reply.lost with
  | none =>
    let (progress, outcome) := followPull reply.body
    (progress, outcome.mapError .stream)
  | some reason =>
    let (progress, outcome) := followPull reply.body.wholeLines
    (progress, outcome.mapError .stream >>= fun _ => .error (.lost reason))

/-- The progress of the download of the model, and whether it came to an end without an
error. -/
def download (note : Reporter m) (network : Http.Network m) (d : Daemon) :
    m (List Progress × Except DownloadError Unit) := do
  let request := pullRequest d
  note ⟨.info, .onDevice, "Pulling ".toList ++ d.model ++ " from ".toList ++ request.address⟩
  match ← ask network request with
  | .error fault => return ([], .error (.fault fault))
  | .ok reply => return followReply reply

/-! ### Sessions -/

/-- The text of the reply to a posted request. -/
def post (note : Reporter m) (network : Http.Network m) (request : Http.Request) :
    m (Except Fault Text) := do
  note ⟨.trace, .onDevice, "Ollama request body: ".toList ++
    Text.excerpt 2000 ((request.body.map Json.render).getD [])⟩
  fetch network request

/-- The answer of the model to a prompt. -/
def chat (note : Reporter m) (network : Http.Network m) (d : Daemon) (prompt : Text) :
    m (Except Fault Text) := do
  note ⟨.info, .onDevice, "Prompting on-device model ".toList ++ Text.quoted d.model⟩
  match ← post note network (chatRequest d prompt) with
  | .error fault => return .error fault
  | .ok reply =>
    note ⟨.trace, .onDevice, "Ollama raw JSON response: ".toList ++ Text.excerpt 2000 reply⟩
    match chatContent? reply with
    | some content => return .ok content
    | none => return .error .undecodable

/-- Unloads the model.  It does not matter much if that fails. -/
def unload (note : Reporter m) (network : Http.Network m) (d : Daemon) : m Unit := do
  match ← post note network (unloadRequest d) with
  | .ok _ => note ⟨.debug, .onDevice, "Released on-device session for ".toList ++ d.model⟩
  | .error fault =>
    note ⟨.warn, .onDevice, "Failed to release on-device session: ".toList ++ fault.message⟩

/-- The daemon as a runtime for the model.  The model is loaded by its first prompt, so nothing
is sent when a session is opened. -/
def runtime (note : Reporter m) (network : Http.Network m) (d : Daemon) : LocalRuntime m where
  availability := availability note network d
  openSession := pure (.ok ())
  prompt text := return (← chat note network d text).mapError fun fault =>
    Failure.ofText fault.message
  release := unload note network d

end

end Daemon

end MergeMessage
