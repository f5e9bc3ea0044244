import MergeMessage.Generation
import MergeMessage.Program.Lint
import MergeMessage.Program.Load
import MergeMessage.Program.Repository
import MergeMessage.Provider.Daemon
import MergeMessage.Provider.RemoteTransport

/-!
# The command that generates

The views of a page are taken in their order; what is given on the command line wins over what
they show.  The message that is generated is shown with the verdict on it, and kept for the next
commit if the user wants that.

## Main definitions

* `backendsOf` — the providers that the settings describe.
* `requestOf` — what a message is asked for with.
* `previewText` — a message as it is shown.
* `runGenerate` — the command.
-/

namespace MergeMessage

open Terminal

/-- The runtime on this machine that the settings describe. -/
def daemonOf (settings : Settings) : Daemon :=
  .ofAddress settings.localAddress settings.localModel

/-- What is noted about the runtime on this machine. -/
def runtimeNote (settings : Settings) : LogEntry :=
  ⟨.debug, .setup, "Using Ollama at ".toList ++ settings.localAddress ++ " with model ".toList ++
    settings.localModel⟩

/-- What is noted about the providers. -/
def providerNote (settings : Settings) : LogEntry :=
  ⟨.debug, .setup, "Provider ".toList ++ settings.choice.name ++ " (remote model: ".toList ++
    settings.model ++ [')']⟩

variable {m : Type → Type} [Monad m]

/-- The providers that the settings describe. -/
def backendsOf (world : World m) (note : Reporter m) (settings : Settings) : Backends m :=
  { onDevice := OnDevice.generate note (Daemon.runtime note world.network (daemonOf settings))
    post := Remote.transport world.network }

/-- The title to generate for. -/
def titleOf (options : GenerateOptions) (learned : Learned) : Text :=
  (options.title.or (learned.last.map (·.title))).getD []

/-- The branch that is given on the command line or on the page. -/
def knownBranch? (options : GenerateOptions) (learned : Learned) : Option Text :=
  options.branch.or ((learned.last.map (·.branch)).filter (!·.isEmpty))

/-- The branch to generate for; the repository is asked only if nothing else says it. -/
def branchOf (world : World m) (note : Reporter m) (options : GenerateOptions)
    (learned : Learned) : m Text := do
  match knownBranch? options learned with
  | some branch => return branch
  | none => return (← Repository.currentBranch note world).getD []

/-- What a message is asked for with. -/
def requestOf (options : GenerateOptions) (learned : Learned) (branch : Text) : Request :=
  let request := Request.assemble options.notes (titleOf options learned) learned.context branch
  { request with description := options.description.getD request.description }

/-- What is noted about a request. -/
def requestNote (request : Request) (branch : Text) : LogEntry :=
  ⟨.info, .command, "Generate context: title=".toList ++ Text.quoted request.title ++
    " branch=".toList ++ Text.quoted branch ++ " ticket=".toList ++
    Text.quotedOption (request.ticket.map Ticket.id) ++ " description=".toList ++
    Text.ofNat (Text.octetCount request.description) ++ " chars, notes=".toList ++
    Text.ofNat (Text.octetCount request.notes) ++ " chars".toList⟩

/-- A message as it is shown. -/
def previewText (message : Text) : Text :=
  "----- Commit Message Preview -----\n".toList ++ message ++
    "\n----------------------------------\n".toList

/-- Shows a message with the verdict on it, and keeps it if the user wants that. -/
def presentMessage (world : World m) (keep : Bool) (title message : Text) : m Outcome := do
  world.print (previewText message)
  world.print (verdictText (isColoured world.environment) (Commit.lint message (some title)))
  if keep then
    match ← Repository.keepMessage world message with
    | .error failure => return .error failure
    | .ok path =>
      world.print ("Wrote message to ".toList ++ path ++ ['\n'])
      return .ok true
  else return .ok true

/-- Generates a message.  It succeeds if there is one. -/
def runGenerate (world : World m) (note : Reporter m) (settings : Settings)
    (options : GenerateOptions) : m Outcome := do
  match ← loadViews world note {} options.pages with
  | .error failure => return .error failure
  | .ok learned =>
    let branch ← branchOf world note options learned
    match learned.context.key with
    | some key => note ⟨.debug, .command, "Context cached for ".toList ++ key⟩
    | none => pure ()
    let request := requestOf options learned branch
    note (requestNote request branch)
    note (providerNote settings)
    note (runtimeNote settings)
    match ← generate note settings (backendsOf world note settings) request with
    | .error e => return .error (Failure.ofText e.message)
    | .ok none =>
      world.complain "The provider returned an empty message.\n".toList
      return .ok false
    | .ok (some message) => presentMessage world options.apply request.title message

end MergeMessage
