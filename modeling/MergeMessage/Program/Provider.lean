import MergeMessage.Program.Generate

/-!
# The commands about providers

The model on this machine is looked for and downloaded, and the chosen provider is tried with a
short prompt.

## Main definitions

* `runStatus` — the command that shows whether the model is ready.
* `runPull` — the command that downloads the model.
* `runCheck` — the command that tries the chosen provider.
-/

namespace MergeMessage

open Terminal

/-- The style in which an availability is shown. -/
def Availability.style : Availability → Style
  | .available => .green
  | .downloadable => .yellow
  | .unavailable => .red

/-- What is printed about the state of the model on this machine. -/
def statusText (coloured : Bool) (settings : Settings) (availability : Availability) : Text :=
  "Selected provider: ".toList ++ settings.choice.name ++ "\nOn-device model ".toList ++
    settings.localModel ++ " at ".toList ++ settings.localAddress ++ ": ".toList ++
    availability.style.paint coloured availability.name ++ '\n' ::
    if availability = .downloadable then
      "Run \x60mergebot pull\x60 to download it.\n".toList
    else []

variable {m : Type → Type} [Monad m]

/-- Is the model on this machine ready? -/
def lookForModel (world : World m) (note : Reporter m) (settings : Settings) : m Availability := do
  note (runtimeNote settings)
  Daemon.availability note world.network (daemonOf settings)

/-- Shows whether the model on this machine is ready. -/
def runStatus (world : World m) (note : Reporter m) (settings : Settings) : m Outcome := do
  let availability ← lookForModel world note settings
  world.print (statusText (isColoured world.environment) settings availability)
  return .ok true

/-- Downloads the model on this machine unless it is ready. -/
def runPull (world : World m) (note : Reporter m) (settings : Settings) : m Outcome := do
  let availability ← lookForModel world note settings
  if availability = .available then
    world.print (settings.localModel ++ " is already available.\n".toList)
    return .ok true
  else
    match (← Daemon.download note world.network (daemonOf settings)).2 with
    | .error e => return .error (Failure.ofText (e.message settings.localModel))
    | .ok () =>
      world.print (paintedLine (isColoured world.environment) .boldGreen "✔"
        (settings.localModel ++ " is ready.".toList))
      return .ok true

/-- Tries the chosen provider.  It succeeds if there is an answer. -/
def runCheck (world : World m) (note : Reporter m) (settings : Settings) : m Outcome := do
  note (providerNote settings)
  note (runtimeNote settings)
  let line (style : Style) (word : String) (said : Text) : Text :=
    paintedLine (isColoured world.environment) style word
      (settings.choice.name ++ " provider ".toList ++ said)
  match ← ping note settings (backendsOf world note settings) with
  | .error e => return .error (Failure.ofText e.message)
  | .ok reply =>
    match reply.bind Text.nonBlank? with
    | some reply =>
      world.print (line .boldGreen "✔" ("replied: ".toList ++ Text.trim reply))
      return .ok true
    | none =>
      world.print (line .boldRed "✘" "returned nothing.".toList)
      return .ok false

end MergeMessage
