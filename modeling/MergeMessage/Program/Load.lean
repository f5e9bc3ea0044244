import MergeMessage.Log.Entry
import MergeMessage.Program.World
import MergeMessage.PullRequest.Context

/-!
# What is loaded before a command

The settings come from the options, the environment and the settings file; what is known of a
pull request comes from files with views of its page.

## Main definitions

* `loadSettings` — the settings of a run.
* `loadViews` — the views of a page, each of which may refer to what those before it showed.
-/

namespace MergeMessage

/-- What is wrong with a settings file. -/
def SettingsError.reason : SettingsError → Text
  | .unreadable => "the file holds no text".toList
  | .malformed => "the file holds no settings".toList

/-- Why a settings file is refused, as a failure. -/
def SettingsError.failure (path : Text) (e : SettingsError) : Failure :=
  (Failure.ofText e.reason).during (e.message path)

variable {m : Type → Type} [Monad m]

/-- What the settings file sets; if there is none, it sets nothing. -/
def loadFileSettings (world : World m) (note : Reporter m) :
    m (Except Failure FileSettings) := do
  match world.home with
  | none => return .ok {}
  | some home =>
    let path := settingsPath home
    match ← world.fileAt path with
    | .missing => return .ok {}
    | .unreadable => return .error (SettingsError.unreadable.failure path)
    | .octets data =>
      match FileSettings.ofOctets data with
      | .error e => return .error (e.failure path)
      | .ok file =>
        note ⟨.debug, .settings, "Loaded config from ".toList ++ Text.quotedPath path⟩
        return .ok file

/-- The settings of a run. -/
def loadSettings (world : World m) (note : Reporter m) (options : GlobalOptions) :
    m (Except Failure Settings) :=
  return (← loadFileSettings world note).map (Settings.resolve options world.environment)

/-- The view of a page that a file holds. -/
def loadView (world : World m) (path : Text) : m (Except Failure PullRequest.Snapshot) := do
  let about (what : String) (reason : Text) : Failure :=
    (Failure.ofText reason).during (what.toList ++ Text.quotedPath path)
  match (← world.fileAt path).text with
  | .error reason => return .error (about "failed to read page snapshot " reason)
  | .ok s =>
    match PullRequest.Snapshot.ofJson? s with
    | none =>
      return .error (about "failed to parse page snapshot " "the file holds no snapshot".toList)
    | some view => return .ok view

/-- What was learned from the views of a page. -/
structure Learned where
  /-- What is known of the pull request. -/
  context : PullRequest.Context := {}
  /-- The last view. -/
  last : Option PullRequest.Snapshot := none
  deriving DecidableEq, Repr

/-- What is learned from the views in some files, after what was learned before. -/
def loadViews (world : World m) (note : Reporter m) :
    Learned → (paths : List Text) → m (Except Failure Learned)
  | learned, [] => return .ok learned
  | learned, path :: paths => do
    match ← loadView world path with
    | .error failure => return .error failure
    | .ok view =>
      (learned.context.refreshNotes view).forM note
      loadViews world note ⟨learned.context.refresh view, some view⟩ paths

end MergeMessage
