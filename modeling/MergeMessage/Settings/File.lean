import MergeMessage.Settings
import MergeMessage.Text.Quoted
import MergeMessage.Text.Utf8
import MergeMessage.Toml.Reader

/-!
# The settings file

The settings that hold for every run stand in a file in the home directory.  The file may leave
any of them out, and may hold other keys and tables, which are passed over.

## Main definitions

* `FileSettings` — what a file sets; `FileSettings.ofOctets`.
* `SettingsError` — why a file is refused; `SettingsError.message`.
* `settingsPath` — where the file is.
-/

namespace MergeMessage

/-- What a settings file sets. -/
structure FileSettings where
  /-- The provider. -/
  provider : Option ProviderChoice := none
  /-- The key of the remote service. -/
  apiKey : Option Text := none
  /-- The model of the remote service. -/
  model : Option Text := none
  /-- The base address of the remote service. -/
  apiBase : Option Text := none
  /-- The address of the runtime on this machine. -/
  localAddress : Option Text := none
  /-- The model of the runtime on this machine. -/
  localModel : Option Text := none
  deriving DecidableEq, Repr

/-- Why a settings file is refused. -/
inductive SettingsError
  /-- It cannot be read as a text. -/
  | unreadable
  /-- It is not well formed, or a setting in it is none. -/
  | malformed
  deriving DecidableEq, Repr

/-- What the user is told about the settings file at a path. -/
def SettingsError.message (path : Text) : SettingsError → Text
  | .unreadable => "failed to read config file ".toList ++ Text.quotedPath path
  | .malformed => "failed to parse config file ".toList ++ Text.quotedPath path

namespace FileSettings

/-- The text of a value that must be one. -/
def textOf? : Toml → Option Text
  | .text s => some s
  | _ => none

/-- The provider that a value names: its name, or a table with its name as the only key and
nothing under it. -/
def providerOf? : Toml → Option ProviderChoice
  | .text s => ProviderChoice.ofName? s
  | .table [(name, .table [])] => ProviderChoice.ofName? name
  | .table [(name, .array [])] => ProviderChoice.ofName? name
  | _ => none

/-- What a table sets under a key, if it sets anything there that can be read. -/
def setting? {α : Type} (entries : List (Text × Toml)) (key : String) (read : Toml → Option α) :
    Option (Option α) :=
  match Toml.lookup? key.toList entries with
  | none => some none
  | some value => (read value).map some

/-- The settings in a table. -/
def ofEntries? (entries : List (Text × Toml)) : Option FileSettings := do
  return {
    provider := ← setting? entries "provider" providerOf?
    apiKey := ← setting? entries "openai_api_key" textOf?
    model := ← setting? entries "model" textOf?
    apiBase := ← setting? entries "api_base_url" textOf?
    localAddress := ← setting? entries "local_url" textOf?
    localModel := ← setting? entries "local_model" textOf? }

/-- The settings in a text. -/
def ofText? (s : Text) : Option FileSettings := (Toml.ofFile? s).bind ofEntries?

/-- The settings in a file with these octets, or why it is refused. -/
def ofOctets (octets : Octets) : Except SettingsError FileSettings :=
  match octets.text? with
  | none => .error .unreadable
  | some s =>
    match ofText? s with
    | none => .error .malformed
    | some settings => .ok settings

end FileSettings

/-- The path of the settings file in a home directory. -/
def settingsPath (home : Text) : Text :=
  Text.dropEndWhile (· == '/') home ++ "/.config/mergebot.toml".toList

end MergeMessage
