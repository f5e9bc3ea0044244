import MergeMessage.Provider.Basic

/-!
# Settings

What the program works with, after all sources were taken together.

## Main definitions

* `Settings` — the settings, with their defaults.
* `Settings.choice` — the provider that they lead to.
-/

namespace MergeMessage

/-- The settings of the program. -/
structure Settings where
  /-- The key of the remote service. -/
  apiKey : Option Text := none
  /-- The provider that was asked for. -/
  provider : Option ProviderChoice := none
  /-- The model of the remote service. -/
  model : Text := "gpt-3.5-turbo".toList
  /-- The base address of the remote service. -/
  apiBase : Text := "https://api.openai.com".toList
  /-- The address of the runtime on this machine. -/
  localAddress : Text := "http://localhost:11434".toList
  /-- The model of the runtime on this machine. -/
  localModel : Text := "llama3.2".toList
  deriving DecidableEq, Repr

/-- The provider that writes the message: the one that was asked for, else the remote service
if there is a key for it, else the model on this machine. -/
def Settings.choice (s : Settings) : ProviderChoice :=
  match s.provider, s.apiKey with
  | some choice, _ => choice
  | none, some _ => .remote
  | none, none => .onDevice

end MergeMessage
