import MergeMessage.Text.Basic

/-!
# Log entries

While it works, the program notes what it does.  An entry has a level, which says how
important it is, and a topic, which says what part of the work it is about.

## Main definitions

* `Level`, `Topic` — the levels and topics, with their names.
* `LogEntry` — an entry.
* `Reporter` — where entries go.
-/

namespace MergeMessage

/-- How important an entry is. -/
inductive Level
  /-- Something failed. -/
  | error
  /-- Something is not as it should be. -/
  | warn
  /-- A step of the work. -/
  | info
  /-- What a step works with. -/
  | debug
  /-- Everything else. -/
  | trace
  deriving DecidableEq, Repr

/-- The levels in order: the more detail, the higher. -/
def Level.rank : Level → Nat
  | .error => 1
  | .warn => 2
  | .info => 3
  | .debug => 4
  | .trace => 5

/-- What part of the work an entry is about. -/
inductive Topic
  /-- The command that is run. -/
  | command
  /-- Where the settings come from. -/
  | settings
  /-- What is known of the pull request. -/
  | context
  /-- A request for a message. -/
  | generation
  /-- The repository in the working directory. -/
  | repository
  /-- The model on this machine. -/
  | onDevice
  /-- The remote service. -/
  | remote
  /-- The choice of a provider. -/
  | setup
  deriving DecidableEq, Repr

/-- The name of a topic, by which entries are selected. -/
def Topic.name : Topic → Text
  | .command => "mergebot".toList
  | .settings => "mergebot::config".toList
  | .context => "mergebot::context_cache".toList
  | .generation => "mergebot::generate".toList
  | .repository => "mergebot::git".toList
  | .onDevice => "mergebot::llm::ollama".toList
  | .remote => "mergebot::llm::openai".toList
  | .setup => "mergebot::setup".toList

/-- An entry of the log. -/
structure LogEntry where
  /-- How important it is. -/
  level : Level
  /-- What it is about. -/
  topic : Topic
  /-- What it says. -/
  message : Text
  deriving DecidableEq, Repr

/-- Where the entries of a computation go. -/
abbrev Reporter (m : Type → Type) := LogEntry → m Unit

/-- The reporter that drops every entry. -/
def Reporter.silent {m : Type → Type} [Monad m] : Reporter m := fun _ => pure ()

end MergeMessage
