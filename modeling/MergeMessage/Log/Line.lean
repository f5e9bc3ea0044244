import MergeMessage.Log.Filter
import MergeMessage.Terminal.Plain
import MergeMessage.Terminal.Style

/-!
# Lines of the log

An entry is shown on a line of its own, with its level in front of it, and with its topic if the
user asked for details.

## Main definitions

* `Logger` — how entries are shown; `Logger.line`.
* `Logger.reporter` — the reporter that shows entries.
-/

namespace MergeMessage

open Terminal

/-- The word for a level, of five letters. -/
def Level.label : Level → Text
  | .error => "ERROR".toList
  | .warn => "WARN ".toList
  | .info => "INFO ".toList
  | .debug => "DEBUG".toList
  | .trace => "TRACE".toList

/-- The style of the word for a level. -/
def Level.style : Level → Style
  | .error => .boldRed
  | .warn => .boldYellow
  | .info => .boldWhite
  | .debug => .grey
  | .trace => .grey

/-- How entries are shown. -/
structure Logger where
  /-- Which of them are shown. -/
  filter : LogFilter
  /-- Are the topics shown? -/
  showsTopics : Bool
  /-- Are words coloured? -/
  coloured : Bool
  /-- Do control sequences stay? -/
  keepsControls : Bool
  deriving DecidableEq, Repr

namespace Logger

/-- How many times the user must ask for more to see the topics. -/
def topicVerbosity : Nat := 2

/-- How entries are shown, and what is wrong in the words of the environment about it. -/
def ofUser (verbosity : Nat) (environment : Environment) : Logger × List Text :=
  let (filter, complaints) := LogFilter.ofUser verbosity (environment "MERGEBOT_LOG".toList)
  ({ filter
     showsTopics := topicVerbosity ≤ verbosity
     coloured := isColoured environment
     keepsControls := Terminal.keepsControls environment }, complaints)

/-- The line of an entry. -/
def line (logger : Logger) (e : LogEntry) : Text :=
  let topic := if logger.showsTopics then ' ' :: Style.grey.paint logger.coloured e.topic.name
    else []
  let line := e.level.style.paint logger.coloured e.level.label ++ topic ++ ' ' :: e.message ++
    ['\n']
  if logger.keepsControls then line else plain line

/-- The reporter that shows entries by `print`. -/
def reporter {m : Type → Type} [Monad m] (logger : Logger) (print : Text → m Unit) :
    Reporter m := fun e =>
  if logger.filter.admits e then print (logger.line e) else pure ()

end Logger

end MergeMessage
