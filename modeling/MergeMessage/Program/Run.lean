import MergeMessage.CommandLine.Reader
import MergeMessage.Program.Provider

/-!
# A run of the program

The command line says what to do.  A run ends with a status: zero if it succeeded, one if it
did not, two if the command line asks for nothing that can be done.

## Main definitions

* `runCommand` — a command with its settings.
* `run` — a run, with its status.
-/

namespace MergeMessage

/-- The name and the version of the program. -/
def versionText : Text := "mergebot 0.1.0\n".toList

/-- How the program is used. -/
def usageText : Text :=
  "Usage: mergebot [OPTIONS] <COMMAND>\n\nCommands: lint, generate, status, pull, check\n".toList

namespace CommandLine.Stop

/-- What the user is told. -/
def message : Stop → Text
  | .invalidValue => "error: an option has a wrong value or none\n".toList
  | .unknownArgument => "error: unexpected argument\n".toList
  | .unknownCommand => "error: unrecognized subcommand\n".toList
  | .conflict => "error: an argument cannot be used with another one\n".toList
  | .needlessValue => "error: an option takes no value\n".toList
  | .missingCommand => "error: a subcommand is required\n".toList ++ usageText
  | .nothingGiven => usageText
  | .help => usageText
  | .version => versionText

/-- Is it what the user asked for? -/
def isWanted : Stop → Bool
  | .help => true
  | .version => true
  | _ => false

end CommandLine.Stop

variable {m : Type → Type} [Monad m]

/-- Runs a command that needs settings. -/
def withSettings (world : World m) (note : Reporter m) (options : GlobalOptions)
    (command : Settings → m Outcome) : m Outcome := do
  match ← loadSettings world note options with
  | .error failure => return .error failure
  | .ok settings => command settings

/-- Runs a command.  A message is linted without settings, so a settings file that is refused
does not matter then. -/
def runCommand (world : World m) (note : Reporter m) (line : CommandLine) : m Outcome :=
  match line.command with
  | .lint source title => runLint world note source title
  | .generate options =>
    withSettings world note line.options fun settings => runGenerate world note settings options
  | .status => withSettings world note line.options (runStatus world note)
  | .pull => withSettings world note line.options (runPull world note)
  | .check => withSettings world note line.options (runCheck world note)

/-- The status of a run whose command ended so. -/
def statusOf (world : World m) : Outcome → m Nat
  | .ok true => return 0
  | .ok false => return 1
  | .error failure => do
    world.complain failure.report
    return 1

/-- A run for the words of a command line, with its status. -/
def run (world : World m) (words : List Text) : m Nat := do
  match CommandLine.parse world.environment words with
  | .error stop =>
    if stop.isWanted then
      world.print stop.message
      return 0
    else
      world.complain stop.message
      return 2
  | .ok line =>
    let (logger, complaints) := Logger.ofUser line.options.verbosity world.environment
    complaints.forM fun complaint => world.complain (complaint ++ ['\n'])
    statusOf world (← runCommand world (logger.reporter world.complain) line)

end MergeMessage
