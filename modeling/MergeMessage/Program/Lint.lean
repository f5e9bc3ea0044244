import MergeMessage.Commit.Lint
import MergeMessage.Log.Line
import MergeMessage.Program.World

/-!
# The command that lints

The message to lint is given as it is, or comes from a file or from the standard input.  In a
file, lines with a number sign at their start are comments.  The verdict is printed, and its
severity decides whether the run succeeds.

## Main definitions

* `Outcome` — how a command ends.
* `withoutComments` — a message without comments.
* `readMessage` — the message to lint.
* `verdictText` — what is printed about a verdict.
* `runLint` — the command.
-/

namespace MergeMessage

open Terminal

/-- How a command ends: with a failure, or having succeeded or not. -/
abbrev Outcome := Except Failure Bool

/-- The message in the text of a file: its lines without the comments. -/
def withoutComments (s : Text) : Text :=
  Text.join ['\n'] ((Text.lines s).filter fun line => !line.startsWith ['#'])

/-- A line with a painted word in front. -/
def paintedLine (coloured : Bool) (style : Style) (word : String) (s : Text) : Text :=
  style.paint coloured word.toList ++ ' ' :: s ++ ['\n']

/-- What is printed about a verdict. -/
def verdictText (coloured : Bool) (verdict : Commit.Verdict) : Text :=
  if verdict.isValid then paintedLine coloured .boldGreen "✔" "Looks good.".toList
  else
    match verdict.severity with
    | .none => []
    | .warning => verdict.errors.flatMap (paintedLine coloured .boldYellow "warning:")
    | .error => verdict.errors.flatMap (paintedLine coloured .boldRed "error:")

variable {m : Type → Type} [Monad m]

/-- The message to lint. -/
def readMessage (world : World m) : MessageSource → m (Except Failure Text)
  | .argument message => return .ok message
  | .file path => do
    match (← world.fileAt path).text with
    | .ok s => return .ok (withoutComments s)
    | .error reason =>
      let what := "failed to read commit message from ".toList ++ Text.quotedPath path
      return .error ((Failure.ofText reason).during what)
  | .input => do
    match (FileContent.octets (← world.input)).text with
    | .ok s => return .ok s
    | .error reason =>
      let what := "failed to read commit message from stdin".toList
      return .error ((Failure.ofText reason).during what)

/-- Lints a message.  It succeeds unless the verdict blocks the merge. -/
def runLint (world : World m) (note : Reporter m) (source : MessageSource) (title : Option Text) :
    m Outcome := do
  match ← readMessage world source with
  | .error failure => return .error failure
  | .ok message =>
    let verdict := Commit.lint message title
    note ⟨.debug, .command, "Lint severity ".toList ++ verdict.severity.name ++ ": ".toList ++
      Text.quotedList verdict.errors⟩
    world.print (verdictText (isColoured world.environment) verdict)
    return .ok (!verdict.blocksMerge)

end MergeMessage
