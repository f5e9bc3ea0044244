import MergeMessage.Http.Basic
import MergeMessage.CommandLine.Basic

/-!
# What the program works with

A run reads files and the standard input, asks about the repository, sends requests, and writes
to its outputs and to one file.  All of it goes through a world, so that a run is a computation
in whatever the world is made of.

## Main definitions

* `World` — what a run may do.
* `FileContent` — what is found at a path.
* `GitQuery`, `GitFault` — questions about the repository, and why they are left open.
* `Failure.report` — what is printed about a failure.
-/

namespace MergeMessage

/-- What is found at a path. -/
inductive FileContent
  /-- Nothing. -/
  | missing
  /-- Something that cannot be read. -/
  | unreadable
  /-- A file. -/
  | octets (data : Octets)
  deriving DecidableEq, Repr

/-- The text of a file, or why it has none. -/
def FileContent.text : FileContent → Except Text Text
  | .missing => .error "No such file or directory (os error 2)".toList
  | .unreadable => .error "Is a directory (os error 21)".toList
  | .octets data =>
    match data.text? with
    | some s => .ok s
    | none => .error "stream did not contain valid UTF-8".toList

/-- A question about the repository. -/
inductive GitQuery
  /-- What is the name of the branch? -/
  | branch
  /-- Where does the repository keep its files? -/
  | directory
  deriving DecidableEq, Repr

/-- The words in which the question is put to git. -/
def GitQuery.words : GitQuery → List Text
  | .branch => ["rev-parse", "--abbrev-ref", "HEAD"].map String.toList
  | .directory => ["rev-parse", "--git-dir"].map String.toList

/-- Why a question is left open. -/
inductive GitFault
  /-- Git could not be asked, for this reason. -/
  | notAsked (reason : Text)
  /-- Git ended with this status, or was stopped. -/
  | ended (status : Option Nat)
  deriving DecidableEq, Repr

/-- Why a question is left open, as a failure. -/
def GitFault.failure (query : GitQuery) : GitFault → Failure
  | .notAsked reason => ⟨["failed to run git ".toList ++ Text.quotedList query.words, reason]⟩
  | .ended status =>
    let shown := match status with
      | some n => "Some(".toList ++ Text.ofNat n ++ [')']
      | none => "None".toList
    .ofText ("git ".toList ++ Text.quotedList query.words ++ " exited with status ".toList ++ shown)

/-- What a run may do. -/
structure World (m : Type → Type) where
  /-- The environment. -/
  environment : Environment
  /-- The home directory. -/
  home : Option Text
  /-- Reads a file. -/
  fileAt : (path : Text) → m FileContent
  /-- Reads the standard input. -/
  input : m Octets
  /-- Asks about the repository. -/
  askGit : GitQuery → m (Except GitFault Text)
  /-- Sends a request. -/
  network : Http.Network m
  /-- Writes a file, or says why it cannot be written. -/
  store : (path content : Text) → m (Except Text Unit)
  /-- Writes to the standard output. -/
  print : Text → m Unit
  /-- Writes to the standard error output. -/
  complain : Text → m Unit

namespace Failure

/-- A failure with what it was about. -/
def during (f : Failure) (context : Text) : Failure := ⟨context :: f.causes⟩

/-- What is printed about a failure: what failed, and then its causes. -/
def report (f : Failure) : Text :=
  let line (s : Text) : Text := "\n    ".toList ++ s
  match f.causes with
  | [] => "Error: \n".toList
  | [outer] => "Error: ".toList ++ outer ++ ['\n']
  | outer :: causes =>
    "Error: ".toList ++ outer ++ "\n\nCaused by:".toList ++ causes.flatMap line ++ ['\n']

end Failure

end MergeMessage
