import MergeMessage.Log.Entry
import MergeMessage.Program.World

/-!
# The repository

The branch that is checked out may speak of a ticket, and the next commit starts from the
message that the repository keeps for it.

## Main definitions

* `Repository.currentBranch` — the branch that is checked out.
* `Repository.keepMessage` — keeps a message for the next commit.
-/

namespace MergeMessage.Repository

variable {m : Type → Type} [Monad m]

/-- The answer to a question about the repository, without blanks around it. -/
def ask (world : World m) (query : GitQuery) : m (Except Failure Text) := do
  match ← world.askGit query with
  | .ok answer => return .ok (Text.trim answer)
  | .error fault => return .error (fault.failure query)

/-- What stands for the name of the branch if none is checked out. -/
def detachedHead : Text := "HEAD".toList

/-- The branch that is checked out in the working directory, if it lies in a repository. -/
def currentBranch (note : Reporter m) (world : World m) : m (Option Text) := do
  match ← ask world .branch with
  | .ok name => return if name.isEmpty || name = detachedHead then none else some name
  | .error failure =>
    note ⟨.debug, .repository, "No current branch: ".toList ++ failure.chain⟩
    return none

/-- The path of the message for the next commit, in the directory of a repository. -/
def messagePath (directory : Text) : Text :=
  if directory.isEmpty then "COMMIT_EDITMSG".toList
  else if directory.endsWith ['/'] then directory ++ "COMMIT_EDITMSG".toList
  else directory ++ "/COMMIT_EDITMSG".toList

/-- Keeps a message for the next commit, and says where. -/
def keepMessage (world : World m) (message : Text) : m (Except Failure Text) := do
  match ← ask world .directory with
  | .error failure => return .error failure
  | .ok directory =>
    let path := messagePath directory
    match ← world.store path (message ++ ['\n']) with
    | .error reason =>
      let what := "failed to write commit message to ".toList ++ Text.quotedPath path
      return .error ((Failure.ofText reason).during what)
    | .ok () => return .ok path

end MergeMessage.Repository
