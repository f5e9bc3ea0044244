import Std.Async.DNS
import Std.Async.TCP
import MergeMessage.Http.Wire
import MergeMessage.Program.Run

/-!
# The program

The world of a run is the machine that it runs on: its files, its standard streams, its
repository and its network, without encryption.

## Main definitions

* `main` — a run of the program.
-/

namespace MergeMessage.Machine

/-- The octets of an array of them. -/
def octetsOf (bytes : ByteArray) : Octets := bytes.toList

/-- The variables that the program asks for. -/
def variableNames : List String :=
  ["OPENAI_API_KEY", "MERGEBOT_PROVIDER", "MERGEBOT_MODEL", "MERGEBOT_LOG", "NO_COLOR",
    "CLICOLOR_FORCE"]

/-- The environment, as far as the program asks for it. -/
def environment : IO Environment := do
  let values ← variableNames.mapM fun name => return (name.toList, ← IO.getEnv name)
  return fun name => ((values.lookup name).join).map String.toList

/-- What is found at a path. -/
def fileAt (path : Text) : IO FileContent := do
  try
    return .octets (octetsOf (← IO.FS.readBinFile (String.ofList path)))
  catch
    | .noFileOrDirectory .. => return .missing
    | _ => return .unreadable

/-- All that comes from the standard input. -/
partial def input (stream : IO.FS.Stream) (read : ByteArray) : IO Octets := do
  let more ← stream.read 65536
  if more.isEmpty then return octetsOf read else input stream (read ++ more)

/-- Writes a file. -/
def store (path content : Text) : IO (Except Text Unit) := do
  try
    IO.FS.writeFile (String.ofList path) (String.ofList content)
    return .ok ()
  catch e => return .error e.toString.toList

/-! ### The repository -/

/-- The status of git where there is no repository. -/
def noRepository : Nat := 128

/-- The name of the branch in the text of a repository's head. -/
def branchOfHead (head : Text) : Text :=
  match "ref: refs/heads/".toList.isPrefixOf? head with
  | some name => name
  | none => "HEAD".toList

/-- The answer to a question about the repository, whose files are at one of some places. -/
def askGitAt (query : GitQuery) : (places : List Text) → IO (Except GitFault Text)
  | [] => return .error (.ended (some noRepository))
  | place :: places => do
    match (← fileAt (place ++ "/HEAD".toList)).text with
    | .error _ => askGitAt query places
    | .ok head =>
      match query with
      | .directory => return .ok place
      | .branch => return .ok (branchOfHead head)

/-- The directories above a directory, the nearest first. -/
def above (directory : Text) : List Text :=
  let segments := (Text.pieces '/' directory).reverse
  (List.range segments.length).drop 1 |>.map fun n =>
    Text.join ['/'] (segments.drop n).reverse

/-- The answer to a question about the repository around the working directory. -/
def askGit (query : GitQuery) : IO (Except GitFault Text) := do
  let here := (toString (← IO.currentDir)).toList
  let places := (above here).map fun directory => directory ++ "/.git".toList
  askGitAt query (".git".toList :: places)

/-! ### The network -/

open Std Async

/-- All that comes over a connection. -/
partial def receive (socket : TCP.Socket.Client) (received : ByteArray) : Async ByteArray := do
  match ← socket.recv? 65536 with
  | none => return received
  | some more => if more.isEmpty then return received else receive socket (received ++ more)

/-- The octets that answer some others. -/
def exchange (address : Net.IPAddr) (port : UInt16) (sent : ByteArray) : Async ByteArray := do
  let socket ← TCP.Socket.Client.mk
  socket.connect (match address with
    | .v4 address => .v4 ⟨address, port⟩
    | .v6 address => .v6 ⟨address, port⟩)
  socket.send sent
  receive socket .empty

/-- The octets that answer some others, from the first of some addresses that answers. -/
def exchangeWithAny (port : UInt16) (sent : ByteArray) : List Net.IPAddr → Async ByteArray
  | [] => return .empty
  | address :: addresses => do
    try exchange address port sent
    catch _ => exchangeWithAny port sent addresses

/-- The port of an address of the web. -/
def portOf (u : Url) : Nat := u.port.getD 80

/-- The reply to a request, if the connection needs no encryption. -/
def network : Http.Network IO := fun request => do
  match Url.parse? request.address with
  | none => return none
  | some u =>
    if u.scheme ≠ "http".toList then return none
    else
      let host := String.ofList ((u.host.getD []).filter fun c => c ≠ '[' && c ≠ ']')
      let sent := ByteArray.mk (Http.Wire.octetsOf u request).toArray
      try
        let received ← Async.block do
          let addresses ← DNS.getAddrInfo host ""
          exchangeWithAny (UInt16.ofNat (portOf u)) sent addresses.toList
        return Http.Wire.reply? (octetsOf received)
      catch _ => return none

/-- The machine that the program runs on. -/
def world : IO (World IO) := do
  let out ← IO.getStdout
  let err ← IO.getStderr
  return {
    environment := ← environment
    home := (← IO.getEnv "HOME").map String.toList
    fileAt := fileAt
    input := do input (← IO.getStdin) .empty
    askGit := askGit
    network := network
    store := store
    print := fun s => do out.putStr (String.ofList s); out.flush
    complain := fun s => do err.putStr (String.ofList s); err.flush }

end MergeMessage.Machine

/-- A run of the program. -/
def main (words : List String) : IO UInt32 := do
  let status ← MergeMessage.run (← MergeMessage.Machine.world) (words.map String.toList)
  return UInt32.ofNat status
