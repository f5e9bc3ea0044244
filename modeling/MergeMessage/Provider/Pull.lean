import MergeMessage.Json.Record
import MergeMessage.Provider.LineStream

/-!
# Pulling a model

While a model is downloaded, the runtime streams lines that say how far it is.  The first line
that is no such line, or that reports an error, ends the download.

## Main definitions

* `Progress` — what a line says; `Progress.ofLine?`.
* `PullError` — why a download failed; `PullError.message`.
* `Pull`, `pullStep` — a download line by line.
* `followPull` — the lines that are reported, and the outcome.
* `modelMatches` — is an installed model the wanted one?
-/

namespace MergeMessage

/-- What a line of a download says. -/
structure Progress where
  /-- What is being done. -/
  status : Text
  /-- The size of what is being downloaded. -/
  total : Option Nat
  /-- How much of it is there. -/
  completed : Option Nat
  /-- What went wrong. -/
  error : Option Text
  deriving DecidableEq, Repr

namespace Progress

/-- A size: a whole number of 64 bits, or null for none. -/
def size? : Json → Option (Option Nat)
  | .null => some none
  | j => (j.natBelow? (Nat.pow 2 64)).map some

/-- The value of a field that may be left out. -/
def field? {α : Type} (members : List (Option Text × Json)) (name : String)
    (read : Json → Option α) (default : α) : Option α :=
  (Json.lastMember? name read members).map (·.getD default)

/-- What a line says, if it is a progress object. -/
def ofLine? (line : Text) : Option Progress := do
  let members ← Json.ofLoose? line
  let status ← field? members "status" Json.text? []
  let total ← field? members "total" size? none
  let completed ← field? members "completed" size? none
  let error ← field? members "error" Json.optionalText? none
  return { status, total, completed, error }

end Progress

/-- Why a download failed. -/
inductive PullError
  /-- A line is no progress object. -/
  | notProgress
  /-- A line reports an error. -/
  | reported (reason : Text)
  deriving DecidableEq, Repr

/-- What the user is told about the download of a model. -/
def PullError.message (model : Text) : StreamError PullError → Text
  | .notText => notTextMessage
  | .handler .notProgress =>
    "Failed to decode Ollama stream JSON: not a progress object".toList
  | .handler (.reported reason) =>
    "Ollama failed to pull ".toList ++ model ++ ": ".toList ++ reason

/-- A download as far as it has been followed. -/
structure Pull where
  /-- The lines that were reported, the last one first. -/
  reported : List Progress := []
  /-- The error that a line reports. -/
  failure : Option Text := none
  deriving DecidableEq, Repr

/-- What comes of one line of a download.  After a line that reports an error no more is read. -/
def pullStep (pull : Pull) (line : Text) : Step Pull PullError :=
  match Progress.ofLine? line with
  | none => .fail pull .notProgress
  | some progress =>
    match progress.error with
    | some reason => .stop { pull with failure := some reason }
    | none => .next { pull with reported := progress :: pull.reported }

/-- What was reported, and whether the download came to an end without an error.  The error that a
line reports is told when the stream has been read. -/
def Pull.result (pull : Pull) (outcome : Except (StreamError PullError) Unit) :
    List Progress × Except (StreamError PullError) Unit :=
  (pull.reported.reverse,
    match outcome, pull.failure with
    | .error error, _ => .error error
    | .ok (), some reason => .error (.handler (.reported reason))
    | .ok (), none => .ok ())

/-- The progress that a stream reports, and whether it came to an end without an error. -/
def followPull (stream : Octets) : List Progress × Except (StreamError PullError) Unit :=
  let (pull, outcome) := readStream pullStep {} stream
  pull.result outcome

/-- Is an installed model the wanted one?  A name without a tag stands for the tag `latest`. -/
def modelMatches (wanted installed : Text) : Bool :=
  if wanted.contains ':' then wanted == installed
  else match Text.splitOnce? installed [':'] with
    | some (name, tag) => name == wanted && tag == "latest".toList
    | none => installed == wanted

end MergeMessage
