import MergeMessage.Text.Blank
import MergeMessage.Text.Utf8

/-!
# Streams of lines

A reply that comes bit by bit is a stream of octets, cut into lines.  A handler sees the text
of each line that is not blank, without blanks at its ends, and says whether to go on.

## Main definitions

* `Octets.lines` — the lines of a stream.
* `Octets.wholeLines` — what can be read of a stream that breaks off.
* `Step` — what a handler answers.
* `readLines` — the run of a handler over lines.
-/

namespace MergeMessage

/-- The octets between the line feeds of a stream, the last of them without one. -/
def Octets.pieces : Octets → List Octets
  | [] => [[]]
  | b :: s =>
    if b = 0x0A then [] :: pieces s
    else match pieces s with
      | [] => [[b]]
      | line :: lines => (b :: line) :: lines

/-- The lines of a stream: what stands before each line feed, and what follows the last one
unless nothing does. -/
def Octets.lines (s : Octets) : List Octets :=
  match s.pieces.getLast? with
  | some [] => s.pieces.dropLast
  | _ => s.pieces

/-- The stream up to its last line feed. -/
def Octets.wholeLines (s : Octets) : Octets := (s.reverse.dropWhile (· ≠ 0x0A)).reverse

@[simp] theorem Octets.pieces_nil : Octets.pieces [] = [[]] := rfl

@[simp] theorem Octets.lines_nil : Octets.lines [] = [] := rfl

/-- What a handler answers to a line, with its state after it. -/
inductive Step (σ ε : Type)
  /-- Go on. -/
  | next (state : σ)
  /-- Read no more. -/
  | stop (state : σ)
  /-- Give up. -/
  | fail (state : σ) (error : ε)

/-- Why the reading of a stream failed. -/
inductive StreamError (ε : Type)
  /-- A line is not well formed UTF-8. -/
  | notText
  /-- The handler gave up. -/
  | handler (error : ε)
  deriving DecidableEq, Repr

/-- The message of a line that is not well formed. -/
def notTextMessage : Text := "stream did not contain valid UTF-8".toList

section

variable {σ ε : Type}

/-- The run of a handler over lines, from a state: its last state, and whether it came to an
end without an error. -/
def readLines (handler : σ → Text → Step σ ε) : σ → List Octets → σ × Except (StreamError ε) Unit
  | state, [] => (state, .ok ())
  | state, line :: lines =>
    match line.text? with
    | none => (state, .error .notText)
    | some text =>
      if (Text.trim text).isEmpty then readLines handler state lines
      else match handler state (Text.trim text) with
        | .next state => readLines handler state lines
        | .stop state => (state, .ok ())
        | .fail state error => (state, .error (.handler error))

/-- The run of a handler over a stream. -/
def readStream (handler : σ → Text → Step σ ε) (state : σ) (stream : Octets) :
    σ × Except (StreamError ε) Unit :=
  readLines handler state stream.lines

@[simp] theorem readLines_nil (handler : σ → Text → Step σ ε) (state : σ) :
    readLines handler state [] = (state, .ok ()) := rfl

end

end MergeMessage
