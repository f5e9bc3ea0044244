import MergeMessage.Text.Basic

/-!
# Texts without control sequences

A terminal takes some characters for commands: the escape character starts a control sequence,
which ends with a letter or, in strings, with a terminator.  Where no terminal is, they are
taken out, and other control characters with them.

## Main definitions

* `Terminal.Sequence` — the kinds of control sequences, by what may end them.
* `Terminal.plain` — a text without control sequences and control characters.
-/

namespace MergeMessage.Terminal

/-- A control sequence that is not complete. -/
inductive Sequence
  /-- After the escape character. -/
  | escape
  /-- After the escape character and some characters that do not end a sequence. -/
  | intermediate
  /-- After the escape character and a bracket. -/
  | control
  /-- A string that a bell ends. -/
  | command
  /-- A string that goes on until the next escape character. -/
  | message
  deriving DecidableEq, Repr

/-- Is the character white space of one octet? -/
def isSpace (c : Char) : Bool := c == ' ' || c == '\t' || c == '\n' || c == '\r' || c == '\x0c'

/-- Is the character a control character of one octet? -/
def isControl (c : Char) : Bool := c.toNat < 0x20 || c.toNat = 0x7F

/-- Does the character lie between two characters? -/
def between (low high c : Char) : Bool := low ≤ c && c ≤ high

/-- What the character after the escape character leads to, if it does not end the sequence. -/
def afterEscape (c : Char) : Option Sequence :=
  if between ' ' '/' c then some .intermediate
  else if c = '[' then some .control
  else if c = ']' then some .command
  else if c = 'P' || c = 'X' || c = '^' || c = '_' then some .message
  else if between '0' '~' c then none
  else some .escape

/-- What one more character of a control sequence leads to, if it does not end the sequence. -/
def Sequence.next : Sequence → Char → Option Sequence
  | .escape, c => afterEscape c
  | .intermediate, c => if between '0' '~' c then none else some .intermediate
  | .control, c => if between '@' '~' c then none else some .control
  | .command, c => if c = '\x07' then none else some .command
  | .message, _ => some .message

/-- Is white space inside the sequence shown, which ends it? -/
def Sequence.endsAtSpace : Sequence → Bool
  | .escape => true
  | .intermediate => true
  | .control => true
  | .command => false
  | .message => false

/-- The characters that stop every control sequence. -/
def cancels (c : Char) : Bool := c == '\x18' || c == '\x1a'

/-- The text without control sequences and control characters, after the start of a control
sequence if there is one. -/
def plainAfter : Option Sequence → Text → Text
  | _, [] => []
  | _, '\x1b' :: s => plainAfter (some .escape) s
  | none, c :: s =>
    if isControl c && !isSpace c then plainAfter none s else c :: plainAfter none s
  | some sequence, c :: s =>
    if cancels c then plainAfter none s
    else if sequence.endsAtSpace && isControl c && isSpace c then c :: plainAfter none s
    else plainAfter (sequence.next c) s

/-- The text without control sequences and control characters. -/
def plain (s : Text) : Text := plainAfter none s

@[simp] theorem plain_nil : plain [] = [] := rfl

end MergeMessage.Terminal
