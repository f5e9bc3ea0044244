import MergeMessage.Text.Basic

/-!
# Values of settings files

A settings file in TOML is a table of values.  The program asks for texts and for tables only;
the other values are kept with what a reader could ask of them.

## Main definitions

* `Toml` — a value.
* `Toml.Scalar` — a value without parts that is no text.
* `Toml.isTextChar`, `Toml.isBlank` — the characters that may stand in a file as they are, and
  those that count for nothing between two parts of a line.
* `Toml.skipGap?`, `Toml.lineEnd?` — what follows blanks, line ends and comments.
-/

namespace MergeMessage

namespace Toml

/-- A value without parts that is no text. -/
inductive Scalar
  /-- A truth value. -/
  | boolean (value : Bool)
  /-- A whole number. -/
  | integer (value : Int)
  /-- A number with a fraction or an exponent, or one that is no finite number, as it is
  spelled. -/
  | float (literal : Text)
  /-- A date, a time or both, as it is spelled. -/
  | moment (literal : Text)
  deriving DecidableEq, Repr

end Toml

/-- A value of a settings file. -/
inductive Toml
  /-- A text. -/
  | text (s : Text)
  /-- A value without parts that is no text. -/
  | scalar (value : Toml.Scalar)
  /-- An array. -/
  | array (items : List Toml)
  /-- A table; no key occurs twice. -/
  | table (entries : List (Text × Toml))
  deriving Inhabited

namespace Toml

/-! ### Between the parts of a file -/

/-- Is the character one that may stand in a text or a comment as it is?  Control characters
other than the tab may not. -/
def isTextChar (c : Char) : Bool := c == '\t' || (0x20 ≤ c.toNat && c.toNat ≠ 0x7F)

/-- Is the character one that separates two parts of a line? -/
def isBlank (c : Char) : Bool := c == ' ' || c == '\t'

/-- The text without blanks at its front. -/
def skipBlanks (s : Text) : Text := s.dropWhile isBlank

/-- What follows the blanks, line ends and comments at the front of a text; `comment` says that
the text starts inside a comment. -/
def skipGapFrom? : (comment : Bool) → Text → Option Text
  | _, [] => some []
  | _, '\n' :: s => skipGapFrom? false s
  | _, '\r' :: '\n' :: s => skipGapFrom? false s
  | true, c :: s => if isTextChar c then skipGapFrom? true s else none
  | false, '#' :: s => skipGapFrom? true s
  | false, c :: s => if isBlank c then skipGapFrom? false s else some (c :: s)

/-- What follows the blanks, line ends and comments at the front of a text, if the comments
have no forbidden characters. -/
def skipGap? (s : Text) : Option Text := skipGapFrom? false s

/-- What follows the line end at the front of a text. -/
def newline? : Text → Option Text
  | '\n' :: s => some s
  | '\r' :: '\n' :: s => some s
  | _ => none

/-- Does a text end here, or start with a line end? -/
def atLineEnd (s : Text) : Bool := s.isEmpty || (newline? s).isSome

/-- The text from the end of the comment that it starts in; the comment must not have forbidden
characters. -/
def afterComment? : Text → Option Text
  | [] => some []
  | c :: s =>
    if atLineEnd (c :: s) then some (c :: s)
    else if isTextChar c then afterComment? s else none

/-- The text from the end of its first line, if that line has nothing but blanks and a
comment. -/
def lineEnd? (s : Text) : Option Text :=
  match skipBlanks s with
  | '#' :: s => afterComment? s
  | s => if atLineEnd s then some s else none

@[simp] theorem skipGap?_nil : skipGap? [] = some [] := rfl

end Toml

end MergeMessage
