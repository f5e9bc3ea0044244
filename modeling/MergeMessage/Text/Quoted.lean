import MergeMessage.Text.Printable

/-!
# Quoted texts

Diagnostics show texts between double quotes, with escapes for the quote, the backslash and
every character that cannot be seen as it is: a short escape for the common control
characters, and the code point in hexadecimal digits for the others.  File names have the
single quote escaped as well.

## Main definitions

* `Text.quoted` — a text between quotes.
* `Text.quotedPath` — a file name between quotes.
* `Text.quotedOption`, `Text.quotedList` — optional texts and lists of texts.
-/

namespace MergeMessage.Text

/-- The hexadecimal digits of a number, in small letters. -/
def hexDigits (n : Nat) : Text := Nat.toDigits 16 n

/-- The code point of a character as an escape. -/
def codePointEscape (c : Char) : Text := "\\u\x7b".toList ++ hexDigits c.toNat ++ "\x7d".toList

/-- A character as it stands in a quoted text. -/
def escapeChar (c : Char) : Text :=
  if c = '"' || c = '\\' then ['\\', c]
  else if c = '\n' then ['\\', 'n']
  else if c = '\r' then ['\\', 'r']
  else if c = '\t' then ['\\', 't']
  else if c.toNat = 0 then ['\\', '0']
  else if isPrintable c then [c]
  else codePointEscape c

/-- A character as it stands in a quoted file name. -/
def escapePathChar (c : Char) : Text := if c = '\'' then ['\\', c] else escapeChar c

/-- The text between double quotes. -/
def quoted (s : Text) : Text := '"' :: s.flatMap escapeChar ++ ['"']

/-- The file name between double quotes. -/
def quotedPath (s : Text) : Text := '"' :: s.flatMap escapePathChar ++ ['"']

/-- An optional text: its quoted form with a mark that it is there, or a mark that it is not. -/
def quotedOption : Option Text → Text
  | none => "None".toList
  | some s => "Some(".toList ++ quoted s ++ [')']

/-- The quoted texts in order, between brackets. -/
def quotedList (ss : List Text) : Text := '[' :: join [',', ' '] (ss.map quoted) ++ [']']

end MergeMessage.Text
