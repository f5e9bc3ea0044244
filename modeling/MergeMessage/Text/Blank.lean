import MergeMessage.Text.CodePoints

/-!
# Blank characters

The blank characters are those with the Unicode property White_Space: the control
characters from tab to carriage return, the space, next line, the no-break space and the
spaces and separators of the other scripts.  The zero width space and the byte order mark
are not blank.

## Main definitions

* `isBlank` — the property.
* `Text.trim` — a text without the blank characters at its ends.
-/

namespace MergeMessage

/-- The code points of blank characters. -/
def blankPoints : CodePoints :=
  [0x9, 0xE, 0x20, 0x21, 0x85, 0x86, 0xA0, 0xA1, 0x1680, 0x1681, 0x2000, 0x200B, 0x2028, 0x202A,
  0x202F, 0x2030, 0x205F, 0x2060, 0x3000, 0x3001]

/-- Is the character blank? -/
def isBlank (c : Char) : Bool := blankPoints.contains c.toNat

namespace Text

/-- The text without the blank characters at its ends. -/
def trim (s : Text) : Text := trimBy isBlank s

/-- Does the text hold nothing but blank characters? -/
def isAllBlank (s : Text) : Bool := s.all isBlank

/-- The text, if it holds more than blank characters. -/
def nonBlank? (s : Text) : Option Text := if s.isAllBlank then none else some s

/-- The text with every run of blank characters replaced by `filler`; `pending` says that
the characters before belonged to a run. -/
def squeezeAfter (filler : Text) : Bool → Text → Text
  | pending, [] => if pending then filler else []
  | pending, c :: s =>
    if isBlank c then squeezeAfter filler true s
    else (if pending then filler else []) ++ c :: squeezeAfter filler false s

/-- The text with every run of blank characters replaced by `filler`. -/
def squeeze (s filler : Text) : Text := squeezeAfter filler false s

@[simp] theorem trim_nil : trim [] = [] := rfl

end Text

end MergeMessage
