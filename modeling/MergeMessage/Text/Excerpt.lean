import MergeMessage.Text.Utf8

/-!
# Excerpts

Long texts are cut before they are logged: the start is kept, and a note says how much is
missing.  The start is counted in characters, so none is split; what is missing is counted
in octets.

## Main definitions

* `Text.excerpt` — a text, or its start with a note.
-/

namespace MergeMessage.Text

/-- The text if it has at most `limit` characters; else its first `limit` characters and a note
with the number of octets that are left out. -/
def excerpt (limit : Nat) (s : Text) : Text :=
  match s.drop limit with
  | [] => s
  | rest => s.take limit ++ "...\n[truncated ".toList ++ ofNat (octetCount rest) ++ " chars]".toList

end MergeMessage.Text
