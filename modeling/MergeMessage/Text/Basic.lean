/-!
# Texts

A text is a finite sequence of Unicode characters.  The program reads, cuts and
joins texts, so they are lists here: every reader below is a recursion on the
characters that are left.

## Main definitions

* `Text` — a list of characters.
* `Text.trimBy` — a text without the characters of a class at either end.
* `Text.splitOnce?` — the two sides of the first occurrence of a separator.
* `Text.erase` — a text without the occurrences of another one.
* `Text.lines` — the lines of a text.
-/

namespace MergeMessage

/-- A text: a sequence of Unicode characters. -/
abbrev Text := List Char

namespace Text

/-! ### The ends of a text -/

/-- The text without its longest tail in the class `p`. -/
def dropEndWhile (p : Char → Bool) (s : Text) : Text := (s.reverse.dropWhile p).reverse

/-- The text without its longest head and its longest tail in the class `p`. -/
def trimBy (p : Char → Bool) (s : Text) : Text := dropEndWhile p (s.dropWhile p)

@[simp] theorem dropEndWhile_nil (p : Char → Bool) : dropEndWhile p [] = [] := rfl

@[simp] theorem trimBy_nil (p : Char → Bool) : trimBy p [] = [] := rfl

theorem dropEndWhile_concat_of_neg {p : Char → Bool} {c : Char} (h : p c = false) (s : Text) :
    dropEndWhile p (s ++ [c]) = s ++ [c] := by
  simp [dropEndWhile, h]

theorem dropEndWhile_concat_of_pos {p : Char → Bool} {c : Char} (h : p c = true) (s : Text) :
    dropEndWhile p (s ++ [c]) = dropEndWhile p s := by
  simp [dropEndWhile, h]

/-- The last character, if there is one and it lies in the class `p`, is dropped. -/
def dropLastIf (p : Char → Bool) (s : Text) : Text :=
  match s.getLast? with
  | some c => if p c then s.dropLast else s
  | none => s

/-- The first character, if there is one and it lies in the class `p`, is dropped. -/
def dropFirstIf (p : Char → Bool) : Text → Text
  | [] => []
  | c :: s => if p c then s else c :: s

/-- Does the text start with `pre`? -/
def startsWith (s pre : Text) : Bool := pre.isPrefixOf s

/-- Does the text end with `suf`? -/
def endsWith (s suf : Text) : Bool := suf.isSuffixOf s

/-! ### Separators -/

/-- The two sides of the first occurrence of `sep`, or `none` if there is none. -/
def splitOnce? : (s sep : Text) → Option (Text × Text)
  | [], sep => if sep.isEmpty then some ([], []) else none
  | c :: s, sep =>
    match sep.isPrefixOf? (c :: s) with
    | some rest => some ([], rest)
    | none => (splitOnce? s sep).map fun (before, after) => (c :: before, after)

/-- The words of a text, where each single `sep` ends a word: words may be empty. -/
def pieces (sep : Char) : Text → List Text
  | [] => [[]]
  | c :: s =>
    if c = sep then [] :: pieces sep s
    else match pieces sep s with
      | [] => [[c]]
      | w :: ws => (c :: w) :: ws

@[simp] theorem pieces_nil (sep : Char) : pieces sep [] = [[]] := rfl

/-- There is always a first word. -/
theorem pieces_ne_nil (sep : Char) (s : Text) : pieces sep s ≠ [] := by
  cases s with
  | nil => simp [pieces]
  | cons c s =>
    unfold pieces
    split
    · simp
    · split <;> simp

/-- The words in order, with `sep` between each two. -/
def join (sep : Text) (words : List Text) : Text := sep.intercalate words

/-- Joining the words of a text with the separator gives the text back. -/
theorem join_pieces (sep : Char) (s : Text) : join [sep] (pieces sep s) = s := by
  induction s with
  | nil => rfl
  | cons c s ih =>
    unfold pieces
    split
    · next h =>
      subst h
      match hw : pieces c s with
      | [] => exact absurd hw (pieces_ne_nil c s)
      | w :: ws =>
        rw [hw] at ih
        simpa [join, List.intercalate] using ih
    · match hw : pieces sep s with
      | [] => exact absurd hw (pieces_ne_nil sep s)
      | [w] =>
        rw [hw] at ih
        simpa [join, List.intercalate] using ih
      | w :: v :: ws =>
        rw [hw] at ih
        simpa [join, List.intercalate] using ih

/-- The text without its first `skip` characters and without the occurrences of `pat` in
what follows them. -/
def eraseAfter (pat : Text) : Nat → Text → Text
  | _, [] => []
  | skip + 1, _ :: s => eraseAfter pat skip s
  | 0, c :: s =>
    if pat.isEmpty || !pat.isPrefixOf (c :: s) then c :: eraseAfter pat 0 s
    else eraseAfter pat (pat.length - 1) s

/-- The text without the occurrences of `pat`, which are searched from the left and
do not overlap.  An empty `pat` erases nothing. -/
def erase (s pat : Text) : Text := eraseAfter pat 0 s

/-! ### Lines -/

/-- A text without the carriage return at its end, if there is one. -/
def dropReturn (s : Text) : Text := dropLastIf (· = '\r') s

/-- The lines of a text cut at its line feeds: all but the last piece were ended by a
line feed and lose a carriage return before it; an empty last piece is no line. -/
def linesOfPieces : List Text → List Text
  | [] => []
  | [last] => if last.isEmpty then [] else [last]
  | piece :: pieces => dropReturn piece :: linesOfPieces pieces

/-- The lines of a text, each without its line end, which is a line feed or a carriage
return and a line feed. -/
def lines (s : Text) : List Text := linesOfPieces (pieces '\n' s)

@[simp] theorem lines_nil : lines [] = [] := rfl

/-! ### Numbers -/

/-- The decimal digits of a number. -/
def ofNat (n : Nat) : Text := Nat.toDigits 10 n

end Text

end MergeMessage
