import MergeMessage.Text.Hex
import MergeMessage.Toml.Basic

/-!
# Texts in settings files

A text stands between quotes.  Between double quotes a backslash starts an escape; between
single quotes every character stands for itself.  Between three quotes of a kind a text may run
over lines; a line end right after the opening quotes does not count, up to two quotes may stand
right before the closing ones, and, between double quotes, a backslash at the end of a line
hides the line end and all blanks and line ends after it.

## Main definitions

* `Toml.basic?`, `Toml.literal?` — a text on one line.
* `Toml.longBasicFrom?`, `Toml.longLiteralFrom?` — a text that may run over lines.
* `Toml.text?` — a text in any of the four forms.
-/

namespace MergeMessage.Toml

/-! ### Escapes -/

/-- The character that a letter stands for after a backslash. -/
def escaped? : Char → Option Char
  | 'b' => some '\x08'
  | 't' => some '\t'
  | 'n' => some '\n'
  | 'f' => some '\x0c'
  | 'r' => some '\r'
  | 'e' => some '\x1b'
  | '"' => some '"'
  | '\\' => some '\\'
  | _ => none

/-! ### On one line -/

/-- The rest of a text between double quotes, and what follows its closing quote. -/
def basic? : Text → Option (Text × Text)
  | [] => none
  | '"' :: s => some ([], s)
  | '\\' :: 'x' :: a :: b :: s => do
    let c ← charOfHex? [a, b]
    let (content, rest) ← basic? s
    return (c :: content, rest)
  | '\\' :: 'u' :: a :: b :: c :: d :: s => do
    let c ← charOfHex? [a, b, c, d]
    let (content, rest) ← basic? s
    return (c :: content, rest)
  | '\\' :: 'U' :: a :: b :: c :: d :: e :: f :: g :: h :: s => do
    let c ← charOfHex? [a, b, c, d, e, f, g, h]
    let (content, rest) ← basic? s
    return (c :: content, rest)
  | '\\' :: e :: s => do
    let c ← escaped? e
    let (content, rest) ← basic? s
    return (c :: content, rest)
  | c :: s =>
    if isTextChar c && c ≠ '\\' then (basic? s).map fun (content, rest) => (c :: content, rest)
    else none

/-- The rest of a text between single quotes, and what follows its closing quote. -/
def literal? (s : Text) : Option (Text × Text) :=
  match s.takeWhile (· ≠ '\''), s.dropWhile (· ≠ '\'') with
  | content, _ :: rest => if content.all isTextChar then some (content, rest) else none
  | _, [] => none

/-! ### Over lines -/

/-- The quotes that belong to a text although they stand right before what follows its three
closing quotes, which are read: at most two. -/
def spareQuotes (quote : Char) : Text → Text × Text
  | a :: b :: s =>
    if a = quote then if b = quote then ([a, b], s) else ([a], b :: s) else ([], a :: b :: s)
  | [a] => if a = quote then ([a], []) else ([], [a])
  | [] => ([], [])

/-- Is the rest of the line blank, so that a backslash before it hides the line end? -/
def hidesLineEnd (s : Text) : Bool := (newline? (skipBlanks s)).isSome

/-- The rest of a text between three double quotes, and what follows its closing quotes;
`hidden` says that blanks and line ends do not count until another character comes. -/
def longBasicFrom? : (hidden : Bool) → Text → Option (Text × Text)
  | _, [] => none
  | _, '"' :: '"' :: '"' :: s => some (spareQuotes '"' s)
  | hidden, '\r' :: '\n' :: s =>
    if hidden then longBasicFrom? true s
    else (longBasicFrom? false s).map fun (content, rest) => ('\r' :: '\n' :: content, rest)
  | hidden, '\n' :: s =>
    if hidden then longBasicFrom? true s
    else (longBasicFrom? false s).map fun (content, rest) => ('\n' :: content, rest)
  | _, '\\' :: 'x' :: a :: b :: s => do
    let c ← charOfHex? [a, b]
    let (content, rest) ← longBasicFrom? false s
    return (c :: content, rest)
  | _, '\\' :: 'u' :: a :: b :: c :: d :: s => do
    let c ← charOfHex? [a, b, c, d]
    let (content, rest) ← longBasicFrom? false s
    return (c :: content, rest)
  | _, '\\' :: 'U' :: a :: b :: c :: d :: e :: f :: g :: h :: s => do
    let c ← charOfHex? [a, b, c, d, e, f, g, h]
    let (content, rest) ← longBasicFrom? false s
    return (c :: content, rest)
  | _, '\\' :: e :: s =>
    match escaped? e with
    | some c => (longBasicFrom? false s).map fun (content, rest) => (c :: content, rest)
    | none => if hidesLineEnd (e :: s) then longBasicFrom? true (e :: s) else none
  | hidden, c :: s =>
    if hidden && isBlank c then longBasicFrom? true s
    else if isTextChar c && c ≠ '\\' then
      (longBasicFrom? false s).map fun (content, rest) => (c :: content, rest)
    else none

/-- The rest of a text between three single quotes, and what follows its closing quotes. -/
def longLiteralFrom? : Text → Option (Text × Text)
  | [] => none
  | '\'' :: '\'' :: '\'' :: s => some (spareQuotes '\'' s)
  | '\r' :: '\n' :: s =>
    (longLiteralFrom? s).map fun (content, rest) => ('\r' :: '\n' :: content, rest)
  | c :: s =>
    if isTextChar c || c = '\n' then
      (longLiteralFrom? s).map fun (content, rest) => (c :: content, rest)
    else none

/-- The text without a line end at its front. -/
def dropNewline (s : Text) : Text := (newline? s).getD s

/-- The text at the front of a file, if there is one: between quotes of either kind. -/
def text? : Text → Option (Text × Text)
  | '"' :: '"' :: '"' :: s => longBasicFrom? false (dropNewline s)
  | '"' :: s => basic? s
  | '\'' :: '\'' :: '\'' :: s => longLiteralFrom? (dropNewline s)
  | '\'' :: s => literal? s
  | _ => none

@[simp] theorem basic?_nil : basic? [] = none := rfl

@[simp] theorem longLiteralFrom?_nil : longLiteralFrom? [] = none := rfl

end MergeMessage.Toml
