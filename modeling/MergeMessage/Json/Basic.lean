import MergeMessage.Text.Hex

/-!
# JSON values

A JSON text is read into a tree.  Numbers keep their spelling, since only whole numbers of a
given size are ever asked for.  A string written with escapes for lone halves of surrogate
pairs stands for no text; it is kept as such, because a reader may pass it over.

## Main definitions

* `Json` — the trees.
* `Json.Piece`, `Json.assemble?` — what a string is written as, and the text that it stands for.
* `Json.string?` — the rest of a string literal.
* `Json.escapeString`, `Json.render` — the compact text of a value.
-/

namespace MergeMessage

/-- A JSON value. -/
inductive Json
  /-- The null value. -/
  | null
  /-- A truth value. -/
  | bool (value : Bool)
  /-- A number, as it is spelled. -/
  | number (literal : Text)
  /-- A string, with the text that it stands for, if it does. -/
  | string (value : Option Text)
  /-- An array. -/
  | array (items : List Json)
  /-- An object, with its members in the order of the text; a key may occur more than once. -/
  | object (members : List (Option Text × Json))
  deriving Inhabited

namespace Json

/-- A string that stands for this text. -/
def text (s : Text) : Json := .string (some s)

/-- A whole number. -/
def nat (n : Nat) : Json := .number (Text.ofNat n)

/-- An object with these members. -/
def ofMembers (members : List (String × Json)) : Json :=
  .object (members.map fun (key, value) => (some key.toList, value))

/-! ### Strings -/

/-- Is the character one that may stand between the parts of a JSON text? -/
def isGap (c : Char) : Bool := c == ' ' || c == '\t' || c == '\n' || c == '\r'

/-- A part of a string literal. -/
inductive Piece
  /-- A character, written as such or as an escape. -/
  | char (c : Char)
  /-- The escape of one half of a surrogate pair. -/
  | surrogate (unit : Nat)
  deriving DecidableEq, Repr

/-- The value of four hexadecimal digits. -/
def hex4? (a b c d : Char) : Option Nat := do
  let a ← hexDigit? a
  let b ← hexDigit? b
  let c ← hexDigit? c
  let d ← hexDigit? d
  return ((a * 16 + b) * 16 + c) * 16 + d

/-- What a 16 bit unit stands for on its own. -/
def Piece.ofUnit (unit : Nat) : Piece :=
  if 0xD800 ≤ unit && unit < 0xE000 then .surrogate unit else .char (Char.ofNat unit)

/-- The character that a letter stands for after a backslash. -/
def escaped? : Char → Option Char
  | '"' => some '"'
  | '\\' => some '\\'
  | '/' => some '/'
  | 'b' => some '\x08'
  | 'f' => some '\x0c'
  | 'n' => some '\n'
  | 'r' => some '\r'
  | 't' => some '\t'
  | _ => none

/-- The pieces of a string literal whose opening quote is read, and what follows its closing
quote.  Control characters must be escaped. -/
def pieces? : Text → Option (List Piece × Text)
  | [] => none
  | '"' :: s => some ([], s)
  | '\\' :: 'u' :: a :: b :: c :: d :: s =>
    match hex4? a b c d with
    | none => none
    | some unit => (pieces? s).map fun (ps, rest) => (.ofUnit unit :: ps, rest)
  | '\\' :: e :: s =>
    match escaped? e with
    | none => none
    | some c => (pieces? s).map fun (ps, rest) => (.char c :: ps, rest)
  | c :: s =>
    if c.toNat < 0x20 || c = '\\' then none
    else (pieces? s).map fun (ps, rest) => (.char c :: ps, rest)

/-- The character that two halves of a surrogate pair stand for. -/
def pair? (high low : Nat) : Option Char :=
  if high < 0xDC00 && 0xDC00 ≤ low then
    some (Char.ofNat (0x10000 + (high - 0xD800) * 0x400 + (low - 0xDC00)))
  else none

/-- The text that the pieces of a literal stand for; halves of surrogate pairs must be paired. -/
def assemble? : List Piece → Option Text
  | [] => some []
  | .char c :: ps => (assemble? ps).map (c :: ·)
  | .surrogate high :: .surrogate low :: ps =>
    match pair? high low with
    | some c => (assemble? ps).map (c :: ·)
    | none => none
  | .surrogate _ :: _ => none

/-- The text of a string literal whose opening quote is read, if it stands for one, and what
follows its closing quote. -/
def string? (s : Text) : Option (Option Text × Text) :=
  (pieces? s).map fun (ps, rest) => (assemble? ps, rest)

/-! ### Printing -/

/-- A character as it stands in a string literal. -/
def escapeChar (c : Char) : Text :=
  if c = '"' || c = '\\' then ['\\', c]
  else if c = '\n' then ['\\', 'n']
  else if c = '\r' then ['\\', 'r']
  else if c = '\t' then ['\\', 't']
  else if c = '\x08' then ['\\', 'b']
  else if c = '\x0c' then ['\\', 'f']
  else if c.toNat < 0x20 then
    "\\u00".toList ++ (if c.toNat < 0x10 then ['0'] else []) ++ Nat.toDigits 16 c.toNat
  else [c]

/-- The string literal of a text. -/
def escapeString (s : Text) : Text := '"' :: s.flatMap escapeChar ++ ['"']

mutual

/-- The text of a value without blanks between its parts. -/
def render : Json → Text
  | .null => "null".toList
  | .bool true => "true".toList
  | .bool false => "false".toList
  | .number literal => literal
  | .string value => escapeString (value.getD [])
  | .array items => '[' :: Text.join [','] (renderItems items) ++ [']']
  | .object members => '{' :: Text.join [','] (renderMembers members) ++ ['}']

/-- The texts of the items of an array. -/
def renderItems : List Json → List Text
  | [] => []
  | item :: items => render item :: renderItems items

/-- The texts of the members of an object. -/
def renderMembers : List (Option Text × Json) → List Text
  | [] => []
  | (key, value) :: members =>
    (escapeString (key.getD []) ++ ':' :: render value) :: renderMembers members

end

end Json

end MergeMessage
