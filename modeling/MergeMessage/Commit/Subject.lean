import MergeMessage.Text.Blank

/-!
# Subject lines

The first line of a commit message has the form `type(scope)!: description`, where the
scope in parentheses and the exclamation mark of a breaking change are optional.  The
readers here take such parts off the front of a text.

## Main definitions

* `Header` — the parts of a well formed subject line, and `Header.render`, its text.
* `Subject.run?` — a non-empty run of characters of a class.
* `Subject.scope?` — a non-empty text in parentheses.
* `Subject.kindOf?` — the type of a message that starts with a well formed header.
-/

namespace MergeMessage.Commit

/-- The standard types of a change. -/
def standardTypes : List Text :=
  ["build", "chore", "ci", "docs", "feat", "fix", "perf", "refactor", "revert", "style",
    "test"].map String.toList

/-- The parts of a subject line. -/
structure Header where
  /-- What kind of change it is. -/
  kind : Text
  /-- The part of the program that changes. -/
  scope : Option Text
  /-- Does the change break its users? -/
  breaking : Bool
  /-- What changes. -/
  description : Text
  deriving DecidableEq, Repr

/-- The text of a scope in a subject line. -/
def renderScope : Option Text → Text
  | none => []
  | some scope => '(' :: scope ++ [')']

/-- The text of a breaking change's mark. -/
def renderBreaking (breaking : Bool) : Text := if breaking then ['!'] else []

/-- The subject line with these parts. -/
def Header.render (h : Header) : Text :=
  h.kind ++ renderScope h.scope ++ renderBreaking h.breaking ++ ':' :: ' ' :: h.description

/-- Is the character one that a scope is made of: a small ASCII letter, an ASCII digit or a
hyphen? -/
def isKebab (c : Char) : Bool := c.isLower || c.isDigit || c == '-'

namespace Subject

/-! ### Parts at the front of a text -/

/-- The longest run of characters of the class `p` and what follows it; the run must not be
empty. -/
def run? (p : Char → Bool) (s : Text) : Option (Text × Text) :=
  match s.takeWhile p with
  | [] => none
  | run => some (run, s.dropWhile p)

/-- The text between an opening parenthesis and the next closing one, and what follows; the
text must not be empty. -/
def scope? : Text → Option (Text × Text)
  | '(' :: s =>
    match run? (· ≠ ')') s with
    | some (scope, ')' :: rest) => some (scope, rest)
    | _ => none
  | _ => none

/-- What follows an optional exclamation mark. -/
def dropBang : Text → Text
  | '!' :: s => s
  | s => s

/-- What follows an optional scope. -/
def dropScope (s : Text) : Text :=
  match scope? s with
  | some (_, rest) => rest
  | none => s

@[simp] theorem run?_nil (p : Char → Bool) : run? p [] = none := rfl

@[simp] theorem scope?_nil : scope? [] = none := rfl

@[simp] theorem dropBang_nil : dropBang [] = [] := rfl

/-! ### The strict form -/

/-- What follows an optional scope of kebab case characters. -/
def dropKebabScope (s : Text) : Text :=
  match scope? s with
  | some (scope, rest) => if scope.all isKebab then rest else s
  | none => s

/-- Does the text start with a colon, a space and one more character of the same line? -/
def startsDescription : Text → Bool
  | ':' :: ' ' :: c :: _ => c ≠ '\n'
  | _ => false

/-- The type of a message that starts with a well formed header: small letters, an optional
scope in kebab case, an optional exclamation mark, a colon, a space and a description. -/
def kindOf? (message : Text) : Option Text :=
  match run? Char.isLower message with
  | some (kind, rest) =>
    if startsDescription (dropBang (dropKebabScope rest)) then some kind else none
  | none => none

end Subject

end MergeMessage.Commit
