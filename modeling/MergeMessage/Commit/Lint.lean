import MergeMessage.Commit.Subject
import MergeMessage.Text.Alphabetic
import MergeMessage.Ticket

/-!
# Checking commit messages

A draft of a commit message is checked against sixteen rules in a fixed order, and the
first one that it breaks is reported.  The rules that block a merge come before those that
only advise, so a remark never hides an error.

## Main definitions

* `Finding` — what can be wrong with a message; `Finding.severity`, `Finding.message`.
* `Draft` — a message with the parts that the rules look at.
* `rules` — the sixteen rules, in their order.
* `lint` — the first finding on a message, if any.
-/

namespace MergeMessage.Commit

/-! ### Findings -/

/-- How serious an outcome is. -/
inductive Severity
  /-- Nothing was found. -/
  | none
  /-- Advice. -/
  | warning
  /-- A reason not to merge. -/
  | error
  deriving DecidableEq, Repr

/-- The name of a severity. -/
def Severity.name : Severity → Text
  | .none => "none".toList
  | .warning => "warning".toList
  | .error => "error".toList

/-- Severities in order. -/
def Severity.rank : Severity → Nat
  | .none => 0
  | .warning => 1
  | .error => 2

/-- What can be wrong with a commit message. -/
inductive Finding
  /-- There is no text. -/
  | noMessage
  /-- The message starts with a ticket id. -/
  | leadingTicket
  /-- No colon stands between the scope and the description. -/
  | scopeWithoutColon
  /-- Blank characters stand between the type and the scope. -/
  | spaceBeforeScope
  /-- The type has a capital letter. -/
  | uppercaseType
  /-- The scope is not in kebab case. -/
  | scopeNotKebab
  /-- The subject has not the form of a header. -/
  | malformedSubject
  /-- The type is none of the standard ones. -/
  | unknownType (kind : Text)
  /-- Nothing follows the colon. -/
  | missingDescription
  /-- The description starts with a capital letter. -/
  | uppercaseDescription
  /-- The description ends in a punctuation mark. -/
  | endPunctuation
  /-- The subject is longer than the limit. -/
  | subjectTooLong
  /-- The subject is longer than is easy to read. -/
  | subjectLong
  /-- The subject mentions the ticket. -/
  | ticketInSubject (id : Text)
  /-- The ticket is not in the body. -/
  | ticketNotInFooter (id : Text)
  /-- The ticket of the pull request is nowhere in the message. -/
  | contextTicketMissing (id : Text)
  deriving DecidableEq, Repr

/-- The greatest number of characters of a subject. -/
def subjectLimit : Nat := 72

/-- The greatest number of characters of a subject that is easy to read. -/
def subjectPreferred : Nat := 50

namespace Finding

/-- How serious a finding is. -/
def severity : Finding → Severity
  | noMessage | leadingTicket | scopeWithoutColon | spaceBeforeScope | uppercaseType
  | scopeNotKebab | malformedSubject | unknownType _ | missingDescription => .error
  | uppercaseDescription | endPunctuation | subjectTooLong | subjectLong | ticketInSubject _
  | ticketNotInFooter _ | contextTicketMissing _ => .warning

/-- What the author is told. -/
def message : Finding → Text
  | noMessage => "Add a commit message; an empty commit message can't be merged.".toList
  | leadingTicket => "Move the ticket to the end, not the start.".toList
  | scopeWithoutColon => "Add a colon after the scope: type(scope): description".toList
  | spaceBeforeScope => "Remove the space before the scope: type(scope):".toList
  | uppercaseType => "Type should be lowercase (e.g. feat, fix, chore).".toList
  | scopeNotKebab => "Scope should be kebab-case (e.g. user-auth).".toList
  | malformedSubject => "Try: type(scope): description or type: description".toList
  | unknownType kind =>
    '"' :: kind ++ "\" isn't a standard type. Try feat, fix, chore, etc.".toList
  | missingDescription => "Add a description after the colon.".toList
  | uppercaseDescription => "Lowercase descriptions are preferred.".toList
  | endPunctuation => "Skip the ending punctuation.".toList
  | subjectTooLong =>
    "Keep the subject line under ".toList ++ Text.ofNat subjectLimit ++ " characters.".toList
  | subjectLong =>
    "Subject lines under ".toList ++ Text.ofNat subjectPreferred ++
      " characters are easier to read.".toList
  | ticketInSubject id => "Consider moving ".toList ++ id ++ " to the footer.".toList
  | ticketNotInFooter id =>
    "The ticket ".toList ++ id ++ " works best in the footer.".toList
  | contextTicketMissing id =>
    "Add the ticket (".toList ++ id ++
      ") from the pull request title to the commit.".toList

end Finding

/-! ### Drafts -/

/-- The subject of a message: its first line. -/
def subjectOf (message : Text) : Text := message.lines.headD []

/-- The description in a subject: what follows the first colon with a space after it. -/
def descriptionOf (subject : Text) : Text :=
  match subject.splitOnce? [':', ' '] with
  | some (_, description) => description
  | none => []

/-- A message with the parts that the rules look at. -/
structure Draft where
  /-- The message without blank characters at its ends. -/
  message : Text
  /-- Its first line. -/
  subject : Text
  /-- The description in the first line. -/
  description : Text
  /-- The first ticket id of the message. -/
  ticket : Option Text
  /-- The first ticket id of the pull request's title. -/
  contextTicket : Option Text
  deriving DecidableEq, Repr

/-- The draft of a message for a pull request with this title. -/
def Draft.ofMessage (message : Text) (title : Option Text) : Draft :=
  let message := message.trim
  { message
    subject := subjectOf message
    description := descriptionOf (subjectOf message)
    ticket := Ticket.firstId? message
    contextTicket := title.bind Ticket.firstId? }

/-- The lines after the subject. -/
def Draft.bodyLines (d : Draft) : List Text := d.message.lines.drop 1

/-! ### Rules -/

/-- A rule finds something wrong with a draft, or nothing. -/
abbrev Rule := Draft → Option Finding

namespace Rule

open Subject

/-- A rule that reports one finding under a condition. -/
def when (condition : Draft → Bool) (finding : Finding) : Rule := fun d =>
  if condition d then some finding else none

/-- Does the message start with a ticket id? -/
def startsWithTicket (message : Text) : Bool := (Ticket.idAt? message).isSome

/-- Does a word follow the type and the scope, with blank characters but no colon before it? -/
def lacksColon (message : Text) : Bool :=
  match run? Char.isLower message with
  | some (_, rest) =>
    match scope? rest with
    | some (_, rest) =>
      match run? isBlank (dropBang rest) with
      | some (_, c :: _) => isWordChar c
      | _ => false
    | none => false
  | none => false

/-- Does an opening parenthesis follow the type, with blank characters before it? -/
def hasSpaceBeforeScope (message : Text) : Bool :=
  match run? Char.isLower message with
  | some (_, rest) =>
    match run? isBlank rest with
    | some (_, c :: _) => c == '('
    | _ => false
  | none => false

/-- Does the message start with a type that has a capital letter? -/
def hasUppercaseType (message : Text) : Bool :=
  match run? Char.isAlpha message with
  | some (kind, c :: _) => (c == '(' || c == '!' || c == ':') && kind.any Char.isUpper
  | _ => false

/-- Does the message start with a type and a scope before a colon, the scope not being in
kebab case? -/
def hasNonKebabScope (message : Text) : Bool :=
  match run? Char.isLower message with
  | some (_, rest) =>
    match scope? rest with
    | some (scope, rest) =>
      match dropBang rest with
      | ':' :: _ => !scope.all isKebab
      | _ => false
    | none => false
  | none => false

/-- The message has no text. -/
def noMessage : Rule := when (·.message.isEmpty) .noMessage

/-- The message starts with a ticket id. -/
def leadingTicket : Rule := when (fun d => startsWithTicket d.message) .leadingTicket

/-- No colon stands between the scope and the description. -/
def scopeWithoutColon : Rule := when (fun d => lacksColon d.message) .scopeWithoutColon

/-- Blank characters stand between the type and the scope. -/
def spaceBeforeScope : Rule := when (fun d => hasSpaceBeforeScope d.message) .spaceBeforeScope

/-- The type has a capital letter. -/
def uppercaseType : Rule := when (fun d => hasUppercaseType d.message) .uppercaseType

/-- The scope is not in kebab case. -/
def scopeNotKebab : Rule := when (fun d => hasNonKebabScope d.message) .scopeNotKebab

/-- The message does not start with a well formed header. -/
def malformedSubject : Rule := when (fun d => (kindOf? d.message).isNone) .malformedSubject

/-- The type is none of the standard ones. -/
def unknownType : Rule := fun d =>
  (kindOf? d.message).bind fun kind =>
    if standardTypes.contains kind then none else some (.unknownType kind)

/-- Nothing follows the colon. -/
def missingDescription : Rule := when (·.description.isEmpty) .missingDescription

/-- The description starts with an ASCII capital. -/
def uppercaseDescription : Rule :=
  when (·.description.head?.any Char.isUpper) .uppercaseDescription

/-- Is the character a full stop, an exclamation mark or a question mark? -/
def isEndMark (c : Char) : Bool := c == '.' || c == '!' || c == '?'

/-- The description ends in a punctuation mark. -/
def endPunctuation : Rule := when (·.description.getLast?.any isEndMark) .endPunctuation

/-- The subject is longer than the limit. -/
def subjectTooLong : Rule := when (fun d => d.subject.length > subjectLimit) .subjectTooLong

/-- The subject is longer than is easy to read. -/
def subjectLong : Rule := when (fun d => d.subject.length > subjectPreferred) .subjectLong

/-- The subject mentions the first ticket of the message. -/
def ticketInSubject : Rule := fun d =>
  d.ticket.bind fun id => when (fun d => Ticket.mentions d.subject id) (.ticketInSubject id) d

/-- No line after the subject mentions the first ticket of the message. -/
def ticketNotInFooter : Rule := fun d =>
  d.ticket.bind fun id =>
    when (fun d => !d.bodyLines.any (Ticket.mentions · id)) (.ticketNotInFooter id) d

/-- The message does not mention the first ticket of the pull request's title. -/
def contextTicketMissing : Rule := fun d =>
  d.contextTicket.bind fun id =>
    when (fun d => !Ticket.mentions d.message id) (.contextTicketMissing id) d

end Rule

open Rule in
/-- The rules in the order in which they are tried: those that block a merge come first. -/
def rules : List Rule :=
  [noMessage, leadingTicket, scopeWithoutColon, spaceBeforeScope, uppercaseType, scopeNotKebab,
    malformedSubject, unknownType, missingDescription, uppercaseDescription, endPunctuation,
    subjectTooLong, subjectLong, ticketInSubject, ticketNotInFooter, contextTicketMissing]

/-! ### Verdicts -/

/-- The outcome of checking a message: the first finding, or `none` for a valid message. -/
abbrev Verdict := Option Finding

/-- The verdict on a message for a pull request with this title. -/
def lint (message : Text) (title : Option Text) : Verdict :=
  rules.findSome? (· (Draft.ofMessage message title))

namespace Verdict

/-- Is there nothing to report? -/
def isValid (v : Verdict) : Bool := v.isNone

/-- The severity of the finding. -/
def severity : Verdict → Severity
  | none => .none
  | some finding => finding.severity

/-- What the author is told: at most one text. -/
def errors (v : Verdict) : List Text := (v.map Finding.message).toList

/-- Must the merge be refused? -/
def blocksMerge (v : Verdict) : Bool := v.severity == .error

@[simp] theorem isValid_none : isValid none = true := rfl

@[simp] theorem isValid_some (finding : Finding) : isValid (some finding) = false := rfl

@[simp] theorem severity_none : severity none = .none := rfl

@[simp] theorem severity_some (finding : Finding) :
    severity (some finding) = finding.severity := rfl

end Verdict

end MergeMessage.Commit
