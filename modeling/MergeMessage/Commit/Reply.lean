import MergeMessage.Commit.Subject
import MergeMessage.Text.Alphabetic
import MergeMessage.Text.LetterCase
import MergeMessage.Ticket

/-!
# Commit messages out of model replies

A language model wraps the message it was asked for in code fences, quotes and labels, and
its subject line is often close to a well formed header without being one.  A reply is
unwrapped, its subject is repaired, and the ticket moves from the subject to a footer.

## Main definitions

* `unwrap` — a reply without fence, quotes and label.
* `dropTicket` — a subject without the mentions of a ticket.
* `sentenceCase` — a description that starts small, with Title Case brought down.
* `tidySubject` — the repaired subject.
* `messageOfReply` — the commit message in a reply.
-/

namespace MergeMessage.Commit

/-! ### Wrapping -/

/-- The marks of a code fence. -/
def fence : Text := "\x60\x60\x60".toList

/-- What follows an opening fence.  A single word on the line of the fence names a language
and is dropped with its line; a line with a space or a colon in it is text. -/
def dropOpeningFence (s : Text) : Text :=
  match fence.isPrefixOf? s with
  | none => s
  | some rest =>
    match Text.splitOnce? rest ['\n'] with
    | some (info, body) =>
      if (Text.trim info).any (fun c => c == ' ' || c == ':') then rest else body
    | none => rest

/-- What stands before a closing fence at the end. -/
def dropClosingFence (s : Text) : Text := (fence.isSuffixOf? s).getD s

/-- Is the character a straight quote? -/
def isQuoteMark (c : Char) : Bool := c == '"' || c == '\''

/-- The label that may stand before a message. -/
def label : Text := "commit message:".toList

/-- The small ASCII letter that a character stands for when case is ignored.  The long s is a
form of the letter s, and the Kelvin sign one of the letter k. -/
def foldCase (c : Char) : Char :=
  if c.toNat = 0x17F then 's' else if c.toNat = 0x212A then 'k' else c.toLower

/-- What follows the label in either case, and the blank characters after it. -/
def dropLabel (s : Text) : Text :=
  if label.isPrefixOf (s.map foldCase) then (s.drop label.length).dropWhile isBlank else s

/-- A reply without the fence, the quotes and the label around the message. -/
def unwrap (reply : Text) : Text :=
  let bare := (dropClosingFence (dropOpeningFence reply.trim)).trim
  dropLabel ((bare.dropFirstIf isQuoteMark).dropLastIf isQuoteMark)

/-! ### Ticket mentions in a subject -/

/-- The character before the rest of a text, once the characters `read` were passed. -/
def lastRead (before : Option Char) (read : Text) : Option Char :=
  match read.getLast? with
  | some c => some c
  | none => before

/-- How many characters a mention of `id` takes that starts after the blank characters
`lead`: these, the id between word boundaries, and all the blank characters after it. -/
def mentionAfter? (id : Text) (before : Option Char) (lead rest : Text) : Option Nat :=
  let before := lastRead before lead
  if !isWordBoundary before rest.head? then none
  else match id.isPrefixOf? rest with
    | none => none
    | some after =>
      if isWordBoundary (lastRead before id) after.head? then
        some (lead.length + id.length + (after.takeWhile isBlank).length)
      else none

/-- How many characters a mention of `id` takes at the front of a text that follows the
character `before`.  As many blank characters as possible are counted before the id; fewer
than `count` only if the id itself starts with blank characters. -/
def mentionWithin? (id : Text) (before : Option Char) (s : Text) : Nat → Option Nat
  | 0 => mentionAfter? id before [] s
  | count + 1 =>
    match mentionAfter? id before (s.take (count + 1)) (s.drop (count + 1)) with
    | some n => some n
    | none => mentionWithin? id before s count

/-- How many characters a mention of `id` takes at the front of a text, together with the
blank characters around it. -/
def mentionAt? (id : Text) (before : Option Char) (s : Text) : Option Nat :=
  mentionWithin? id before s (s.takeWhile isBlank).length

/-- The text with a space for every mention of `id`.  The first `skip` characters belong to a
mention and are dropped; `before` is the last character read, and `touching` says that a
mention ends here, where a mention of no characters does not count again. -/
def blankTicketFrom (id : Text) : Nat → Option Char → Bool → Text → Text
  | 0, before, touching, [] =>
    if touching then []
    else match mentionAt? id before [] with
      | some _ => [' ']
      | none => []
  | _ + 1, _, _, [] => []
  | skip + 1, _, _, c :: s => blankTicketFrom id skip (some c) true s
  | 0, before, touching, c :: s =>
    match mentionAt? id before (c :: s) with
    | some (n + 1) => ' ' :: blankTicketFrom id n (some c) true s
    | some 0 => (if touching then [c] else [' ', c]) ++ blankTicketFrom id 0 (some c) false s
    | none => c :: blankTicketFrom id 0 (some c) false s

/-- The text with a space for every mention of `id`, which takes the blank characters around
it along. -/
def blankTicket (id s : Text) : Text := blankTicketFrom id 0 none false s

/-- The text with a single space for each run of two or more blank characters; `inRun` says
that the run which the text starts with has been replaced. -/
def collapseBlanksFrom : Bool → Text → Text
  | _, [] => []
  | inRun, c :: s =>
    if isBlank c then
      if inRun then collapseBlanksFrom true s
      else if s.head?.any isBlank then ' ' :: collapseBlanksFrom true s
      else c :: collapseBlanksFrom false s
    else c :: collapseBlanksFrom false s

/-- The text with a single space for each run of two or more blank characters. -/
def collapseBlanks (s : Text) : Text := collapseBlanksFrom false s

/-- A subject without the mentions of a ticket. -/
def dropTicket (id subject : Text) : Text := collapseBlanks (blankTicket id subject).trim

/-! ### Descriptions -/

/-- Does the word start with an alphabetic character? -/
def startsAlphabetic (word : Text) : Bool := word.head?.any isAlphabetic

/-- Does the word start with an uppercase character? -/
def startsUppercase (word : Text) : Bool := word.head?.any isUppercase

/-- Are there at least two words, and do all that start with an alphabetic character start
with an uppercase one? -/
def isTitleCased (words : List Text) : Bool :=
  words.length > 1 && (words.filter startsAlphabetic).all startsUppercase

/-- Is the character a mark that may end a word? -/
def isWordEndMark (c : Char) : Bool := c == '.' || c == '!' || c == '?' || c == ','

/-- Is the word, without the marks at its end, one uppercase character followed by lowercase
ones only?  An acronym or an identifier is not. -/
def isCapitalizedWord (word : Text) : Bool :=
  match word.dropEndWhile isWordEndMark with
  | [] => false
  | c :: s => isUppercase c && s.all isLowercase

/-- The text with its first character in lowercase. -/
def lowerFirst : Text → Text
  | [] => []
  | c :: s => lowerChar c ++ s

/-- The description in sentence case: its first character is lowercase, and if it is Title
Cased, so are its capitalized words. -/
def sentenceCase (description : Text) : Text :=
  let words := description.pieces ' '
  if isTitleCased words then
    Text.join [' '] (words.map fun word => if isCapitalizedWord word then word.lower else word)
  else lowerFirst description

/-- Is the character a full stop, an exclamation mark or a question mark? -/
def isFinalMark (c : Char) : Bool := c == '.' || c == '!' || c == '?'

/-- The description in sentence case without punctuation at its end. -/
def tidyDescription (description : Text) : Text :=
  (sentenceCase description).dropEndWhile isFinalMark

/-! ### Subjects -/

open Subject

/-- The scope in lowercase, with hyphens for blank characters. -/
def tidyScope (scope : Text) : Text :=
  ((Text.dropEndWhile (· == ')') (scope.dropWhile (· == '('))).trim.squeeze ['-']).lower

/-- The subject without blank characters between the type and an opening parenthesis. -/
def closeScopeGap (subject : Text) : Text :=
  match run? Char.isAlpha subject with
  | some (kind, rest) =>
    match run? isBlank rest with
    | some (_, '(' :: rest) => kind ++ '(' :: rest
    | _ => subject
  | none => subject

/-- The subject with a colon after the scope, if only blank characters stand there. -/
def insertColon (subject : Text) : Text :=
  match run? Char.isAlpha subject with
  | some (_, rest) =>
    match scope? rest with
    | some (_, rest) =>
      match run? isBlank (dropBang rest) with
      | some (blanks, rest) =>
        if rest.head? = some ':' then subject
        else subject.take (subject.length - (blanks.length + rest.length)) ++ ':' :: ' ' :: rest
      | none => subject
    | none => subject
  | none => subject

/-- The parts of a subject in the loose form: a type of ASCII letters, an optional scope of
any text, an optional exclamation mark, a colon, blank characters and a description. -/
def looseHeader? (subject : Text) : Option Header :=
  match run? Char.isAlpha subject with
  | none => none
  | some (kind, rest) =>
    let scope := (scope? rest).map Prod.fst
    let rest := dropScope rest
    match dropBang rest with
    | ':' :: tail =>
      some ⟨kind, scope, rest.head? == some '!', tail.dropWhile isBlank⟩
    | _ => none

/-- The header in the strict form. -/
def tidyHeader (h : Header) : Header :=
  ⟨h.kind.lower, h.scope.map tidyScope, h.breaking, tidyDescription h.description⟩

/-- The subject line of a reply in the strict form, without the ticket; a line that is no
header in the loose form stays. -/
def tidySubject (ticket : Option Text) (subject : Text) : Text :=
  let subject := match ticket with
    | some id => dropTicket id subject
    | none => subject
  let subject := insertColon (closeScopeGap subject)
  match looseHeader? subject with
  | some h => (tidyHeader h).render
  | none => subject

/-! ### Messages -/

/-- The message with a footer for the ticket, unless it mentions the ticket already. -/
def withFooter (ticket : Option Text) (message : Text) : Text :=
  match ticket with
  | some id => if Ticket.mentions message id then message else message ++ '\n' :: '\n' :: id
  | none => message

/-- The text with its first line changed by `f`. -/
def mapFirstLine (f : Text → Text) (s : Text) : Text :=
  match s.pieces '\n' with
  | [] => []
  | line :: lines => Text.join ['\n'] (f line :: lines)

/-- The commit message in a model's reply: unwrapped, with a repaired subject and with the
ticket in a footer. -/
def messageOfReply (reply : Text) (ticket : Option Text) : Text :=
  withFooter ticket (mapFirstLine (tidySubject ticket) (unwrap reply))

end MergeMessage.Commit
