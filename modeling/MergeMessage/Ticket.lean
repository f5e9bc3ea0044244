import MergeMessage.Text.Blank

/-!
# Tickets

A ticket id is an issue tracker's key such as `ECHO-1234`: capital letters, a hyphen and
digits, all of them ASCII.  Ids are read from the left and as long as they get, so
`ECHO-12` holds the one id `ECHO-12` and does not mention `ECHO-1`.

## Main definitions

* `IsTicketId` — the form of an id.
* `Ticket.ids` — the ids in a text, in order.
* `Ticket.mentions` — is an id one of those of a text?
* `Ticket` — an id with the title that a page gives it; `Ticket.ofLink?`, `Ticket.ofText?`.
-/

namespace MergeMessage

/-- The form of a ticket id: a non-empty run of ASCII capitals, a hyphen and a non-empty
run of ASCII digits. -/
def IsTicketId (id : Text) : Prop :=
  ∃ project number : Text, project ≠ [] ∧ number ≠ [] ∧ (∀ c ∈ project, c.isUpper = true) ∧
    (∀ c ∈ number, c.isDigit = true) ∧ id = project ++ '-' :: number

/-- A ticket that a pull request belongs to. -/
structure Ticket where
  /-- The key in the issue tracker. -/
  id : Text
  /-- What a page calls the ticket, or nothing. -/
  title : Text
  deriving DecidableEq, Repr, Inhabited

namespace Ticket

/-! ### Ids in a text -/

/-- The id that starts a text, as long as it gets. -/
def idAt? (s : Text) : Option Text :=
  match s.takeWhile Char.isUpper, s.dropWhile Char.isUpper with
  | [], _ => none
  | project, '-' :: rest =>
    match rest.takeWhile Char.isDigit with
    | [] => none
    | number => some (project ++ '-' :: number)
  | _, _ => none

/-- The ids of a text whose first `skip` characters are already read. -/
def idsAfter : Nat → Text → List Text
  | _, [] => []
  | skip + 1, _ :: s => idsAfter skip s
  | 0, c :: s =>
    match idAt? (c :: s) with
    | some id => id :: idsAfter (id.length - 1) s
    | none => idsAfter 0 s

/-- The ids of a text from left to right; none overlaps the one before it. -/
def ids (s : Text) : List Text := idsAfter 0 s

/-- The first id of a text. -/
def firstId? (s : Text) : Option Text := (ids s).head?

/-- Is `id` one of the ids of the text? -/
def mentions (s id : Text) : Bool := (ids s).contains id

@[simp] theorem ids_nil : ids [] = [] := rfl

@[simp] theorem firstId?_nil : firstId? [] = none := rfl

theorem mentions_iff {s id : Text} : mentions s id = true ↔ id ∈ ids s := by
  simp [mentions]

/-! ### Tickets of a pull request -/

/-- The ticket behind a link: the id comes from the address, the title is the text of the
link without the id. -/
def ofLink? (address label : Text) : Option Ticket :=
  (firstId? address).map fun id => ⟨id, (label.erase id).trim⟩

/-- The ticket that a text such as a branch name speaks of; it has no title. -/
def ofText? (s : Text) : Option Ticket := (firstId? s).map fun id => ⟨id, []⟩

@[simp] theorem ofText?_eq_none_iff {s : Text} : ofText? s = none ↔ firstId? s = none := by
  simp [ofText?]

end Ticket

end MergeMessage
