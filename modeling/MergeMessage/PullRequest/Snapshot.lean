import MergeMessage.Json.Record
import MergeMessage.Text.Blank

/-!
# Page snapshots

A snapshot is what one view of a pull request's page shows.  It is kept as JSON, and a view
may leave out any part of it.

## Main definitions

* `Snapshot` — the parts of a page; the accessors give them without blanks at their ends.
* `Snapshot.ofJson?` — the snapshot that a JSON text holds.
-/

namespace MergeMessage.PullRequest

/-- What one view of a pull request's page shows. -/
structure Snapshot where
  /-- The address of the view, or its path. -/
  location : Text := []
  /-- The title of the pull request, as it is written. -/
  rawTitle : Text := []
  /-- The description of the pull request, as it is written. -/
  rawDescription : Text := []
  /-- The address that the ticket's link leads to. -/
  ticketAddress : Option Text := none
  /-- The text of the ticket's link, as it is written. -/
  rawTicketLabel : Text := []
  /-- The branch with the changes, as it is written. -/
  rawBranch : Text := []
  deriving DecidableEq, Repr, Inhabited

namespace Snapshot

/-- The title of the pull request. -/
def title (s : Snapshot) : Text := Text.trim s.rawTitle

/-- The description of the pull request. -/
def description (s : Snapshot) : Text := Text.trim s.rawDescription

/-- The text of the ticket's link. -/
def ticketLabel (s : Snapshot) : Text := Text.trim s.rawTicketLabel

/-- The branch with the changes. -/
def branch (s : Snapshot) : Text := Text.trim s.rawBranch

/-- The names of the parts in JSON, in their order. -/
def keys : List Text :=
  ["url", "title", "description", "ticketLinkHref", "ticketLinkText", "sourceBranch"].map
    String.toList

/-- The snapshot that a JSON value stands for; what is left out is empty. -/
def ofValue? (j : Json) : Option Snapshot := do
  match ← j.record? keys with
  | [location, title, description, address, label, branch] =>
    return {
      location := ← location.defaulted? Json.text? []
      rawTitle := ← title.defaulted? Json.text? []
      rawDescription := ← description.defaulted? Json.text? []
      ticketAddress := ← address.defaulted? Json.optionalText? none
      rawTicketLabel := ← label.defaulted? Json.text? []
      rawBranch := ← branch.defaulted? Json.text? [] }
  | _ => none

/-- The snapshot that a JSON text holds. -/
def ofJson? (s : Text) : Option Snapshot := (Json.ofStrict? s).bind ofValue?

end Snapshot

end MergeMessage.PullRequest
