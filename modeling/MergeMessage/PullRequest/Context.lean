import MergeMessage.Log.Entry
import MergeMessage.PullRequest.Key
import MergeMessage.PullRequest.Snapshot
import MergeMessage.Text.Quoted
import MergeMessage.Ticket

/-!
# What is known of a pull request

The description and the ticket of a pull request are shown by some views of its page only.
What a view shows is kept while the page stays the same pull request; at the first view of
another page all of it is dropped.

## Main definitions

* `Context` — what is known of a page.
* `Context.refresh` — what is known after one more view.
* `Context.afterViews` — what is known after a sequence of views.
-/

namespace MergeMessage.PullRequest

/-- What is known of the page that is viewed. -/
structure Context where
  /-- The key of the pull request; absent for other pages. -/
  key : Option Text := none
  /-- The last description that was shown. -/
  description : Option Text := none
  /-- The last ticket that was linked. -/
  ticket : Option Ticket := none
  deriving DecidableEq, Repr, Inhabited

namespace Context

/-- The ticket that a view links to. -/
def ticketOf? (view : Snapshot) : Option Ticket :=
  view.ticketAddress.bind fun address => Ticket.ofLink? address view.ticketLabel

/-- The description that a view shows. -/
def descriptionOf? (view : Snapshot) : Option Text :=
  if view.description.isEmpty then none else some view.description

/-- What is kept when the page with this key comes into view: nothing of another page. -/
def moveTo (c : Context) (key : Option Text) : Context :=
  if key = c.key then c else { key := key }

/-- What is known with what a view shows. -/
def learn (c : Context) (view : Snapshot) : Context :=
  { c with
    description := (descriptionOf? view).or c.description
    ticket := (ticketOf? view).or c.ticket }

/-- What is known after one more view. -/
def refresh (c : Context) (view : Snapshot) : Context :=
  (c.moveTo (key? view.location)).learn view

/-- What is known after a sequence of views. -/
def afterViews (views : List Snapshot) : Context := views.foldl refresh {}

@[simp] theorem afterViews_nil : afterViews [] = {} := rfl

theorem afterViews_concat (views : List Snapshot) (view : Snapshot) :
    afterViews (views ++ [view]) = (afterViews views).refresh view := by
  simp [afterViews]

@[simp] theorem key_moveTo (c : Context) (key : Option Text) : (c.moveTo key).key = key := by
  unfold moveTo
  split <;> simp_all

@[simp] theorem key_learn (c : Context) (view : Snapshot) : (c.learn view).key = c.key := rfl

/-- The key is that of the last view. -/
@[simp] theorem key_refresh (c : Context) (view : Snapshot) :
    (c.refresh view).key = key? view.location := by
  simp [refresh]

/-- What is noted when one more view comes. -/
def refreshNotes (c : Context) (view : Snapshot) : List LogEntry :=
  let key := key? view.location
  let moved := "Page changed (".toList ++ Text.quotedOption c.key ++ " -> ".toList ++
    Text.quotedOption key ++ "); dropping cached context".toList
  let found := (ticketOf? view).map fun ticket =>
    ⟨.trace, .context, "Cached ticket ".toList ++ ticket.id ++ " from page link".toList⟩
  (if key = c.key then [] else [⟨.debug, .context, moved⟩]) ++ found.toList

end Context

end MergeMessage.PullRequest
