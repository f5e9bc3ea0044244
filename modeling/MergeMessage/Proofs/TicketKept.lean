import MergeMessage.Generation
import MergeMessage.Proofs.Outcomes
import MergeMessage.Proofs.TicketScan

/-!
# The ticket reaches the message

A ticket comes from a link on a page or from the name of a branch, and in either case it is read
off a text, so it has the form of an id.  A message for a ticket mentions it: if the tidied reply
does not, a footer is added, and since line feeds part the footer from the rest, the id in it is
read whole.

## Main definitions

* `Commit.bodyOfReply` — the message in a reply before a footer is added.

## Main results

* `ids_footer` — a footer adds one id to those of the message.
* `isTicketId_of_assemble` — the ticket of a request has the form of an id.
* `ticket_kept_in_message` — the message for a ticket mentions it.
-/

namespace MergeMessage

open Ticket

/-! ### The footer -/

/-- A footer adds one id to those of the message. -/
theorem ids_footer {id : Text} (hid : IsTicketId id) (message : Text) :
    ids (message ++ '\n' :: '\n' :: id) = ids message ++ [id] := by
  have hskip : ids ('\n' :: id) = ids id := ids_cons_of_none (idAt?_of_not_upper (by decide) id)
  rw [ids_append_break isTicketBreak_newline, hskip, ids_of_isTicketId hid]

namespace Commit

/-- The message in a reply before a footer is added. -/
def bodyOfReply (reply : Text) (ticket : Option Text) : Text :=
  mapFirstLine (tidySubject ticket) (unwrap reply)

theorem messageOfReply_eq (reply : Text) (ticket : Option Text) :
    messageOfReply reply ticket = withFooter ticket (bodyOfReply reply ticket) := rfl

theorem withFooter_of_mentions {id message : Text} (h : mentions message id = true) :
    withFooter (some id) message = message := by
  simp [withFooter, h]

theorem withFooter_of_not_mentions {id message : Text} (h : mentions message id = false) :
    withFooter (some id) message = message ++ '\n' :: '\n' :: id := by
  simp [withFooter, h]

/-- **The footer in numbers.**  A ticket that is mentioned is mentioned as often as before, and
any other is mentioned once. -/
theorem count_ids_withFooter {id : Text} (hid : IsTicketId id) (message : Text) :
    (ids (withFooter (some id) message)).count id = max 1 ((ids message).count id) := by
  cases hm : mentions message id with
  | true =>
    have hpos : 0 < (ids message).count id := List.count_pos_iff.mpr (mentions_iff.mp hm)
    rw [withFooter_of_mentions hm]
    omega
  | false =>
    have hzero : (ids message).count id = 0 := by
      rw [List.count_eq_zero, ← mentions_iff, hm]
      simp
    rw [withFooter_of_not_mentions hm, ids_footer hid, List.count_append, hzero]
    simp

theorem mentions_withFooter {id : Text} (hid : IsTicketId id) (message : Text) :
    mentions (withFooter (some id) message) id = true := by
  rw [mentions_iff, ← List.count_pos_iff, count_ids_withFooter hid]
  omega

end Commit

/-! ### Where tickets come from -/

theorem isTicketId_of_ofLink? {address label : Text} {ticket : Ticket}
    (h : ofLink? address label = some ticket) : IsTicketId ticket.id := by
  obtain ⟨id, hid, rfl⟩ := Option.map_eq_some_iff.mp h
  exact isTicketId_of_firstId? hid

theorem isTicketId_of_ofText? {s : Text} {ticket : Ticket} (h : ofText? s = some ticket) :
    IsTicketId ticket.id := by
  obtain ⟨id, hid, rfl⟩ := Option.map_eq_some_iff.mp h
  exact isTicketId_of_firstId? hid

namespace PullRequest.Context

/-- The ticket of a context, if there is one, has the form of an id. -/
def HasTicketForm (c : Context) : Prop := ∀ ticket ∈ c.ticket, IsTicketId ticket.id

/-- One more view keeps the form: its ticket is read off a link, and otherwise the one that is
known stays or is dropped. -/
theorem hasTicketForm_refresh {c : Context} (h : c.HasTicketForm) (view : Snapshot) :
    (c.refresh view).HasTicketForm := by
  have hmove : (c.moveTo (key? view.location)).HasTicketForm := by
    unfold moveTo
    split
    · exact h
    · intro ticket ht
      simp at ht
  intro ticket ht
  rw [refresh, learn, Option.mem_def, Option.or_eq_some_iff] at ht
  rcases ht with ht | ⟨-, ht⟩
  · obtain ⟨address, -, hlink⟩ := Option.bind_eq_some_iff.mp ht
    exact isTicketId_of_ofLink? hlink
  · exact hmove ticket ht

theorem hasTicketForm_afterViews (views : List Snapshot) : (afterViews views).HasTicketForm := by
  induction views using List.reverseRecOn with
  | nil =>
    intro ticket ht
    simp at ht
  | append_singleton views view ih =>
    rw [afterViews_concat]
    exact hasTicketForm_refresh ih view

end PullRequest.Context

theorem isTicketId_of_assemble {notes title branch : Text} {context : PullRequest.Context}
    (hc : context.HasTicketForm) {ticket : Ticket}
    (h : (Request.assemble notes title context branch).ticket = some ticket) :
    IsTicketId ticket.id := by
  rw [Request.assemble, Option.or_eq_some_iff] at h
  rcases h with h | ⟨-, h⟩
  · exact hc ticket h
  · exact isTicketId_of_ofText? h

/-! ### Generated messages -/

/-- A message that is generated for a request is the message of some reply. -/
theorem alwaysReturns_generate {m : Type → Type} [Monad m] [LawfulMonad m] (note : Reporter m)
    (settings : Settings) (backends : Backends m) (request : Request) :
    AlwaysReturns (fun outcome => ∀ message, outcome = .ok (some message) →
        ∃ reply, message = Commit.messageOfReply reply (request.ticket.map Ticket.id))
      (generate note settings backends request) := by
  unfold generate
  refine alwaysReturns_bind (fun _ => alwaysReturns_bind (fun _ => alwaysReturns_bind ?_ _) _) _
  intro generated
  match generated with
  | .error e => exact alwaysReturns_pure (by simp)
  | .ok none => exact alwaysReturns_pure (by simp)
  | .ok (some reply) =>
    dsimp only
    split
    · exact alwaysReturns_bind (fun _ => alwaysReturns_pure (by simp)) _
    · refine alwaysReturns_bind (fun _ => alwaysReturns_pure ?_) _
      rintro message ⟨⟩
      exact ⟨reply, rfl⟩

/-- **The ticket is never lost.**  Whatever was viewed and however the providers behave, the
ticket of a request has the form of an id, and every message that is generated for the request
mentions it.  The footer stands there exactly if the message would not mention the ticket without
it, so a mention is never doubled and a missing one is added once. -/
theorem ticket_kept_in_message {m : Type → Type} [Monad m] [LawfulMonad m] (note : Reporter m)
    (settings : Settings) (backends : Backends m) (views : List PullRequest.Snapshot)
    (notes title branch : Text) (ticket : Ticket)
    (h : (Request.assemble notes title (PullRequest.Context.afterViews views) branch).ticket =
      some ticket) :
    IsTicketId ticket.id ∧
    AlwaysReturns
      (fun outcome => ∀ message, outcome = .ok (some message) →
        mentions message ticket.id = true)
      (generate note settings backends
        (Request.assemble notes title (PullRequest.Context.afterViews views) branch)) ∧
    ∀ reply : Text,
      (Commit.messageOfReply reply (some ticket.id) =
          Commit.bodyOfReply reply (some ticket.id) ++ '\n' :: '\n' :: ticket.id ↔
        mentions (Commit.bodyOfReply reply (some ticket.id)) ticket.id = false) ∧
      (Commit.messageOfReply reply (some ticket.id) = Commit.bodyOfReply reply (some ticket.id) ↔
        mentions (Commit.bodyOfReply reply (some ticket.id)) ticket.id = true) ∧
      (ids (Commit.messageOfReply reply (some ticket.id))).count ticket.id =
        max 1 ((ids (Commit.bodyOfReply reply (some ticket.id))).count ticket.id) := by
  have hid : IsTicketId ticket.id :=
    isTicketId_of_assemble (PullRequest.Context.hasTicketForm_afterViews views) h
  refine ⟨hid, ?_, ?_⟩
  · refine alwaysReturns_imp ?_ (alwaysReturns_generate note settings backends _)
    intro outcome hreply message hmessage
    obtain ⟨reply, rfl⟩ := hreply message hmessage
    rw [h, Option.map_some, Commit.messageOfReply_eq]
    exact Commit.mentions_withFooter hid _
  · intro reply
    rw [Commit.messageOfReply_eq]
    refine ⟨?_, ?_, Commit.count_ids_withFooter hid _⟩
    · cases hm : mentions (Commit.bodyOfReply reply (some ticket.id)) ticket.id with
      | true => simp [Commit.withFooter_of_mentions hm]
      | false => simp [Commit.withFooter_of_not_mentions hm]
    · cases hm : mentions (Commit.bodyOfReply reply (some ticket.id)) ticket.id with
      | true => simp [Commit.withFooter_of_mentions hm]
      | false => simp [Commit.withFooter_of_not_mentions hm]

/-- A page that links to `ECHO-1`. -/
def linkingViews : List PullRequest.Snapshot :=
  [{ location := "https://bitbucket.org/acme/web/pull-requests/3".toList
     ticketAddress := some "https://acme.atlassian.net/browse/ECHO-1".toList
     rawTicketLabel := "ECHO-1 Login".toList }]

/-- Providers that count how often they are asked; the model on this machine speaks of
`ECHO-12`. -/
def countingBackends : Backends (StateM ℕ) where
  onDevice _ := do
    modify (· + 1)
    return .ok (some "Fix: handle ECHO-12".toList)
  post _ _ _ := do
    modify (· + 1)
    return .error (.ofText [])

/-- The id `ECHO-12` in a reply does not stand for `ECHO-1`. -/
theorem ticket_kept_beside_neighbour :
    (Request.assemble [] [] (PullRequest.Context.afterViews linkingViews)
      "feature/ECHO-2".toList).ticket = some ⟨"ECHO-1".toList, "Login".toList⟩ ∧
    ((generate Reporter.silent {} countingBackends (Request.assemble [] []
      (PullRequest.Context.afterViews linkingViews) "feature/ECHO-2".toList)).run 0).1 =
        .ok (some "fix: handle ECHO-12\n\nECHO-1".toList) ∧
    mentions "fix: handle ECHO-12\n\nECHO-1".toList "ECHO-1".toList = true := by
  have hticket : (Request.assemble [] [] (PullRequest.Context.afterViews linkingViews)
      "feature/ECHO-2".toList).ticket = some ⟨"ECHO-1".toList, "Login".toList⟩ := by decide
  have hmessage : ((generate Reporter.silent {} countingBackends (Request.assemble [] []
      (PullRequest.Context.afterViews linkingViews) "feature/ECHO-2".toList)).run 0).1 =
        .ok (some "fix: handle ECHO-12\n\nECHO-1".toList) := by rfl
  have hkept := (ticket_kept_in_message Reporter.silent {} countingBackends linkingViews [] []
    "feature/ECHO-2".toList _ hticket).2.1
  exact ⟨hticket, hmessage, alwaysReturns_state_iff.mp hkept 0 _ hmessage⟩

end MergeMessage
