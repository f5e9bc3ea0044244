import MergeMessage.Proofs.FirstLines
import MergeMessage.Proofs.OneBackend
import MergeMessage.Proofs.TicketKept

/-!
# Messages that start with a blank line

An answer of a backend counts as a message unless it is blank, and it is tidied after that.  Fences,
quotes, a label and the ticket may then have been all that stood on its first line.  The repair of a
subject takes no other character away, so the first line of a message is blank exactly if nothing
else stood there.

## Main definitions

* `Answers` — an exchange in which a backend answers with a text.

## Main results

* `isAllBlank_tidySubject_iff` — which subjects are repaired to a blank line.
* `isAllBlank_firstLine_iff` — which replies become messages that start with a blank line.
* `generated_firstLine_blank_iff` — which of the generated messages start so.
-/

namespace MergeMessage

namespace Text

/-! ### Blank texts -/

theorem isAllBlank_iff {s : Text} :
    isAllBlank s = true ↔ ∀ c, isBlank c = false → c ∉ s := by
  rw [isAllBlank, List.all_eq_true]
  exact forall_congr' fun c => by
    rw [← not_imp_not, Bool.not_eq_true]

theorem not_isAllBlank_of_mem {c : Char} (hc : isBlank c = false) {s : Text} (h : c ∈ s) :
    isAllBlank s = false := by
  rw [← Bool.not_eq_true, isAllBlank_iff]
  exact fun hall => hall c hc h

/-- Trimming takes blank characters only. -/
theorem mem_trim_iff {c : Char} (hc : isBlank c = false) {s : Text} : c ∈ trim s ↔ c ∈ s := by
  obtain ⟨lead, tail, hlead, htail, hs⟩ := exists_trim_append s
  have hnot : ∀ t : Text, (∀ d ∈ t, isBlank d = true) → c ∉ t := fun t ht hmem =>
    absurd (ht c hmem) (by simp [hc])
  conv_rhs => rw [hs]
  simp [hnot lead hlead, hnot tail htail]

end Text

open Text

namespace Commit

open Subject

/-! ### Repaired subjects -/

/-- A colon between the parts of a subject does not turn a blank text into another one. -/
theorem isAllBlank_insertColon {s : Text} : isAllBlank (insertColon s) = isAllBlank s := by
  cases hs : isAllBlank s with
  | true =>
    -- no type stands at the front of a blank text
    have hstop : StopsAt Char.isAlpha s := fun c hc => by
      by_contra halpha
      have hnot : isBlank c = false := isBlank_of_isAlphanum (by simp_all [Char.isAlphanum])
      exact isAllBlank_iff.mp hs c hnot (List.mem_of_mem_head? hc)
    rw [insertColon, run?_of_stopsAt hstop, hs]
  | false =>
    rcases insertColon_eq_or s with heq | ⟨front, blanks, rest, -, -, -, heq⟩
    · rw [heq, hs]
    · exact not_isAllBlank_of_mem (c := ':') (by decide) (by simp [heq])

theorem isAllBlank_closeScopeGap (s : Text) : isAllBlank (closeScopeGap s) = isAllBlank s := by
  rcases closeScopeGap_eq_or s with heq | ⟨kind, blanks, rest, -, hs, heq⟩
  · rw [heq]
  · have hopen : isBlank '(' = false := by decide
    rw [not_isAllBlank_of_mem hopen (by simp [heq]), not_isAllBlank_of_mem hopen (by simp [hs])]

theorem isAllBlank_render (h : Header) : isAllBlank h.render = false :=
  not_isAllBlank_of_mem (c := ':') (by decide) (by simp [Header.render])

theorem isAllBlank_of_looseHeader? {s : Text} {h : Header} (hs : looseHeader? s = some h) :
    isAllBlank s = false := by
  obtain ⟨-, -, -, tail, -, rfl⟩ := looseHeader?_eq_some_iff.mp hs
  exact not_isAllBlank_of_mem (c := ':') (by decide) (by simp)

section

variable {ticket : Option Text} (hticket : ∀ id ∈ ticket, IsTicketId id)
include hticket

/-- Without the mentions of the ticket, a subject keeps what stands outside of them. -/
theorem mem_bareSubject_iff {c : Char} (hc : isBlank c = false) {s : Text} :
    c ∈ bareSubject ticket s ↔ StandsOutside ticket c s := by
  cases ticket with
  | none => rw [bareSubject, standsOutside_none]
  | some id =>
    rw [bareSubject, dropTicket, mem_collapseBlanks_iff hc, mem_trim_iff hc,
      mem_blankTicket_iff (hticket id rfl) hc]

/-- **Which subjects are repaired to a blank line.**  Nothing but blank characters stands outside
of the mentions of the ticket. -/
theorem isAllBlank_tidySubject_iff {s : Text} :
    isAllBlank (tidySubject ticket s) = true ↔
      ∀ c, isBlank c = false → ¬StandsOutside ticket c s := by
  have hbare : isAllBlank (insertColon (closeScopeGap (bareSubject ticket s))) = true ↔
      ∀ c, isBlank c = false → ¬StandsOutside ticket c s := by
    rw [isAllBlank_insertColon, isAllBlank_closeScopeGap, isAllBlank_iff]
    exact forall₂_congr fun c hc => not_congr (mem_bareSubject_iff hticket hc)
  rw [← hbare, tidySubject_eq]
  split
  · next h hloose => rw [isAllBlank_render, isAllBlank_of_looseHeader? hloose]
  · rfl

/-- **Which replies become messages that start with a blank line.**  Unwrapped, their first lines
hold nothing but mentions of the ticket and blank characters. -/
theorem isAllBlank_firstLine_iff (reply : Text) :
    isAllBlank (firstLine (messageOfReply reply ticket)) = true ↔
      ∀ c, isBlank c = false → ¬StandsOutside ticket c (firstLine (unwrap reply)) := by
  rw [firstLine_messageOfReply hticket, isAllBlank_tidySubject_iff hticket]

end

end Commit

/-! ### Generated messages -/

/-- The exchange is one in which a backend answers with a text: the model on this machine does, or
the remote service sends a reply with it. -/
inductive Answers : Exchange → Text → Prop
  /-- The model on this machine answers. -/
  | onDevice (prompt reply : Text) : Answers (.onDevice prompt (.ok (some reply))) reply
  /-- The remote service answers. -/
  | remote {address key : Text} {request : ChatRequest} {answer : Except Failure ChatReply}
      {reply : Text} (h : Remote.generatedOf answer = .ok (some reply)) :
    Answers (.post address key request answer) reply

theorem AsksOnDevice.answers {prompt : Text} {made : List Exchange} {reply : Text}
    (h : AsksOnDevice prompt id made (.ok (some reply))) :
    ∃ exchange, made = [exchange] ∧ Answers exchange reply := by
  cases h with
  | message reply _ => exact ⟨_, rfl, .onDevice prompt reply⟩

theorem AsksRemote.answers {settings : Settings} {prompt : Text} {made : List Exchange}
    {outcome : Generated} (h : AsksRemote settings prompt id made outcome) {reply : Text}
    (hreply : outcome = .ok (some reply)) :
    ∃ exchange, made = [exchange] ∧ Answers exchange reply := by
  cases h with
  | noKey _ => cases hreply
  | reply key _ answer => exact ⟨_, rfl, .remote hreply⟩

/-- Only an answer that is not blank becomes a message. -/
theorem Request.finish_eq_message_iff {request : Request} {answer : Generated} {message : Text} :
    request.finish answer = .ok (some message) ↔
      ∃ reply, answer = .ok (some reply) ∧ isAllBlank reply = false ∧
        message = Commit.messageOfReply reply (request.ticket.map Ticket.id) := by
  match answer with
  | .error e => simp [finish]
  | .ok none => simp [finish]
  | .ok (some reply) =>
    cases hblank : isAllBlank reply with
    | true => simp [finish, hblank]
    | false => simpa [finish, hblank] using eq_comm

variable {m : Type → Type} [Monad m] [LawfulMonad m]

/-- A text that is dispatched is the answer of the one backend that is asked. -/
theorem records_dispatch_answers (note : Reporter m) (settings : Settings) (backends : Backends m)
    (prompt : Text) :
    Records (fun made outcome => ∀ reply, outcome = .ok (some reply) →
        ∃ exchange, made = [exchange] ∧ Answers exchange reply)
      (dispatch note.beside settings backends.recorded prompt) := by
  cases hchoice : settings.choice with
  | onDevice =>
    refine records_imp ?_
      (records_dispatch_onDevice note hchoice backends prompt (alwaysReturns_true _))
    rintro made outcome ⟨hasks, -⟩ reply rfl
    exact hasks.answers
  | remote =>
    refine records_imp ?_ (records_dispatch_remote note hchoice backends prompt)
    exact fun made outcome hasks reply hreply => hasks.answers hreply

/-- **Which generated messages start with a blank line.**  Whatever was viewed or given instead of
it, and however the backends behave, a message is the tidied answer of the one backend that was
asked, and that answer is not blank.  Still the first line of the message is blank, exactly if the
first line of the unwrapped answer holds nothing but mentions of the ticket and blank characters. -/
theorem generated_firstLine_blank_iff (note : Reporter m) (settings : Settings)
    (backends : Backends m) (views : List PullRequest.Snapshot)
    (notes title branch description : Text) :
    let request := { Request.assemble notes title (PullRequest.Context.afterViews views) branch with
      description := description }
    let ticket := request.ticket.map Ticket.id
    Records (fun made outcome => ∀ message, outcome = .ok (some message) →
        ∃ exchange reply, made = [exchange] ∧ Answers exchange reply ∧
          isAllBlank reply = false ∧ message = Commit.messageOfReply reply ticket ∧
          (isAllBlank (Commit.firstLine message) = true ↔ ∀ c, isBlank c = false →
            ¬Commit.StandsOutside ticket c (Commit.firstLine (Commit.unwrap reply))))
      (generate note.beside settings backends.recorded request) ∧
    Erases (generate note.beside settings backends.recorded request)
      (generate note settings backends request) := by
  intro request ticket
  refine ⟨?_, erases_generate note settings backends request⟩
  -- the ticket comes from a page or from the name of a branch, and both give well formed ids
  have hticket : ∀ id ∈ ticket, IsTicketId id := by
    intro id hid
    obtain ⟨found, hfound, rfl⟩ := Option.map_eq_some_iff.mp hid
    have hfound : (Request.assemble notes title (PullRequest.Context.afterViews views)
        branch).ticket = some found := hfound
    exact isTicketId_of_assemble (PullRequest.Context.hasTicketForm_afterViews views) hfound
  refine records_imp ?_ (records_generate note settings backends request
    (records_dispatch_answers note settings backends request.prompt))
  rintro made outcome ⟨answer, hanswer, rfl⟩ message hmessage
  obtain ⟨reply, hreply, hblank, rfl⟩ := Request.finish_eq_message_iff.mp hmessage
  obtain ⟨exchange, rfl, hexchange⟩ := hanswer reply hreply
  exact ⟨exchange, reply, rfl, hexchange, hblank, rfl,
    Commit.isAllBlank_firstLine_iff hticket reply⟩

/-- Providers that count how often they are asked; the model on this machine quotes the ticket. -/
def quotingBackends : Backends (StateM ℕ) where
  onDevice _ := do
    modify (· + 1)
    return .ok (some "\"ECHO-1\"".toList)
  post _ _ _ := do
    modify (· + 1)
    return .error (.ofText [])

/-- The request for a message about the page that links to `ECHO-1`. -/
def linkedRequest : Request :=
  { Request.assemble [] [] (PullRequest.Context.afterViews linkingViews) [] with
    description := "Adds a login.".toList }

/-- An answer with the ticket in quotes leaves a footer only. -/
theorem generated_firstLine_blank_for_quoted_ticket :
    (((generate Reporter.silent.beside {} quotingBackends.recorded linkedRequest).run []).run
      0).1.1 = .ok (some "\n\nECHO-1".toList) ∧
    ∃ reply, isAllBlank reply = false ∧
      "\n\nECHO-1".toList = Commit.messageOfReply reply (some "ECHO-1".toList) ∧
      ∀ c, isBlank c = false → ¬Commit.StandsOutside (some "ECHO-1".toList) c
        (Commit.firstLine (Commit.unwrap reply)) := by
  have hmessage : (((generate Reporter.silent.beside {} quotingBackends.recorded
      linkedRequest).run []).run 0).1.1 = .ok (some "\n\nECHO-1".toList) := by rfl
  obtain ⟨made, -, hmade⟩ := alwaysReturns_state_iff.mp
    ((generated_firstLine_blank_iff Reporter.silent {} quotingBackends linkingViews [] [] []
      "Adds a login.".toList).1 []) 0
  obtain ⟨exchange, reply, -, -, hreply, hfinish, hiff⟩ := hmade _ hmessage
  exact ⟨hmessage, reply, hreply, hfinish, hiff.mp (by decide)⟩

end MergeMessage
