import MergeMessage.Proofs.FirstLines

/-!
# The lines of a message

Tidying rewrites the first line of an unwrapped reply and leaves the others as they are.  Neither the
ticket's mentions, which take the blank characters around them along, nor the lowercase forms of a
character bring a line feed in, so the first line stays one line.  A footer adds two lines at the end,
an empty one and the ticket.

## Main definitions

* `footerLines` — the lines that a footer adds to a body.

## Main results

* `newline_notMem_tidySubject` — a repaired line is one line.
* `pieces_mapFirstLine` — the lines of a text with its first line changed.
* `pieces_withFooter` — the lines of a text with a footer.
* `message_keeps_lines` — the lines of the message in a reply.
-/

namespace MergeMessage.Commit

open Text Ticket

/-- The lines that a footer adds to a body: an empty one and the ticket, if there is one that the
body does not mention. -/
def footerLines (ticket : Option Text) (body : Text) : List Text :=
  match ticket with
  | some t => if mentions body t then [] else [[], t]
  | none => []

/-- A footer has two lines, and it is there exactly for a ticket that the body does not mention. -/
theorem length_footerLines (ticket : Option Text) (body : Text) :
    (footerLines ticket body).length =
      if ∃ t ∈ ticket, mentions body t = false then 2 else 0 := by
  cases ticket with
  | none => simp [footerLines]
  | some t => cases hm : mentions body t <;> simp [footerLines, hm]

section

variable {ticket : Option Text} (hticket : ∀ id ∈ ticket, IsTicketId id)

include hticket

/-- A repaired line is one line. -/
theorem newline_notMem_tidySubject {line : Text} (h : '\n' ∉ line) :
    '\n' ∉ tidySubject ticket line :=
  fun hmem => h (mem_of_mem_tidySubject isForeign_newline hticket hmem)

/-- The footer stands on lines of its own, for an id has no line feed. -/
theorem pieces_withFooter (body : Text) :
    pieces '\n' (withFooter ticket body) = pieces '\n' body ++ footerLines ticket body := by
  cases ticket with
  | none => simp [withFooter, footerLines]
  | some t =>
    have ht : '\n' ∉ t := notMem_of_isTicketBreak (hticket t rfl) isTicketBreak_newline
    simp only [withFooter, footerLines]
    split
    · rw [List.append_nil]
    · rw [pieces_append, ← List.nil_append ('\n' :: t), pieces_append_sep (by simp),
        pieces_of_notMem ht]

end

/-- The lines of a text are its first one and those behind it. -/
theorem pieces_eq_firstLine_cons (s : Text) :
    pieces '\n' s = firstLine s :: (pieces '\n' s).tail := by
  rcases line_cases s with hmem | ⟨line, rest, hline, rfl⟩
  · rw [pieces_of_notMem hmem, firstLine_eq_self hmem, List.tail_cons]
  · rw [pieces_append_sep hline, firstLine_append_newline hline, List.tail_cons]

/-- A change of the first line that brings no line feed in leaves the other lines as they are. -/
theorem pieces_mapFirstLine {f : Text → Text} {s : Text} (h : '\n' ∉ f (firstLine s)) :
    pieces '\n' (mapFirstLine f s) = f (firstLine s) :: (pieces '\n' s).tail := by
  rw [mapFirstLine, pieces_eq_firstLine_cons s]
  refine pieces_join (List.cons_ne_nil _ _) ?_
  rw [List.forall_mem_cons]
  exact ⟨h, fun line hline => newline_notMem_of_mem_pieces (List.mem_of_mem_tail hline)⟩

/-- **The lines of the message in a reply.**  The first line of the unwrapped reply is repaired and
stays one line, and all lines behind it are kept.  What follows them is an empty line and the ticket,
exactly if there is a ticket that the repaired text does not mention, so the number of lines changes
by these two or not at all. -/
theorem message_keeps_lines {ticket : Option Text} (hticket : ∀ id ∈ ticket, IsTicketId id)
    (reply : Text) :
    ∃ line rest, pieces '\n' (unwrap reply) = line :: rest ∧ '\n' ∉ tidySubject ticket line ∧
      pieces '\n' (messageOfReply reply ticket) = tidySubject ticket line :: rest ++
        footerLines ticket (join ['\n'] (tidySubject ticket line :: rest)) ∧
      (pieces '\n' (messageOfReply reply ticket)).length = (pieces '\n' (unwrap reply)).length +
        if ∃ t ∈ ticket, mentions (join ['\n'] (tidySubject ticket line :: rest)) t = false
          then 2 else 0 := by
  have hlines := pieces_eq_firstLine_cons (unwrap reply)
  have hsubject := newline_notMem_tidySubject hticket (newline_notMem_firstLine (unwrap reply))
  have hbody := pieces_mapFirstLine hsubject
  -- the text with the repaired line, put together from its lines
  have hjoin : mapFirstLine (tidySubject ticket) (unwrap reply) =
      join ['\n'] (tidySubject ticket (firstLine (unwrap reply)) ::
        (pieces '\n' (unwrap reply)).tail) := by
    rw [← hbody, join_pieces]
  have hmessage : pieces '\n' (messageOfReply reply ticket) = _ :=
    pieces_withFooter hticket (mapFirstLine (tidySubject ticket) (unwrap reply))
  rw [hbody, hjoin] at hmessage
  refine ⟨_, _, hlines, hsubject, hmessage, ?_⟩
  rw [hmessage, List.length_append, length_footerLines, hlines]
  rfl

/-- Blank lines and blank ends of lines stay, below a subject from which the ticket moves away. -/
theorem message_keeps_lines_below_ticket :
    (∀ id ∈ some "ECHO-3".toList, IsTicketId id) ∧
      pieces '\n' (messageOfReply "Fix: ECHO-3 Stop it.\n\n  Body. \nEnd".toList
        (some "ECHO-3".toList)) =
        ["fix: stop it", "", "  Body. ", "End", "", "ECHO-3"].map String.toList := by
  have hticket : ∀ id ∈ some "ECHO-3".toList, IsTicketId id := by
    rintro t ⟨⟩
    exact ⟨"ECHO".toList, "3".toList, by decide, by decide, List.all_eq_true.mp (by decide),
      List.all_eq_true.mp (by decide), rfl⟩
  obtain ⟨line, rest, hlines, -, hmessage, -⟩ :=
    message_keeps_lines hticket "Fix: ECHO-3 Stop it.\n\n  Body. \nEnd".toList
  have hreply : pieces '\n' (unwrap "Fix: ECHO-3 Stop it.\n\n  Body. \nEnd".toList) =
      ["Fix: ECHO-3 Stop it.", "", "  Body. ", "End"].map String.toList := by decide
  obtain ⟨rfl, rfl⟩ := List.cons.inj (hlines.symm.trans hreply)
  refine ⟨hticket, hmessage.trans ?_⟩
  decide

end MergeMessage.Commit
