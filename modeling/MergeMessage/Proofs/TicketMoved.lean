import MergeMessage.Proofs.FirstLines
import MergeMessage.Proofs.GluedTickets
import MergeMessage.Proofs.LintGrammar

/-!
# When a ticket leaves the subject

The ticket moves from the subject of a reply to a footer, unless it is glued to a word: then it is no
mention, so it stays, and since the message mentions it, no footer is added.  After the mentions are
gone, only the description of a header can hold an id, for the type and the scope have no capitals
left.  Lowering the first letter of a description can even bring an id out: `XECHO-1` is another id
than `ECHO-1`, but `xECHO-1` mentions `ECHO-1`.

## Main definitions

* `repairedLine` — a subject without its ticket, as the reader of headers gets it.
* `readPart` — what of a description can hold ids after tidying.

## Main results

* `ids_tidyDescription` — the ids of a description in sentence case.
* `mentions_tidySubject_iff` — when a repaired subject mentions the ticket.
* `firstLine_mentions_iff` — when the first line of the message in a reply mentions the ticket.
-/

namespace MergeMessage.Commit

open Subject Text Ticket

/-! ### Repairs -/

theorem isTicketBreak_of_isMark {c : Char} (h : c ∈ ['(', ')', '!', ':']) : IsTicketBreak c :=
  (isMark_of_mem h).toIsTicketBreak

theorem ids_closeScopeGap (s : Text) : ids (closeScopeGap s) = ids s := by
  have hopen : IsTicketBreak '(' := isTicketBreak_of_isMark (by simp)
  rcases closeScopeGap_eq_or s with heq | ⟨kind, blanks, rest, hblank, hs, heq⟩
  · rw [heq]
  · rw [heq, hs, ← List.append_assoc, ids_append_break hopen, ids_append_break hopen,
      ids_append_breaks fun c hc => isTicketBreak_of_isBlank (hblank c hc)]

theorem ids_insertColon (s : Text) : ids (insertColon s) = ids s := by
  have hcolon : IsTicketBreak ':' := isTicketBreak_of_isMark (by simp)
  have hspace : IsTicketBreak ' ' := isTicketBreak_of_isBlank (by decide)
  rcases insertColon_eq_or s with heq | ⟨front, blanks, rest, hne, hblank, hs, heq⟩
  · rw [heq]
  · obtain ⟨c, t, rfl⟩ := List.exists_cons_of_ne_nil hne
    rw [List.forall_mem_cons] at hblank
    rw [heq, hs, ids_append_break hcolon, ids_break_cons hspace, List.cons_append,
      ids_append_break (isTicketBreak_of_isBlank hblank.1),
      ids_breaks_append fun d hd => isTicketBreak_of_isBlank (hblank.2 d hd)]

/-! ### Descriptions -/

theorem ids_join_space (words : List Text) : ids (join [' '] words) = words.flatMap ids := by
  have hspace : IsTicketBreak ' ' := isTicketBreak_of_isBlank (by decide)
  induction words with
  | nil => rfl
  | cons w words ih =>
    by_cases hnil : words = []
    · subst hnil
      simp [join]
    · rw [join_cons hnil, List.singleton_append, ids_append_break hspace, ih, List.flatMap_cons]

/-- A capitalized word holds no hyphen, so it holds no id. -/
theorem hyphen_notMem_of_isCapitalizedWord {word : Text} (h : isCapitalizedWord word = true) :
    '-' ∉ word := by
  intro hmem
  have hmem := mem_dropEndWhile hmem (p := isWordEndMark) (by decide)
  unfold isCapitalizedWord at h
  split at h
  · simp at h
  · next c s heq =>
    rw [heq, List.mem_cons] at hmem
    rw [Bool.and_eq_true, List.all_eq_true] at h
    rcases hmem with rfl | hmem
    · exact absurd h.1 (by decide)
    · exact absurd (h.2 _ hmem) (by decide)

/-- Bringing a word down takes no id away. -/
theorem ids_lowerWord (word : Text) :
    ids (if isCapitalizedWord word then word.lower else word) = ids word := by
  split
  · next hcap =>
    rw [ids_of_hyphen_notMem (hyphen_notMem_of_isCapitalizedWord hcap)]
    exact ids_of_forall_not_upper fun c => not_isUpper_of_mem_lowerAfter
  · rfl

/-- What of a description can hold ids after tidying: the first character goes to lowercase, unless
the description is in Title Case. -/
def readPart (description : Text) : Text :=
  if isTitleCased (description.pieces ' ') then description else description.tail

theorem ids_lowerFirst (s : Text) : ids (lowerFirst s) = ids s.tail := by
  cases s with
  | nil => rfl
  | cons c s =>
    rw [lowerFirst, lowerChar_eq]
    exact ids_append_of_forall_not_upper (fun d => not_isUpper_of_mem_lowerCharBetween) s

theorem ids_sentenceCase (s : Text) : ids (sentenceCase s) = ids (readPart s) := by
  unfold sentenceCase readPart
  dsimp only
  split
  · rw [ids_join_space, List.flatMap_map]
    simp only [ids_lowerWord]
    rw [← ids_join_space, join_pieces]
  · exact ids_lowerFirst s

theorem isTicketBreak_of_isFinalMark {c : Char} (h : isFinalMark c = true) : IsTicketBreak c := by
  rcases isFinalMark_iff.mp h with rfl | rfl | rfl
  · exact ⟨by decide, by decide, by decide⟩
  · exact ⟨by decide, by decide, by decide⟩
  · exact ⟨by decide, by decide, by decide⟩

theorem ids_tidyDescription (s : Text) : ids (tidyDescription s) = ids (readPart s) := by
  rw [tidyDescription, ids_dropEndWhile fun c => isTicketBreak_of_isFinalMark, ids_sentenceCase]

/-- The type and the scope of a repaired header are in lowercase, so they hold no ids. -/
theorem ids_tidyHeader (h : Header) :
    ids (tidyHeader h).render = ids (tidyDescription h.description) := by
  have hspace : IsTicketBreak ' ' := isTicketBreak_of_isBlank (by decide)
  -- in front of the description no capital letter is left, so no id can begin there
  have hfront : ∀ c ∈ h.kind.lower ++ (renderScope (h.scope.map tidyScope) ++
      (renderBreaking h.breaking ++ [':'])), c.isUpper = false := by
    have hscope : ∀ c ∈ renderScope (h.scope.map tidyScope), c.isUpper = false := by
      cases h.scope with
      | none => simp [renderScope]
      | some t =>
        rw [Option.map_some, renderScope, List.cons_append, List.forall_mem_cons,
          List.forall_mem_append]
        exact ⟨by decide, fun c => not_isUpper_of_mem_lowerAfter, by simp⟩
    have hbang : ∀ c ∈ renderBreaking h.breaking ++ [':'], c.isUpper = false := by
      cases h.breaking <;> simp [renderBreaking]
    exact List.forall_mem_append.mpr ⟨fun c => not_isUpper_of_mem_lowerAfter,
      List.forall_mem_append.mpr ⟨hscope, hbang⟩⟩
  have hrender : (tidyHeader h).render = (h.kind.lower ++ (renderScope (h.scope.map tidyScope) ++
      (renderBreaking h.breaking ++ [':']))) ++ ' ' :: tidyDescription h.description := by
    simp [Header.render_eq, tidyHeader]
  rw [hrender, ids_append_break hspace, ids_of_forall_not_upper hfront, List.nil_append]

/-- The ids of a description were read in its subject. -/
theorem ids_description_sublist {s : Text} {h : Header} (hs : looseHeader? s = some h) :
    (ids h.description).Sublist (ids s) := by
  have hcolon : IsTicketBreak ':' := isTicketBreak_of_isMark (by simp)
  obtain ⟨-, -, -, tail, hdesc, rfl⟩ := looseHeader?_eq_some_iff.mp hs
  rw [hdesc, ids_dropWhile fun c => isTicketBreak_of_isBlank, ← List.append_assoc,
    ← List.append_assoc, ids_append_break hcolon]
  exact List.sublist_append_right _ _

/-! ### Repaired subjects -/

/-- A subject without its ticket, after the repairs that come before the header is read. -/
def repairedLine (id line : Text) : Text := insertColon (closeScopeGap (dropTicket id line))

section

variable {id : Text} (hid : IsTicketId id)

include hid

theorem mentions_repairedLine_iff {line : Text} :
    mentions (repairedLine id line) id = true ↔ IsGlued id line := by
  rw [mentions_iff, repairedLine, ids_insertColon, ids_closeScopeGap, ← mentions_iff,
    mentions_dropTicket_iff hid]

/-- **When a repaired subject mentions the ticket.**  If it is no header, the ticket is glued; if it
is one, the ticket is in what is left of the description. -/
theorem mentions_tidySubject_iff (line : Text) :
    mentions (tidySubject (some id) line) id = true ↔
      match looseHeader? (repairedLine id line) with
      | none => IsGlued id line
      | some h => mentions (readPart h.description) id = true := by
  have heq : insertColon (closeScopeGap (bareSubject (some id) line)) = repairedLine id line := rfl
  rw [tidySubject_eq, heq]
  cases looseHeader? (repairedLine id line) with
  | none => exact mentions_repairedLine_iff hid
  | some h =>
    dsimp only
    rw [mentions_iff, mentions_iff, ids_tidyHeader, ids_tidyDescription]

/-- A description that mentions the ticket had it glued to a word. -/
theorem isGlued_of_mentions_description {line : Text} {h : Header}
    (hs : looseHeader? (repairedLine id line) = some h)
    (hm : mentions h.description id = true) : IsGlued id line := by
  rw [← mentions_repairedLine_iff hid, mentions_iff]
  exact (ids_description_sublist hs).mem (mentions_iff.mp hm)

/-- Without its first character, a text mentions what it mentioned before, or an id that the
character was a part of. -/
theorem mentions_of_tail {s : Text} (hm : mentions s.tail id = true) :
    mentions s id = true ∨
      ∃ c rest, c.isUpper = true ∧ StopsAt Char.isDigit rest ∧ s = c :: (id ++ rest) := by
  cases s with
  | nil => simp [mentions] at hm
  | cons c s =>
    rw [List.tail_cons] at hm
    cases hc : c.isUpper with
    | false => exact Or.inl (by rwa [mentions_iff, ids_cons_of_none (idAt?_of_not_upper hc s),
        ← mentions_iff])
    | true =>
      obtain ⟨u, v, rfl, hwhole⟩ := (mentions_iff_standsWhere hid).mp hm
      cases u with
      | nil => exact Or.inr ⟨c, v, hc, hwhole.stop, rfl⟩
      | cons d u =>
        refine Or.inl ((mentions_iff_standsWhere hid).mpr ⟨c :: d :: u, v, rfl, ?_⟩)
        rwa [lastRead_cons, lastRead_cons, ← lastRead_cons none]

end

/-! ### The remark on a ticket in the subject -/

/-- The rules look at the trimmed message, but its subject has the tickets of the first line. -/
theorem ids_subjectOf_trim {message : Text} (h : StopsAt isBlank message) :
    ids (subjectOf message.trim) = ids (firstLine message) := by
  obtain ⟨tail, htail, hs⟩ := exists_firstLine_eq_subjectOf_trim h
  rw [hs, ids_append_breaks fun c hc => isTicketBreak_of_isBlank (htail c hc)]

theorem mentions_of_lint_ticketInSubject {message id : Text} {title : Option Text}
    (h : lint message title = some (.ticketInSubject id)) :
    mentions (subjectOf message.trim) id = true := by
  obtain ⟨rule, hrule, hf⟩ := List.exists_of_findSome?_eq_some h
  rw [rules_eq_append, List.mem_append] at hrule
  rcases hrule with hrule | hrule
  · exact absurd (reports_error rule hrule _ _ hf) (by simp [Finding.severity])
  · simp only [adviceRules, List.mem_cons, List.not_mem_nil, or_false] at hrule
    -- one of the advice rules alone gives this finding, the others have texts of their own
    rcases hrule with rfl | rfl | rfl | rfl | rfl | rfl | rfl
    · simpa using (when_eq_some_iff.mp hf).2
    · simpa using (when_eq_some_iff.mp hf).2
    · simpa using (when_eq_some_iff.mp hf).2
    · simpa using (when_eq_some_iff.mp hf).2
    · obtain ⟨other, -, hother⟩ := Option.bind_eq_some_iff.mp hf
      obtain ⟨hmention, heq⟩ := when_eq_some_iff.mp hother
      obtain rfl : other = id := by simpa using heq
      exact hmention
    · obtain ⟨other, -, hother⟩ := Option.bind_eq_some_iff.mp hf
      simpa using (when_eq_some_iff.mp hother).2
    · obtain ⟨other, -, hother⟩ := Option.bind_eq_some_iff.mp hf
      simpa using (when_eq_some_iff.mp hother).2

/-! ### The message in a reply -/

/-- **When the first line of a message mentions its ticket.**  If the repaired line is no header, the
ticket was glued to a word; if it is one, the ticket is in what lowering leaves of the description.
Either way the ticket was glued in the reply, or the description was a longer id that lost its first
capital.  Unless the message starts blank, the author is told to move the ticket only then. -/
theorem firstLine_mentions_iff {id : Text} (hid : IsTicketId id) (reply : Text) :
    (mentions (firstLine (messageOfReply reply (some id))) id = true ↔
      match looseHeader? (repairedLine id (firstLine (unwrap reply))) with
      | none => IsGlued id (firstLine (unwrap reply))
      | some h => mentions (readPart h.description) id = true) ∧
    (mentions (firstLine (messageOfReply reply (some id))) id = true →
      IsGlued id (firstLine (unwrap reply)) ∨
        ∃ h c rest, looseHeader? (repairedLine id (firstLine (unwrap reply))) = some h ∧
          h.description = c :: (id ++ rest) ∧ c.isUpper = true ∧ StopsAt Char.isDigit rest) ∧
    (StopsAt isBlank (messageOfReply reply (some id)) → ∀ title,
      lint (messageOfReply reply (some id)) title = some (.ticketInSubject id) →
        mentions (firstLine (messageOfReply reply (some id))) id = true) := by
  have hticket : ∀ t ∈ some id, IsTicketId t := by
    rintro t ⟨⟩
    exact hid
  have hfirst := firstLine_messageOfReply hticket reply
  have hiff := mentions_tidySubject_iff hid (firstLine (unwrap reply))
  rw [← hfirst] at hiff
  refine ⟨hiff, fun hm => ?_, fun hstart title hlint => ?_⟩
  · rw [hiff] at hm
    split at hm
    · exact Or.inl hm
    next h hs =>
    rw [readPart] at hm
    split at hm
    · exact Or.inl (isGlued_of_mentions_description hid hs hm)
    · -- the id was in the description already, or the lowered first letter set it free
      rcases mentions_of_tail hid hm with hm | ⟨c, rest, hc, hrest, hdesc⟩
      · exact Or.inl (isGlued_of_mentions_description hid hs hm)
      · exact Or.inr ⟨h, c, rest, hs, hdesc, hc, hrest⟩
  · rw [mentions_iff, ← ids_subjectOf_trim hstart, ← mentions_iff]
    exact mentions_of_lint_ticketInSubject hlint

/-- A ticket that touches a word stays where it is. -/
theorem firstLine_mentions_glued :
    IsTicketId "ECHO-12".toList ∧
    mentions (firstLine (messageOfReply "feat: add loginECHO-12".toList (some "ECHO-12".toList)))
        "ECHO-12".toList = true ∧
      lint (messageOfReply "feat: add loginECHO-12".toList (some "ECHO-12".toList)) none =
        some (.ticketInSubject "ECHO-12".toList) := by
  have hid : IsTicketId "ECHO-12".toList :=
    ⟨"ECHO".toList, "12".toList, by decide, by decide, List.all_eq_true.mp (by decide),
      List.all_eq_true.mp (by decide), rfl⟩
  have hheader : looseHeader? (repairedLine "ECHO-12".toList
      (firstLine (unwrap "feat: add loginECHO-12".toList))) =
        some ⟨"feat".toList, none, false, "add loginECHO-12".toList⟩ := by decide
  refine ⟨hid, (firstLine_mentions_iff hid _).1.mpr ?_, by decide⟩
  rw [hheader]
  decide

/-- Another id is turned into the ticket. -/
example : messageOfReply "feat: XECHO-1 helps".toList (some "ECHO-1".toList) =
    "feat: xECHO-1 helps".toList := by decide

end MergeMessage.Commit
