import MergeMessage.Proofs.LintGrammar
import MergeMessage.Proofs.TicketPlaces

/-!
# Following the advice

The rules that only advise look at the first ticket of the whole message, but what they ask for can
be said of every ticket: an id does not reach over the end of a line, so the first ticket of the
message is the first one of its subject if the subject has any, and otherwise it stands whole in a
later line.  Hence one rule never has anything to report: a message whose subject has no ticket
carries its first ticket in the body.

## Main definitions

* `FollowsAdvice` — what a message that passes must be to be valid.
* `earlierRules` — the rules before the one about tickets outside of the body.

## Main results

* `ids_eq_subject_append` — the ids of a message are those of its subject and of its body.
* `adviceRules_eq_none_iff` — when the rules that only advise find nothing.
* `isValid_lint_iff_followsAdvice` — when a message that passes is valid.
-/

namespace MergeMessage.Commit

open Text Ticket

/-- The message keeps to the advice: its description starts with no ASCII capital and ends with no
punctuation mark, its subject is short and holds nothing of the form of a ticket id, and it mentions
the first ticket of the title. -/
structure FollowsAdvice (message : Text) (title : Option Text) : Prop where
  starts_small : ∀ c ∈ (descriptionOf (subjectOf message.trim)).head?, c.isUpper = false
  no_end_mark : ∀ c ∈ (descriptionOf (subjectOf message.trim)).getLast?, c ∉ ['.', '!', '?']
  short : (subjectOf message.trim).length ≤ 50
  no_ticket : ∀ id, IsTicketId id → ¬id <:+: subjectOf message.trim
  title_ticket : ∀ id ∈ title.bind firstId?, mentions message id = true

/-! ### Tickets of a message -/

/-- The ids of a message are those of its subject and those of the later lines. -/
theorem ids_eq_subject_append (message : Text) :
    ids message = ids (subjectOf message) ++ (message.lines.drop 1).flatMap ids := by
  rw [ids_eq_flatMap_lines, subjectOf]
  cases message.lines with
  | nil => rfl
  | cons line lines => rw [List.flatMap_cons]; rfl

/-- The first ticket of a message is that of its subject, if there is any. -/
theorem firstId?_mentioned_iff {message : Text} :
    (∃ id ∈ firstId? message, mentions (subjectOf message) id = true) ↔
      ids (subjectOf message) ≠ [] := by
  rw [firstId?, ids_eq_subject_append]
  cases hids : ids (subjectOf message) with
  | nil => simp [mentions, hids]
  | cons id more => simp [mentions, hids]

/-- The first ticket of a message whose subject has none stands whole in a later line. -/
theorem exists_line_of_firstId? {message id : Text} (hnone : ids (subjectOf message) = [])
    (hid : firstId? message = some id) :
    ∃ line ∈ message.lines.drop 1, mentions line id = true := by
  have hmem : id ∈ ids message := List.mem_of_head? hid
  rw [ids_eq_subject_append, hnone, List.nil_append, List.mem_flatMap] at hmem
  obtain ⟨line, hline, hid⟩ := hmem
  exact ⟨line, hline, mentions_iff.mpr hid⟩

/-! ### Rules about tickets -/

theorem bind_when_eq_none_iff {ticket : Draft → Option Text} {condition : Text → Draft → Bool}
    {finding : Text → Finding} {d : Draft} :
    ((ticket d).bind fun id => Rule.when (condition id) (finding id) d) = none ↔
      ∀ id ∈ ticket d, condition id d = false := by
  cases ticket d <;> simp [when_eq_none_iff]

section

variable {message : Text} {title : Option Text}

/-- The rule about the first ticket of the message speaks for all tickets of the subject. -/
theorem ticketInSubject_eq_none_iff :
    Rule.ticketInSubject (Draft.ofMessage message title) = none ↔
      ids (subjectOf message.trim) = [] := by
  rw [Rule.ticketInSubject, bind_when_eq_none_iff, ← not_iff_not, ← ne_eq (ids _),
    ← firstId?_mentioned_iff]
  simp [Draft.ofMessage]

/-- The ticket of a message is in its body or in its subject. -/
theorem ticketNotInFooter_eq_none
    (h : Rule.ticketInSubject (Draft.ofMessage message title) = none) :
    Rule.ticketNotInFooter (Draft.ofMessage message title) = none := by
  rw [Rule.ticketNotInFooter, bind_when_eq_none_iff]
  intro id hid
  obtain ⟨line, hline, hmention⟩ :=
    exists_line_of_firstId? (ticketInSubject_eq_none_iff.mp h) hid
  rw [Bool.not_eq_false', List.any_eq_true]
  exact ⟨line, hline, hmention⟩

theorem contextTicketMissing_eq_none_iff :
    Rule.contextTicketMissing (Draft.ofMessage message title) = none ↔
      ∀ id ∈ title.bind firstId?, mentions message id = true := by
  rw [Rule.contextTicketMissing, bind_when_eq_none_iff]
  simp [Draft.ofMessage, mentions, ids_trim]

end

/-! ### The advice as a whole -/

theorem isEndMark_eq_false_iff {c : Char} : Rule.isEndMark c = false ↔ c ∉ ['.', '!', '?'] := by
  simp [Rule.isEndMark, and_assoc]

/-- **When the rules that only advise find nothing.** -/
theorem adviceRules_eq_none_iff {message : Text} {title : Option Text} :
    (∀ rule ∈ adviceRules, rule (Draft.ofMessage message title) = none) ↔
      FollowsAdvice message title := by
  simp only [adviceRules, List.forall_mem_cons]
  constructor
  · rintro ⟨hupper, hmark, -, hlong, hsubject, -, htitle, -⟩
    refine ⟨?_, ?_, ?_, ids_eq_nil_iff.mp (ticketInSubject_eq_none_iff.mp hsubject),
      contextTicketMissing_eq_none_iff.mp htitle⟩
    · exact (Option.any_eq_false _ _).mp (when_eq_none_iff.mp hupper)
    · intro c hc
      rw [← isEndMark_eq_false_iff]
      exact (Option.any_eq_false _ _).mp (when_eq_none_iff.mp hmark) c hc
    · simpa [Draft.ofMessage, subjectPreferred] using when_eq_none_iff.mp hlong
  · rintro ⟨hupper, hmark, hshort, hsubject, htitle⟩
    have hsubject : Rule.ticketInSubject (Draft.ofMessage message title) = none :=
      ticketInSubject_eq_none_iff.mpr (ids_eq_nil_iff.mpr hsubject)
    refine ⟨when_eq_none_iff.mpr ?_, when_eq_none_iff.mpr ?_, when_eq_none_iff.mpr ?_,
      when_eq_none_iff.mpr ?_, hsubject, ticketNotInFooter_eq_none hsubject,
      contextTicketMissing_eq_none_iff.mpr htitle, by simp⟩
    · exact (Option.any_eq_false _ _).mpr hupper
    · exact (Option.any_eq_false _ _).mpr fun c hc => isEndMark_eq_false_iff.mpr (hmark c hc)
    · simp only [Draft.ofMessage, subjectLimit, gt_iff_lt, decide_eq_false_iff_not]
      omega
    · simpa [Draft.ofMessage, subjectPreferred] using hshort

/-- A message is valid if no rule finds anything. -/
theorem isValid_lint_iff {message : Text} {title : Option Text} :
    (lint message title).isValid = true ↔
      (∀ rule ∈ errorRules, rule (Draft.ofMessage message title) = none) ∧
        ∀ rule ∈ adviceRules, rule (Draft.ofMessage message title) = none := by
  rw [Verdict.isValid, Option.isNone_iff_eq_none, lint, List.findSome?_eq_none_iff,
    rules_eq_append, List.forall_mem_append]

/-! ### A rule without findings -/

open Rule in
/-- The rules that are tried before the one about tickets outside of the body. -/
def earlierRules : List Rule :=
  errorRules ++ [uppercaseDescription, endPunctuation, subjectTooLong, subjectLong, ticketInSubject]

theorem rules_eq_earlier_append :
    rules = earlierRules ++ [Rule.ticketNotInFooter, Rule.contextTicketMissing] := rfl

/-- Only one rule reports that a ticket is not in the body. -/
theorem earlierRules_ne_ticketNotInFooter {rule : Rule} (hrule : rule ∈ earlierRules) (d : Draft)
    (id : Text) : rule d ≠ some (.ticketNotInFooter id) := by
  intro hf
  rw [earlierRules, List.mem_append] at hrule
  rcases hrule with hrule | hrule
  · exact absurd (reports_error rule hrule d _ hf) (by simp [Finding.severity])
  · simp only [List.mem_cons, List.not_mem_nil, or_false] at hrule
    rcases hrule with rfl | rfl | rfl | rfl | rfl
    · simpa using (when_eq_some_iff.mp hf).2
    · simpa using (when_eq_some_iff.mp hf).2
    · simpa using (when_eq_some_iff.mp hf).2
    · simpa using (when_eq_some_iff.mp hf).2
    · obtain ⟨other, -, hother⟩ := Option.bind_eq_some_iff.mp hf
      simpa using (when_eq_some_iff.mp hother).2

theorem lint_ne_ticketNotInFooter (message : Text) (title : Option Text) (id : Text) :
    lint message title ≠ some (.ticketNotInFooter id) := by
  intro hf
  rw [lint, rules_eq_earlier_append, List.findSome?_append, Option.or_eq_some_iff] at hf
  rcases hf with hf | ⟨hearlier, hf⟩
  · obtain ⟨rule, hrule, hf⟩ := List.exists_of_findSome?_eq_some hf
    exact earlierRules_ne_ticketNotInFooter hrule _ id hf
  · -- the rule comes after the one about the subject, which has not found anything
    have hsubject := List.findSome?_eq_none_iff.mp hearlier Rule.ticketInSubject
      (by simp [earlierRules])
    rw [List.findSome?_cons, ticketNotInFooter_eq_none hsubject] at hf
    obtain ⟨rule, hrule, hf⟩ := List.exists_of_findSome?_eq_some hf
    obtain rfl := List.mem_singleton.mp hrule
    obtain ⟨other, -, hother⟩ := Option.bind_eq_some_iff.mp hf
    simpa using (when_eq_some_iff.mp hother).2

/-- **When a message that passes is valid.**  It must keep to the advice, and then no ticket at all
stands in its subject.  That a ticket is not in the body is never reported: if no earlier rule finds
anything, the first ticket of the message stands whole in a later line. -/
theorem isValid_lint_iff_followsAdvice (message : Text) (title : Option Text) :
    ((lint message title).blocksMerge = false →
      ((lint message title).isValid = true ↔ FollowsAdvice message title)) ∧
    (∀ id, lint message title ≠ some (.ticketNotInFooter id)) ∧
    ((∀ rule ∈ earlierRules, rule (Draft.ofMessage message title) = none) →
      ∀ id ∈ firstId? message, ∃ line ∈ message.trim.lines.drop 1, mentions line id = true) := by
  refine ⟨fun hpass => ?_, lint_ne_ticketNotInFooter message title, fun hearlier id hid => ?_⟩
  · have hstandard := blocksMerge_lint_eq_false_iff.mp hpass
    rw [isValid_lint_iff, adviceRules_eq_none_iff]
    exact and_iff_right (eq_none_of_hasStandardSubject hstandard title)
  · have hsubject := hearlier Rule.ticketInSubject (by simp [earlierRules])
    refine exists_line_of_firstId? (ticketInSubject_eq_none_iff.mp hsubject) ?_
    rwa [firstId?, ids_trim]

/-- A ticket in the body is what the title of its own pull request asks for, and not what that of a
neighbour does. -/
theorem followsAdvice_beside_neighbour :
    FollowsAdvice "feat: add x\r\n\r\nECHO-12".toList (some "ECHO-12 Add x".toList) ∧
      ¬FollowsAdvice "feat: add x\r\n\r\nECHO-12".toList (some "ECHO-1 Add x".toList) := by
  have hpass : ∀ title ∈ [some "ECHO-12 Add x".toList, some "ECHO-1 Add x".toList],
      (lint "feat: add x\r\n\r\nECHO-12".toList title).blocksMerge = false := by decide
  constructor
  · exact ((isValid_lint_iff_followsAdvice _ _).1 (hpass _ (by simp))).mp (by decide)
  · intro hadvice
    exact absurd (((isValid_lint_iff_followsAdvice _ _).1 (hpass _ (by simp))).mpr hadvice)
      (by decide)

end MergeMessage.Commit
