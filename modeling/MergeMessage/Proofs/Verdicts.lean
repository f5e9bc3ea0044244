import Mathlib.Data.List.Pairwise
import MergeMessage.Proofs.Advice

/-!
# The finding that is reported

Many rules may find something on a message, but only the first finding is reported.  The order of
the rules sees to it that none of the others is more serious, so a remark never hides an error.  The
last rule is the only one that looks at the title of the pull request.  A title can therefore take a
message's validity away, but it can neither change what was found without it nor hide it.

## Main definitions

* `findings` — what each rule finds on its own.
* `IsHighest` — the highest severity of some findings.
* `messageRules` — the rules that do not look at the title.

## Main results

* `findings_pairwise` — the findings go from serious to less serious ones.
* `lint_eq_or_contextTicketMissing` — what a title adds to the verdict without one.
* `lint_reports_gravest_whatever_title` — the verdict is the gravest finding, and what a title does.
-/

namespace MergeMessage.Commit

open Text Ticket

/-- What the rules find on a message when each of them is tried on its own, in their order. -/
def findings (message : Text) (title : Option Text) : List Finding :=
  rules.filterMap fun rule => rule (Draft.ofMessage message title)

/-- The severity is the highest one among the findings: none is more serious, and it is that of one
of them unless there are none. -/
structure IsHighest (severity : Severity) (found : List Finding) : Prop where
  bound : ∀ finding ∈ found, finding.severity.rank ≤ severity.rank
  attained : severity = .none ∧ found = [] ∨ ∃ finding ∈ found, finding.severity = severity

/-! ### The order of the findings -/

/-- The verdict is the first of all findings. -/
theorem lint_eq_head?_findings (message : Text) (title : Option Text) :
    lint message title = (findings message title).head? := by
  rw [findings, List.head?_filterMap, lint]

/-- Rules that all report one severity have nothing but findings of that severity. -/
theorem severity_of_mem_filterMap {severity : Severity} {group : List Rule}
    (h : ∀ rule ∈ group, Reports severity rule) (d : Draft) :
    ∀ finding ∈ group.filterMap (fun rule => rule d), finding.severity = severity := by
  intro finding hfinding
  obtain ⟨rule, hrule, hf⟩ := List.mem_filterMap.mp hfinding
  exact h rule hrule d finding hf

/-- The findings of a message never get more serious from one to the next. -/
theorem findings_pairwise (message : Text) (title : Option Text) :
    (findings message title).Pairwise fun earlier later =>
      later.severity.rank ≤ earlier.severity.rank := by
  have herror := severity_of_mem_filterMap reports_error (Draft.ofMessage message title)
  have hwarning := severity_of_mem_filterMap reports_warning (Draft.ofMessage message title)
  rw [findings, rules_eq_append, List.filterMap_append, List.pairwise_append]
  refine ⟨List.pairwise_of_forall_mem_list ?_, List.pairwise_of_forall_mem_list ?_, ?_⟩
  · intro earlier hearlier later hlater
    rw [herror earlier hearlier, herror later hlater]
  · intro earlier hearlier later hlater
    rw [hwarning earlier hearlier, hwarning later hlater]
  · -- errors stand before remarks
    intro earlier hearlier later hlater
    rw [herror earlier hearlier, hwarning later hlater]
    decide

/-- Of findings that never get more serious, the first has the highest severity. -/
theorem isHighest_head? {found : List Finding}
    (h : found.Pairwise fun earlier later => later.severity.rank ≤ earlier.severity.rank) :
    IsHighest (Verdict.severity found.head?) found := by
  cases h with
  | nil => exact ⟨by simp, .inl ⟨rfl, rfl⟩⟩
  | @cons first others hfirst _ =>
    refine ⟨?_, .inr ⟨first, List.mem_cons_self, rfl⟩⟩
    intro finding hfinding
    rcases List.mem_cons.mp hfinding with rfl | hfinding
    · exact le_refl _
    · exact hfirst finding hfinding

theorem isHighest_lint (message : Text) (title : Option Text) :
    IsHighest (lint message title).severity (findings message title) := by
  rw [lint_eq_head?_findings]
  exact isHighest_head? (findings_pairwise message title)

/-! ### Verdicts as they are told -/

theorem Finding.severity_ne_none (finding : Finding) : finding.severity ≠ .none := by
  cases finding <;> simp [severity]

theorem Verdict.isValid_iff_severity {v : Verdict} : v.isValid = true ↔ v.severity = .none := by
  cases v with
  | none => simp
  | some finding => simp [finding.severity_ne_none]

theorem Verdict.errors_eq_nil_iff {v : Verdict} : v.errors = [] ↔ v.isValid = true := by
  cases v <;> simp [errors]

/-! ### The title -/

open Rule in
/-- The rules that look at the message alone: all but the last. -/
def messageRules : List Rule :=
  [noMessage, leadingTicket, scopeWithoutColon, spaceBeforeScope, uppercaseType, scopeNotKebab,
    malformedSubject, unknownType, missingDescription, uppercaseDescription, endPunctuation,
    subjectTooLong, subjectLong, ticketInSubject, ticketNotInFooter]

theorem rules_eq_concat : rules = messageRules ++ [Rule.contextTicketMissing] := rfl

/-- What these rules find is the same for every title. -/
theorem messageRules_eq_of_title (message : Text) (title : Option Text) :
    ∀ rule ∈ messageRules,
      rule (Draft.ofMessage message title) = rule (Draft.ofMessage message none) := by
  simp only [messageRules, List.forall_mem_cons]
  exact ⟨rfl, rfl, rfl, rfl, rfl, rfl, rfl, rfl, rfl, rfl, rfl, rfl, rfl, rfl, rfl, by simp⟩

/-- Without a title nothing is asked of the message for its sake. -/
theorem contextTicketMissing_of_no_title (message : Text) :
    Rule.contextTicketMissing (Draft.ofMessage message none) = none := by
  rw [contextTicketMissing_eq_none_iff]
  simp

theorem contextTicketMissing_eq_some_iff {message title : Text} {finding : Finding} :
    Rule.contextTicketMissing (Draft.ofMessage message (some title)) = some finding ↔
      ∃ id, firstId? title = some id ∧ mentions message id = false ∧
        finding = .contextTicketMissing id := by
  rw [Rule.contextTicketMissing, Option.bind_eq_some_iff]
  refine exists_congr fun id => and_congr Iff.rfl ?_
  rw [when_eq_some_iff, eq_comm (b := finding)]
  simp [Draft.ofMessage, mentions, ids_trim]

/-- **What a title adds.**  The verdict without a title stands; only if there is nothing to report
does the rule about the title have its say. -/
theorem lint_eq_or_contextTicketMissing (message : Text) (title : Option Text) :
    lint message title =
      (lint message none).or (Rule.contextTicketMissing (Draft.ofMessage message title)) := by
  have hsame : messageRules.findSome? (· (Draft.ofMessage message title)) =
      messageRules.findSome? (· (Draft.ofMessage message none)) := by
    rw [← List.head?_filterMap, ← List.head?_filterMap,
      List.filterMap_congr (messageRules_eq_of_title message title)]
  have hlast : ∀ d, [Rule.contextTicketMissing].findSome? (· d) = Rule.contextTicketMissing d := by
    intro d
    cases hd : Rule.contextTicketMissing d <;> simp [hd]
  rw [lint, lint, rules_eq_concat, List.findSome?_append, List.findSome?_append, hsame, hlast,
    hlast, contextTicketMissing_of_no_title, Option.or_none]

section

variable {message : Text}

theorem lint_eq_of_not_valid (h : (lint message none).isValid = false) (title : Option Text) :
    lint message title = lint message none := by
  rw [lint_eq_or_contextTicketMissing message title]
  cases hverdict : lint message none with
  | none => rw [hverdict] at h; simp at h
  | some finding => rfl

theorem lint_eq_of_valid (h : (lint message none).isValid = true) (title : Option Text) :
    lint message title = Rule.contextTicketMissing (Draft.ofMessage message title) := by
  have hnone : lint message none = none := Option.isNone_iff_eq_none.mp h
  rw [lint_eq_or_contextTicketMissing message title, hnone, Option.none_or]

end

/-- **The verdict is the gravest finding, whatever the title.**  Its severity is the highest one of
all findings, it tells the text of the first of them and nothing else, and it is valid if there are
none.  A message that is not valid without a title gets the same verdict with every title.  One that
is valid stays so, or the author is advised to add the first ticket of the title; the latter exactly
if the message does not mention that ticket. -/
theorem lint_reports_gravest_whatever_title (message : Text) :
    (∀ title, IsHighest (lint message title).severity (findings message title) ∧
      (lint message title).errors = ((findings message title).head?.map Finding.message).toList ∧
      ((lint message title).errors = [] ↔ (lint message title).isValid = true) ∧
      ((lint message title).isValid = true ↔ (lint message title).severity = .none)) ∧
    ((lint message none).isValid = false → ∀ title, lint message title = lint message none) ∧
    ((lint message none).isValid = true → ∀ title : Text,
      ((lint message (some title)).isValid = true ∨
        ∃ id, firstId? title = some id ∧ (lint message (some title)).severity = .warning ∧
          (lint message (some title)).errors = ["Add the ticket (".toList ++ id ++
            ") from the pull request title to the commit.".toList]) ∧
      ((lint message (some title)).isValid = false ↔
        ∃ id, firstId? title = some id ∧ mentions message id = false)) := by
  refine ⟨fun title => ⟨isHighest_lint message title, ?_, Verdict.errors_eq_nil_iff,
    Verdict.isValid_iff_severity⟩, lint_eq_of_not_valid, fun hvalid title => ?_⟩
  · rw [lint_eq_head?_findings, Verdict.errors]
  · -- only the last rule reads the title
    have hlint := lint_eq_of_valid hvalid (some title)
    cases hlast : Rule.contextTicketMissing (Draft.ofMessage message (some title)) with
    | none =>
      rw [hlast] at hlint
      refine ⟨.inl (by rw [hlint]; rfl), ?_⟩
      rw [contextTicketMissing_eq_none_iff] at hlast
      rw [hlint]
      refine iff_of_false (by simp) ?_
      rintro ⟨id, hid, hmissing⟩
      rw [hlast id hid] at hmissing
      simp at hmissing
    | some finding =>
      rw [hlast] at hlint
      obtain ⟨id, hid, hmissing, rfl⟩ := contextTicketMissing_eq_some_iff.mp hlast
      refine ⟨.inr ⟨id, hid, by rw [hlint]; rfl, by rw [hlint]; rfl⟩, ?_⟩
      rw [hlint]
      exact iff_of_true rfl ⟨id, hid, hmissing⟩

/-- A capital letter at the front of the description is reported with every title.  The ticket of
a title is missed if only its neighbour is mentioned. -/
theorem lint_reports_gravest_beside_neighbour :
    (∀ title, lint "feat: Add a switch for the dark mode to all of the settings".toList title =
      some .uppercaseDescription) ∧
    ((lint "feat: add x\n\nECHO-12".toList (some "ECHO-1 Add x".toList)).isValid = false ∧
      (lint "feat: add x\n\nECHO-12".toList (some "ECHO-12 Add x".toList)).isValid = true) := by
  have hlong := lint_reports_gravest_whatever_title
    "feat: Add a switch for the dark mode to all of the settings".toList
  have hticket := lint_reports_gravest_whatever_title "feat: add x\n\nECHO-12".toList
  have hvalid : (lint "feat: add x\n\nECHO-12".toList none).isValid = true := by decide
  refine ⟨fun title => ?_, ?_, ?_⟩
  · rw [hlong.2.1 (by decide) title]
    decide
  · exact (hticket.2.2 hvalid _).2.mpr ⟨"ECHO-1".toList, by decide, by decide⟩
  · rw [← Bool.not_eq_false, (hticket.2.2 hvalid _).2]
    rintro ⟨id, hid, hmissing⟩
    obtain rfl : "ECHO-12".toList = id := by
      have hfirst : firstId? "ECHO-12 Add x".toList = some "ECHO-12".toList := by decide
      exact Option.some.inj (hfirst.symm.trans hid)
    exact absurd hmissing (by decide)

end MergeMessage.Commit
