import MergeMessage.Proofs.LineEnds

/-!
# Verdicts on lines

The rules that block a merge read a message across its line ends, but what they accept is a form of
the first line, and the rules that only advise look at lines and at ticket ids, none of which reaches
over the end of a line.  So a message that passes is judged by its lines, whatever ends them, and a
message that is blocked stays blocked.  Only the reason may change: where nothing follows the colon
and the space of a header, the rule on the form of the subject takes the carriage return of a line
end for the description, and it is the next rules that find something.

## Main definitions

* `Text.withReturns` — a text with a carriage return before each line feed.
* `LacksDescription` — a message whose subject ends behind the colon and a space.

## Main results

* `lines_withReturns`, `trim_withReturns` — the carriage returns belong to the line ends.
* `blocksMerge_lint_of_lines`, `lint_eq_of_lines` — a message is judged by its lines.
* `lint_withReturns_of_ne` — what else is reported of a message that is blocked.
* `lint_withReturns_agrees` — line ends make no difference.
-/

namespace MergeMessage

namespace Text

/-- The text with a carriage return before each line feed. -/
def withReturns (s : Text) : Text := s.flatMap fun c => if c = '\n' then ['\r', '\n'] else [c]

@[simp] theorem withReturns_nil : withReturns [] = [] := rfl

theorem withReturns_cons (c : Char) (s : Text) :
    withReturns (c :: s) = (if c = '\n' then ['\r', '\n'] else [c]) ++ withReturns s :=
  List.flatMap_cons

theorem withReturns_append (s t : Text) :
    withReturns (s ++ t) = withReturns s ++ withReturns t :=
  List.flatMap_append

theorem withReturns_eq_self {s : Text} (h : '\n' ∉ s) : withReturns s = s := by
  induction s with
  | nil => rfl
  | cons c s ih =>
    rw [List.mem_cons, not_or] at h
    rw [withReturns_cons, if_neg (Ne.symm h.1), ih h.2, List.singleton_append]

/-! ### Lines -/

/-- **The lines stay the same**: the carriage returns that are put in belong to the line ends. -/
theorem lines_withReturns {s : Text} (h : '\r' ∉ s) : lines (withReturns s) = lines s := by
  induction s using pieces_induction '\n' with
  | last s hs => rw [withReturns_eq_self hs]
  | cut line s hline ih =>
    rw [List.mem_append, List.mem_cons, not_or, not_or] at h
    have hreturn : '\n' ∉ line ++ ['\r'] := by simpa using hline
    rw [withReturns_append, withReturns_eq_self hline, withReturns_cons, if_pos rfl]
    calc lines (line ++ (['\r', '\n'] ++ withReturns s))
        = lines ((line ++ ['\r']) ++ '\n' :: withReturns s) := by simp
      _ = dropReturn (line ++ ['\r']) :: lines (withReturns s) := lines_append_newline hreturn _
      _ = line :: lines s := by rw [ih h.2.2]; simp [dropReturn, dropLastIf]
      _ = lines (line ++ '\n' :: s) := by rw [lines_append_newline hline, dropReturn_of_notMem h.1]

theorem withoutReturns_withReturns {s : Text} (h : '\r' ∉ s) :
    withoutReturns (withReturns s) = s := by
  induction s with
  | nil => rfl
  | cons c s ih =>
    rw [List.mem_cons, not_or] at h
    rw [withReturns_cons]
    split
    · next hc => rw [hc, List.cons_append, List.singleton_append, withoutReturns_return_newline, ih h.2]
    · rw [List.singleton_append, withoutReturns_cons fun hc => absurd hc.symm h.1, ih h.2]

/-! ### The ends of a text -/

theorem forall_blank_withReturns {s : Text} (h : ∀ c ∈ s, isBlank c = true) :
    ∀ c ∈ withReturns s, isBlank c = true := by
  intro c hc
  obtain ⟨d, hd, hc⟩ := List.mem_flatMap.mp hc
  split at hc
  · -- both characters of a line end are blank
    rcases List.mem_pair.mp hc with rfl | rfl <;> decide
  · rw [List.mem_singleton.mp hc]
    exact h d hd

theorem stopsAt_withReturns {s : Text} (h : StopsAt isBlank s) :
    StopsAt isBlank (withReturns s) := by
  cases s with
  | nil => simp
  | cons c s =>
    have hc : c ≠ '\n' := by
      rintro rfl
      exact absurd ((stopsAt_cons isBlank '\n' s).mp h) (by decide)
    rw [withReturns_cons, if_neg hc]
    simpa using h

theorem getLast?_withReturns (s : Text) : (withReturns s).getLast? = s.getLast? := by
  rcases List.eq_nil_or_concat s with rfl | ⟨s, c, rfl⟩
  · rfl
  · rw [List.concat_eq_append, withReturns_append, withReturns_cons, withReturns_nil,
      List.append_nil]
    split
    · next hc => simp [hc]
    · simp

/-- Blank characters at the ends go with their carriage returns. -/
theorem trim_withReturns (s : Text) : trim (withReturns s) = withReturns (trim s) := by
  obtain ⟨lead, tail, hlead, htail, hs⟩ := exists_trim_append s
  obtain ⟨hstart, hlast⟩ := trim_eq_self_iff.mp (trim_trim s)
  have hself : trim (withReturns (trim s)) = withReturns (trim s) :=
    trim_eq_self_iff.mpr ⟨stopsAt_withReturns hstart, by rwa [getLast?_withReturns]⟩
  conv_lhs => rw [hs]
  rw [withReturns_append, withReturns_append,
    trim_append_append (forall_blank_withReturns hlead) (forall_blank_withReturns htail), hself]

theorem lines_trim_withReturns {s : Text} (h : '\r' ∉ s) :
    lines (trim (withReturns s)) = lines (trim s) := by
  obtain ⟨lead, tail, -, -, hs⟩ := exists_trim_append s
  have htrim : '\r' ∉ trim s := fun hmem => h (by rw [hs]; simp [hmem])
  rw [trim_withReturns, lines_withReturns htrim]

end Text

namespace Commit

open Subject Text Ticket

section

variable {message other : Text} (hlines : lines other.trim = lines message.trim)
include hlines

theorem subjectOf_of_lines : subjectOf other.trim = subjectOf message.trim := by
  rw [subjectOf, subjectOf, hlines]

theorem ids_of_lines : ids other.trim = ids message.trim := by
  rw [ids_eq_flatMap_lines, ids_eq_flatMap_lines, hlines]

theorem hasStandardSubject_of_lines :
    HasStandardSubject other ↔ HasStandardSubject message := by
  rw [HasStandardSubject, HasStandardSubject, subjectOf_of_lines hlines]

/-- Whether a message is blocked is seen from its lines. -/
theorem blocksMerge_lint_of_lines (title : Option Text) :
    (lint other title).blocksMerge = (lint message title).blocksMerge := by
  rw [Bool.eq_iff_iff, ← not_iff_not, Bool.not_eq_true, Bool.not_eq_true,
    blocksMerge_lint_eq_false_iff, blocksMerge_lint_eq_false_iff,
    hasStandardSubject_of_lines hlines]

/-- The rules that only advise look at nothing but lines. -/
theorem adviceRules_of_lines (title : Option Text) :
    ∀ rule ∈ adviceRules,
      rule (Draft.ofMessage other title) = rule (Draft.ofMessage message title) := by
  have hdraft : Draft.ofMessage other title =
      { Draft.ofMessage message title with message := other.trim } := by
    simp only [Draft.ofMessage, firstId?, subjectOf_of_lines hlines, ids_of_lines hlines]
  rw [hdraft]
  simp only [adviceRules, List.forall_mem_cons]
  refine ⟨rfl, rfl, rfl, rfl, rfl, ?_, ?_, by simp⟩
  · exact congrArg (Option.bind _) (funext fun id =>
      when_congr (congrArg (fun all : List Text => !(all.drop 1).any (mentions · id)) hlines))
  · exact congrArg (Option.bind _) (funext fun id =>
      when_congr (congrArg (fun found => !found.contains id) (ids_of_lines hlines)))

/-- **A message that passes is judged by its lines.** -/
theorem lint_eq_of_lines {title : Option Text} (hpass : (lint message title).blocksMerge = false) :
    lint other title = lint message title := by
  have hadvice {m : Text} (hm : HasStandardSubject m) :
      lint m title = adviceRules.findSome? (· (Draft.ofMessage m title)) := by
    rw [lint, rules_eq_append, List.findSome?_append,
      List.findSome?_eq_none_iff.mpr (eq_none_of_hasStandardSubject hm title), Option.none_or]
  have hmessage := blocksMerge_lint_eq_false_iff.mp hpass
  rw [hadvice hmessage, hadvice ((hasStandardSubject_of_lines hlines).mpr hmessage),
    ← List.head?_filterMap, ← List.head?_filterMap,
    List.filterMap_congr (adviceRules_of_lines hlines title)]

end

theorem severity_eq_error_iff {verdict : Verdict} :
    verdict.severity = .error ↔ verdict.blocksMerge = true := by
  rw [Verdict.blocksMerge, beq_iff_eq]

theorem isValid_of_blocksMerge {verdict : Verdict} (h : verdict.blocksMerge = true) :
    verdict.isValid = false := by
  cases verdict with
  | none => cases h
  | some finding => rfl

/-! ### What changes in a message that is blocked -/

/-- If nothing is wrong before the colon, the rule on the form of the subject is next. -/
theorem lint_of_leadRules {message : Text} {title : Option Text}
    (h : ∀ rule ∈ leadRules, rule (Draft.ofMessage message title) = none) :
    lint message title = (Rule.malformedSubject (Draft.ofMessage message title)).or
      ((Rule.unknownType (Draft.ofMessage message title)).or
        ((Rule.missingDescription (Draft.ofMessage message title)).or
          (adviceRules.findSome? (· (Draft.ofMessage message title))))) := by
  rw [lint, rules_eq_leadRules_append, List.findSome?_append, List.findSome?_eq_none_iff.mpr h,
    Option.none_or]
  cases hm : Rule.malformedSubject (Draft.ofMessage message title) <;>
    cases hu : Rule.unknownType (Draft.ofMessage message title) <;>
    cases hd : Rule.missingDescription (Draft.ofMessage message title) <;>
    simp [hm, hu, hd]

/-- If carriage returns make a well formed header, they stand where its description should. -/
theorem exists_lead_of_kindOf? {s kind : Text} (h : kindOf? s = some kind)
    (hnone : kindOf? (withoutReturns s) = none) :
    ∃ header : Header, ∃ rest, header.HasStrictLead ∧ header.kind = kind ∧
      s = header.lead ++ '\r' :: '\n' :: rest := by
  obtain ⟨header, hlead, rfl, ⟨c, t, hc, hdesc⟩, rfl⟩ := kindOf?_eq_some_iff.mp h
  obtain ⟨rfl, ht⟩ : c = '\r' ∧ t.head? = some '\n' := by
    by_contra hend
    rw [not_and] at hend
    rw [kindOf?_withoutReturns_render hlead hc hdesc hend] at hnone
    cases hnone
  obtain ⟨rest, rfl⟩ := List.head?_eq_some_iff.mp ht
  exact ⟨header, rest, hlead, rfl, by rw [Header.render_eq_lead_append, hdesc]⟩

/-- The subject of a message is a header that ends behind its colon and a space. -/
structure LacksDescription (message : Text) (header : Header) : Prop where
  strict : header.HasStrictLead
  no_description : header.description = []
  subject : subjectOf message.trim = header.render

section

variable {message : Text} (h : '\r' ∉ message)
include h

theorem trim_eq_withoutReturns : message.trim = withoutReturns (withReturns message).trim := by
  rw [← trim_withoutReturns, withoutReturns_withReturns h]

/-- If the form of the subject is judged the same, so is the message. -/
theorem lint_withReturns_of_kindOf? (title : Option Text)
    (hkind : kindOf? (withReturns message).trim = kindOf? message.trim) :
    lint (withReturns message) title = lint message title := by
  have hlines := lines_trim_withReturns h
  have hrules : ∀ rule ∈ rules, rule (Draft.ofMessage (withReturns message) title) =
      rule (Draft.ofMessage message title) := by
    rw [rules_eq_leadRules_append, List.forall_mem_append]
    refine ⟨fun rule hrule => (leadRules_withoutReturns (trim_eq_withoutReturns h) rule hrule).symm,
      ?_⟩
    rw [List.forall_mem_cons, List.forall_mem_cons, List.forall_mem_cons]
    refine ⟨when_congr (congrArg Option.isNone hkind), congrArg (Option.bind · _) hkind,
      when_congr ?_, adviceRules_of_lines hlines title⟩
    exact congrArg (fun subject => (descriptionOf subject).isEmpty) (subjectOf_of_lines hlines)
  rw [lint, lint, ← List.head?_filterMap, ← List.head?_filterMap, List.filterMap_congr hrules]

/-- **What else is reported.**  If a verdict is another one with carriage returns, the subject ends
behind its colon and a space.  With line feeds only, this is no header; with a carriage return for
its description it is one, and the type or the description is what is wrong. -/
theorem lint_withReturns_of_ne {title : Option Text}
    (hne : lint (withReturns message) title ≠ lint message title) :
    ∃ header, LacksDescription message header ∧ lint message title = some .malformedSubject ∧
      lint (withReturns message) title =
        some (if header.kind ∈ standardTypes then .missingDescription
          else .unknownType header.kind) := by
  have hmessage := trim_eq_withoutReturns h
  have hdiffer := mt (lint_withReturns_of_kindOf? h title) hne
  -- the verdicts differ only if the form of the subject does, and then the text without
  -- carriage returns fails
  have hnone : kindOf? message.trim = none := by
    refine Option.eq_none_iff_forall_ne_some.mpr fun kind hkind => hdiffer ?_
    rw [hkind, kindOf?_of_withoutReturns (hmessage ▸ hkind)]
  obtain ⟨kind, hkind⟩ := Option.ne_none_iff_exists'.mp (hnone ▸ hdiffer)
  obtain ⟨header, rest, hlead, rfl, hs⟩ := exists_lead_of_kindOf? hkind (hmessage ▸ hnone)
  have hstrict (description : Text) :
      Header.HasStrictLead { header with description := description } :=
    ⟨hlead.kind_ne_nil, hlead.kind_lower, hlead.scope_kebab⟩
  -- the carriage return behind the lead is not part of the subject
  have hsubject : subjectOf (withReturns message).trim =
      { header with description := [] }.render := by
    have hline : '\n' ∉ header.lead ++ ['\r'] := by simp [newline_notMem_lead hlead]
    rw [hs, List.append_cons, subjectOf_append_newline hline, Header.render_eq_lead_append]
    simp [dropReturn, dropLastIf, Header.lead]
  have hrender : (Draft.ofMessage (withReturns message) title).message =
      { header with description := '\r' :: '\n' :: rest }.render := by
    rw [Header.render_eq_lead_append]
    exact hs
  have hrules := leadRules_render (hstrict _) hrender
  have hrules' : ∀ rule ∈ leadRules, rule (Draft.ofMessage message title) = none :=
    fun rule hrule => (leadRules_withoutReturns hmessage rule hrule).trans (hrules rule hrule)
  refine ⟨{ header with description := [] }, ⟨hstrict [], rfl, ?_⟩, ?_, ?_⟩
  · rw [← subjectOf_of_lines (lines_trim_withReturns h), hsubject]
  · rw [lint_of_leadRules hrules', Rule.malformedSubject, when_eq_some_iff.mpr ⟨?_, rfl⟩,
      Option.some_or]
    exact Option.isNone_iff_eq_none.mpr hnone
  · -- with it the form is accepted, and the type and the description are looked at
    have hform : Rule.malformedSubject (Draft.ofMessage (withReturns message) title) = none :=
      when_eq_none_iff.mpr (congrArg Option.isNone hkind)
    have hmissing : Rule.missingDescription (Draft.ofMessage (withReturns message) title) =
        some .missingDescription := by
      refine when_eq_some_iff.mpr ⟨?_, rfl⟩
      simp only [Draft.ofMessage, hsubject, descriptionOf_render (hstrict []), List.isEmpty_nil]
    have hunknown : Rule.unknownType (Draft.ofMessage (withReturns message) title) =
        if header.kind ∈ standardTypes then none else some (.unknownType header.kind) := by
      unfold Rule.unknownType
      simp only [Draft.ofMessage, hkind, Option.bind_some, List.contains_iff_mem]
    rw [lint_of_leadRules hrules, hform, hmissing, hunknown]
    split <;> rfl

/-- **Line ends make no difference.**  A message without carriage returns is as grave with a carriage
return before each line feed, and if it is not blocked, the same is reported.  If something else is
reported, the subject has no description. -/
theorem lint_withReturns_agrees (title : Option Text) :
    (lint (withReturns message) title).severity = (lint message title).severity ∧
    (lint (withReturns message) title).isValid = (lint message title).isValid ∧
    ((lint message title).severity ≠ .error →
      (lint (withReturns message) title).errors = (lint message title).errors) ∧
    (lint (withReturns message) title ≠ lint message title →
      ∃ header, LacksDescription message header ∧ lint message title = some .malformedSubject ∧
        lint (withReturns message) title =
          some (if header.kind ∈ standardTypes then .missingDescription
            else .unknownType header.kind)) := by
  have hlines := lines_trim_withReturns h
  have hblocks := blocksMerge_lint_of_lines hlines title
  refine and_assoc.mp (and_assoc.mp ⟨?_, lint_withReturns_of_ne h⟩)
  cases hmessage : (lint message title).blocksMerge with
  | false =>
    rw [lint_eq_of_lines hlines hmessage]
    exact ⟨⟨rfl, rfl⟩, fun _ => rfl⟩
  | true =>
    rw [hmessage] at hblocks
    have herror := severity_eq_error_iff.mpr hmessage
    refine ⟨⟨(severity_eq_error_iff.mpr hblocks).trans herror.symm, ?_⟩, fun hne => ?_⟩
    · rw [isValid_of_blocksMerge hblocks, isValid_of_blocksMerge hmessage]
    · exact absurd herror hne

end

/-- The ticket of a neighbour in the body is found with either line ends, and an unknown type is only
named where a carriage return stands for the description. -/
theorem lint_withReturns_agrees_crowded :
    '\r' ∉ "feat: add x\n\nRefs ECHO-12".toList ∧
    (lint (withReturns "feat: add x\n\nRefs ECHO-12".toList) (some "ECHO-1 Add x".toList)).errors =
      ["Add the ticket (ECHO-1) from the pull request title to the commit.".toList] ∧
    lint "feature: \nbody".toList none = some .malformedSubject ∧
    lint (withReturns "feature: \nbody".toList) none =
      some (.unknownType "feature".toList) ∧
    (lint (withReturns "feature: \nbody".toList) none).severity = .error := by
  obtain ⟨-, -, herrors, -⟩ := @lint_withReturns_agrees
    "feat: add x\n\nRefs ECHO-12".toList (by decide) (some "ECHO-1 Add x".toList)
  obtain ⟨hseverity, -, -, -⟩ := @lint_withReturns_agrees
    "feature: \nbody".toList (by decide) none
  refine ⟨by decide, (herrors (by decide +kernel)).trans (by decide +kernel), by decide +kernel,
    by decide +kernel, hseverity.trans (by decide +kernel)⟩

end Commit

end MergeMessage
