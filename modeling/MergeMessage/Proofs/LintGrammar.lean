import MergeMessage.Proofs.Subjects

/-!
# The grammar behind the rules

Nine rules block a merge.  They look at a message in overlapping ways, most of them across line
ends, but together they accept a plain grammar of the first line: a standard type, an optional
scope in kebab case, an optional exclamation mark, a colon, a space and a description.

## Main definitions

* `Header.IsStandard`, `HasStandardSubject` — the grammar.
* `errorRules`, `adviceRules` — the rules that block a merge, and the others.
* `leadRules` — those that look for mistakes before the colon.

## Main results

* `blocksMerge_lint_iff` — a merge is blocked when one of the nine rules finds something.
* `eq_none_of_hasStrictLead` — the rules that diagnose a bad lead are silent on strict leads.
* `lint_passes_iff_hasStandardSubject` — the nine rules accept exactly the grammar.
-/

namespace MergeMessage.Commit

open Subject Text

/-! ### The grammar -/

/-- A header in the form that is asked for. -/
structure Header.IsStandard (h : Header) : Prop where
  kind_mem : h.kind ∈ standardTypes
  scope_kebab : ∀ scope ∈ h.scope, IsKebabScope scope
  description_ne_nil : h.description ≠ []

/-- The first line of the message is a header in the form that is asked for. -/
def HasStandardSubject (message : Text) : Prop :=
  ∃ h : Header, h.IsStandard ∧ subjectOf message.trim = h.render

theorem standardTypes_lower : ∀ kind ∈ standardTypes,
    kind ≠ [] ∧ ∀ c ∈ kind, c.isLower = true := by
  have hall : standardTypes.all (fun kind => kind ≠ [] && kind.all Char.isLower) = true := by
    decide
  intro kind hkind
  simpa using List.all_eq_true.mp hall kind hkind

theorem Header.IsStandard.hasStrictLead {h : Header} (hh : h.IsStandard) : h.HasStrictLead where
  kind_ne_nil := (standardTypes_lower h.kind hh.kind_mem).1
  kind_lower := (standardTypes_lower h.kind hh.kind_mem).2
  scope_kebab := hh.scope_kebab

/-! ### Rules by severity -/

open Rule in
/-- The rules that block a merge. -/
def errorRules : List Rule :=
  [noMessage, leadingTicket, scopeWithoutColon, spaceBeforeScope, uppercaseType, scopeNotKebab,
    malformedSubject, unknownType, missingDescription]

open Rule in
/-- The rules that only advise. -/
def adviceRules : List Rule :=
  [uppercaseDescription, endPunctuation, subjectTooLong, subjectLong, ticketInSubject,
    ticketNotInFooter, contextTicketMissing]

open Rule in
/-- The rules that look for mistakes before the colon. -/
def leadRules : List Rule :=
  [noMessage, leadingTicket, scopeWithoutColon, spaceBeforeScope, uppercaseType, scopeNotKebab]

theorem rules_eq_append : rules = errorRules ++ adviceRules := rfl

open Rule in
theorem errorRules_eq_leadRules_append :
    errorRules = leadRules ++ [malformedSubject, unknownType, missingDescription] := rfl

/-- All findings of a rule have this severity. -/
def Reports (severity : Severity) (rule : Rule) : Prop :=
  ∀ d finding, rule d = some finding → finding.severity = severity

theorem when_eq_some_iff {condition : Draft → Bool} {finding f : Finding} {d : Draft} :
    Rule.when condition finding d = some f ↔ condition d = true ∧ finding = f := by
  simp [Rule.when]

theorem when_eq_none_iff {condition : Draft → Bool} {finding : Finding} {d : Draft} :
    Rule.when condition finding d = none ↔ condition d = false := by
  simp [Rule.when]

theorem reports_when (condition : Draft → Bool) (finding : Finding) :
    Reports finding.severity (Rule.when condition finding) := by
  intro d f hf
  rw [(when_eq_some_iff.mp hf).2]

theorem unknownType_eq_some_iff {d : Draft} {f : Finding} :
    Rule.unknownType d = some f ↔
      ∃ kind, kindOf? d.message = some kind ∧ kind ∉ standardTypes ∧ f = .unknownType kind := by
  cases hk : kindOf? d.message with
  | none => simp [Rule.unknownType, hk]
  | some kind =>
    by_cases hmem : kind ∈ standardTypes
    · simp [Rule.unknownType, hk, hmem]
    · simp [Rule.unknownType, hk, hmem, eq_comm]

/-- A rule about one ticket reports nothing but what it says about that ticket. -/
theorem reports_bind_when {severity : Severity} (ticket : Draft → Option Text)
    (condition : Text → Draft → Bool) (finding : Text → Finding)
    (h : ∀ id, (finding id).severity = severity) :
    Reports severity fun d => (ticket d).bind fun id => Rule.when (condition id) (finding id) d := by
  intro d f hf
  obtain ⟨id, -, hid⟩ := Option.bind_eq_some_iff.mp hf
  rw [← (when_eq_some_iff.mp hid).2, h id]

theorem reports_unknownType : Reports .error Rule.unknownType := by
  intro d f hf
  obtain ⟨kind, -, -, rfl⟩ := unknownType_eq_some_iff.mp hf
  rfl

theorem reports_error : ∀ rule ∈ errorRules, Reports .error rule := by
  simp only [errorRules, List.forall_mem_cons]
  exact ⟨reports_when _ _, reports_when _ _, reports_when _ _, reports_when _ _, reports_when _ _,
    reports_when _ _, reports_when _ _, reports_unknownType, reports_when _ _, by simp⟩

theorem reports_warning : ∀ rule ∈ adviceRules, Reports .warning rule := by
  simp only [adviceRules, List.forall_mem_cons]
  exact ⟨reports_when _ _, reports_when _ _, reports_when _ _, reports_when _ _,
    reports_bind_when _ _ _ fun _ => rfl, reports_bind_when _ _ _ fun _ => rfl,
    reports_bind_when _ _ _ fun _ => rfl, by simp⟩

/-- **When a merge is blocked.**  Some rule of the nine finds something; what the others find
never blocks, and is never reported before. -/
theorem blocksMerge_lint_iff {message : Text} {title : Option Text} :
    (lint message title).blocksMerge = true ↔
      ∃ rule ∈ errorRules, rule (Draft.ofMessage message title) ≠ none := by
  rw [lint, rules_eq_append, List.findSome?_append]
  cases herr : errorRules.findSome? (· (Draft.ofMessage message title)) with
  | some finding =>
    -- one of the nine finds something, and what it finds is an error
    obtain ⟨rule, hrule, hf⟩ := List.exists_of_findSome?_eq_some herr
    have hsev := reports_error rule hrule _ _ hf
    simp only [Option.some_or, Verdict.blocksMerge, Verdict.severity_some, hsev, beq_self_eq_true,
      true_iff]
    exact ⟨rule, hrule, by simp [hf]⟩
  | none =>
    rw [List.findSome?_eq_none_iff] at herr
    have hnone : ¬∃ rule ∈ errorRules, rule (Draft.ofMessage message title) ≠ none := by
      rintro ⟨rule, hrule, hne⟩
      exact hne (herr rule hrule)
    simp only [Option.none_or, hnone, iff_false, Bool.not_eq_true]
    -- the others are asked, but they only advise
    cases hadv : adviceRules.findSome? (· (Draft.ofMessage message title)) with
    | none => rfl
    | some finding =>
      obtain ⟨rule, hrule, hf⟩ := List.exists_of_findSome?_eq_some hadv
      simp [Verdict.blocksMerge, reports_warning rule hrule _ _ hf]

/-! ### Diagnoses of a bad lead

Each of the following rules recognizes one way to get the lead wrong.  On a strict lead the
readers stop where the grammar says, so none of them sees what it looks for. -/

section

variable {h : Header} (hlead : h.HasStrictLead)

include hlead

/-- The type of a strict lead is the run of small letters at its front. -/
theorem run?_isLower_render :
    run? Char.isLower h.render = some (h.kind, renderScope h.scope ++
      (renderBreaking h.breaking ++ ':' :: ' ' :: h.description)) := by
  rw [Header.render_eq]
  exact run?_append hlead.kind_ne_nil hlead.kind_lower
    (stopsAt_renderScope (by decide) (by decide) (by decide) _ _ _)

theorem startsWithTicket_render : Rule.startsWithTicket h.render = false := by
  obtain ⟨c, s, hk⟩ := List.exists_cons_of_ne_nil hlead.kind_ne_nil
  have hupper : c.isUpper = false :=
    isUpper_of_isLower (hlead.kind_lower c (by rw [hk]; exact List.mem_cons_self))
  rw [Header.render_eq, hk]
  simp [Rule.startsWithTicket, Ticket.idAt?, hupper]

theorem lacksColon_render : Rule.lacksColon h.render = false := by
  unfold Rule.lacksColon
  rw [run?_isLower_render hlead]
  simp only [scope?_renderScope hlead.isScope]
  cases h.scope with
  | none => rfl
  | some scope =>
    have hcolon : run? isBlank (':' :: ' ' :: h.description) = none :=
      run?_of_stopsAt (by rw [stopsAt_cons]; decide)
    simp [hcolon]

theorem hasSpaceBeforeScope_render : Rule.hasSpaceBeforeScope h.render = false := by
  have hstop : StopsAt isBlank (renderScope h.scope ++
      (renderBreaking h.breaking ++ ':' :: ' ' :: h.description)) :=
    stopsAt_renderScope (by decide) (by decide) (by decide) _ _ _
  unfold Rule.hasSpaceBeforeScope
  rw [run?_isLower_render hlead]
  simp [run?_of_stopsAt hstop]

theorem hasUppercaseType_render : Rule.hasUppercaseType h.render = false := by
  have halpha : ∀ c ∈ h.kind, c.isAlpha = true := by
    intro c hc
    simp [Char.isAlpha, hlead.kind_lower c hc]
  have hupper : h.kind.any Char.isUpper = false := by
    rw [List.any_eq_false]
    intro c hc
    simp [isUpper_of_isLower (hlead.kind_lower c hc)]
  -- the run of letters read here ends with the type
  have hstop : StopsAt Char.isAlpha (renderScope h.scope ++
      (renderBreaking h.breaking ++ ':' :: ' ' :: h.description)) :=
    stopsAt_renderScope (by decide) (by decide) (by decide) _ _ _
  unfold Rule.hasUppercaseType
  rw [Header.render_eq, run?_append hlead.kind_ne_nil halpha hstop]
  split
  · next heq =>
    obtain ⟨rfl, -⟩ := Prod.mk.inj (Option.some.inj heq)
    simp [hupper]
  · rfl

theorem hasNonKebabScope_render : Rule.hasNonKebabScope h.render = false := by
  unfold Rule.hasNonKebabScope
  rw [run?_isLower_render hlead]
  simp only [scope?_renderScope hlead.isScope]
  cases hs : h.scope with
  | none => rfl
  | some scope =>
    have hall : scope.all isKebab = true := List.all_eq_true.mpr (hlead.scope_kebab scope hs).2
    simp [hall]

/-- Nothing is wrong before the colon of a strict lead. -/
theorem leadRules_render {d : Draft} (hd : d.message = h.render) :
    ∀ rule ∈ leadRules, rule d = none := by
  have hempty : h.render.isEmpty = false := by
    rw [Header.render_eq, List.isEmpty_eq_false_iff]
    simp [hlead.kind_ne_nil]
  simp only [leadRules, List.forall_mem_cons]
  refine ⟨when_eq_none_iff.mpr ?_, when_eq_none_iff.mpr ?_, when_eq_none_iff.mpr ?_,
    when_eq_none_iff.mpr ?_, when_eq_none_iff.mpr ?_, when_eq_none_iff.mpr ?_, by simp⟩ <;> rw [hd]
  · exact hempty
  · exact startsWithTicket_render hlead
  · exact lacksColon_render hlead
  · exact hasSpaceBeforeScope_render hlead
  · exact hasUppercaseType_render hlead
  · exact hasNonKebabScope_render hlead

end

/-- **A strict lead is past every diagnosis.**  On a message with a strict lead and more on its
line, only an unknown type or an empty description is left to block the merge. -/
theorem eq_none_of_hasStrictLead {h : Header} (hlead : h.HasStrictLead)
    (hmore : ∃ c t, c ≠ '\n' ∧ h.description = c :: t) {d : Draft} (hd : d.message = h.render)
    (hkind : h.kind ∈ standardTypes) (hdesc : d.description ≠ []) :
    ∀ rule ∈ errorRules, rule d = none := by
  have hkindOf : kindOf? d.message = some h.kind :=
    kindOf?_eq_some_iff.mpr ⟨h, hlead, rfl, hmore, hd⟩
  have hunknown : Rule.unknownType d = none := by
    simp [Rule.unknownType, hkindOf, hkind]
  rw [errorRules_eq_leadRules_append, List.forall_mem_append]
  refine ⟨leadRules_render hlead hd, ?_⟩
  simp only [List.forall_mem_cons]
  refine ⟨when_eq_none_iff.mpr ?_, hunknown, when_eq_none_iff.mpr ?_, by simp⟩
  · rw [hkindOf]; rfl
  · simpa using hdesc

/-! ### The rules and the grammar -/

/-- The subject of a standard message is all that the rules need. -/
theorem eq_none_of_hasStandardSubject {message : Text} (hm : HasStandardSubject message)
    (title : Option Text) :
    ∀ rule ∈ errorRules, rule (Draft.ofMessage message title) = none := by
  obtain ⟨h, hstd, hsubject⟩ := hm
  obtain ⟨hnl, rest, hrest⟩ := exists_rest_of_subjectOf message.trim
  obtain ⟨c, t, hct⟩ := List.exists_cons_of_ne_nil hstd.description_ne_nil
  have hlead := hstd.hasStrictLead
  have hc : c ≠ '\n' := by
    rintro rfl
    rw [hsubject, Header.render_eq, hct] at hnl
    simp at hnl
  -- to the rules that read across line ends, the description goes on to the end of the message
  have hmessage : message.trim = { h with description := h.description ++ rest }.render := by
    rw [hrest, hsubject]
    simp [Header.render]
  have hdesc : (Draft.ofMessage message title).description = h.description := by
    rw [Draft.ofMessage, hsubject, descriptionOf_render hlead]
  exact eq_none_of_hasStrictLead (h := { h with description := h.description ++ rest })
    ⟨hlead.kind_ne_nil, hlead.kind_lower, hlead.scope_kebab⟩
    ⟨c, t ++ rest, hc, by simp [hct]⟩ hmessage hstd.kind_mem
    (by rw [hdesc]; exact hstd.description_ne_nil)

/-- If the last three of the nine rules find nothing, the subject is standard. -/
theorem hasStandardSubject_of_eq_none {message : Text} (title : Option Text)
    (hnone : ∀ rule ∈ errorRules, rule (Draft.ofMessage message title) = none) :
    HasStandardSubject message := by
  simp only [errorRules, List.forall_mem_cons] at hnone
  obtain ⟨-, -, -, -, -, -, hmalformed, hunknown, hmissing, -⟩ := hnone
  obtain ⟨kind, hkind⟩ : ∃ kind, kindOf? message.trim = some kind := by
    have hsome := when_eq_none_iff.mp hmalformed
    rwa [Option.isNone_eq_false_iff, Option.isSome_iff_exists] at hsome
  have hmem : kind ∈ standardTypes := by
    by_contra hmem
    have hfound := (unknownType_eq_some_iff (d := Draft.ofMessage message title)).mpr
      ⟨kind, hkind, hmem, rfl⟩
    rw [hunknown] at hfound
    simp at hfound
  -- the strict reader took a header whose description may reach over several lines
  obtain ⟨h, hlead, rfl, -, hmessage⟩ := kindOf?_eq_some_iff.mp hkind
  have hsubject := subjectOf_render hlead
  have hlead' : Header.HasStrictLead { h with description := subjectOf h.description } :=
    ⟨hlead.kind_ne_nil, hlead.kind_lower, hlead.scope_kebab⟩
  refine ⟨{ h with description := subjectOf h.description }, ⟨hmem, hlead.scope_kebab, ?_⟩, ?_⟩
  · have hdesc := when_eq_none_iff.mp hmissing
    rw [Draft.ofMessage, hmessage, hsubject, descriptionOf_render hlead'] at hdesc
    simpa using hdesc
  · rw [hmessage, hsubject]

/-- A merge is not blocked exactly if the subject is standard. -/
theorem blocksMerge_lint_eq_false_iff {message : Text} {title : Option Text} :
    (lint message title).blocksMerge = false ↔ HasStandardSubject message := by
  rw [← Bool.not_eq_true, blocksMerge_lint_iff]
  constructor
  · intro h
    refine hasStandardSubject_of_eq_none title fun rule hrule => ?_
    by_contra hne
    exact h ⟨rule, hrule, hne⟩
  · rintro h ⟨rule, hrule, hne⟩
    exact hne (eq_none_of_hasStandardSubject h title rule hrule)

/-- **The nine rules accept exactly the grammar.**  A message passes when its first line is a
standard header; then none of the nine finds anything, and otherwise at least one does.  Neither
the other lines nor the title of the pull request change that. -/
theorem lint_passes_iff_hasStandardSubject (message : Text) (title : Option Text) :
    ((lint message title).blocksMerge = false ↔ HasStandardSubject message) ∧
    (HasStandardSubject message →
      ∀ rule ∈ errorRules, rule (Draft.ofMessage message title) = none) ∧
    (¬HasStandardSubject message →
      ∃ rule ∈ errorRules, rule (Draft.ofMessage message title) ≠ none) ∧
    ∀ (other : Text) (otherTitle : Option Text),
      subjectOf other.trim = subjectOf message.trim →
        (lint other otherTitle).blocksMerge = (lint message title).blocksMerge := by
  refine ⟨blocksMerge_lint_eq_false_iff, fun h => eq_none_of_hasStandardSubject h title, ?_, ?_⟩
  · intro h
    by_contra hall
    refine h (hasStandardSubject_of_eq_none title fun rule hrule => ?_)
    by_contra hne
    exact hall ⟨rule, hrule, hne⟩
  · intro other otherTitle hsame
    have hiff : HasStandardSubject other ↔ HasStandardSubject message := by
      unfold HasStandardSubject
      rw [hsame]
    rw [Bool.eq_iff_iff, ← not_iff_not, Bool.not_eq_true, Bool.not_eq_true,
      blocksMerge_lint_eq_false_iff, blocksMerge_lint_eq_false_iff, hiff]

end MergeMessage.Commit
