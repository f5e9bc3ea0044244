import MergeMessage.Commit.Lint
import MergeMessage.Proofs.Texts

/-!
# Reading subject lines

What the readers of a subject line take off its front, and what a rendered header looks like to
them.  A scope in parentheses is read up to the next closing parenthesis, so a header is read
back from its text as long as no scope is empty or holds such a parenthesis.

## Main definitions

* `Header.lead` — the text of a header before its description.
* `IsScope`, `IsKebabScope` — a text that can stand between parentheses, and a strict one.
* `Header.HasStrictLead` — a header of the strict form up to its description.

## Main results

* `run?_eq_some_iff`, `scope?_eq_some_iff` — what the readers take.
* `kindOf?_eq_some_iff` — the strict reader takes exactly the fronts of strict headers.
* `descriptionOf_render` — the description is what follows the strict lead.
* `subjectOf_render` — the subject of a message that starts with a strict header.
-/

namespace MergeMessage.Commit

open Subject Text

/-- The text of a header before its description. -/
def Header.lead (h : Header) : Text :=
  h.kind ++ (renderScope h.scope ++ (renderBreaking h.breaking ++ [':', ' ']))

theorem Header.render_eq_lead_append (h : Header) : h.render = h.lead ++ h.description := by
  simp [Header.render, Header.lead]

/-- A text that can stand between the parentheses of a subject line. -/
def IsScope (scope : Text) : Prop := scope ≠ [] ∧ ')' ∉ scope

/-! ### The readers -/

theorem run?_append {p : Char → Bool} {run rest : Text} (hne : run ≠ [])
    (hrun : ∀ c ∈ run, p c = true) (hrest : StopsAt p rest) :
    run? p (run ++ rest) = some (run, rest) := by
  rw [run?, takeWhile_append_stop hrun hrest, dropWhile_append_stop hrun hrest]
  cases run with
  | nil => exact absurd rfl hne
  | cons c run => rfl

theorem run?_of_stopsAt {p : Char → Bool} {s : Text} (h : StopsAt p s) : run? p s = none := by
  cases s with
  | nil => rfl
  | cons c s => simp [run?, (stopsAt_cons p c s).mp h]

theorem run?_eq_some_iff {p : Char → Bool} {s run rest : Text} :
    run? p s = some (run, rest) ↔
      run ≠ [] ∧ (∀ c ∈ run, p c = true) ∧ StopsAt p rest ∧ s = run ++ rest := by
  constructor
  · intro h
    rw [run?] at h
    split at h
    · simp at h
    · next hne =>
      simp only [Option.some.injEq, Prod.mk.injEq] at h
      obtain ⟨rfl, rfl⟩ := h
      exact ⟨by simpa using hne, fun c hc => List.mem_takeWhile_imp hc, stopsAt_dropWhile p s,
        List.takeWhile_append_dropWhile.symm⟩
  · rintro ⟨hne, hrun, hrest, rfl⟩
    exact run?_append hne hrun hrest

theorem scope?_cons_append {scope : Text} (h : IsScope scope) (rest : Text) :
    scope? ('(' :: (scope ++ ')' :: rest)) = some (scope, rest) := by
  rw [scope?, run?_append h.1 (forall_ne_of_notMem h.2) (by simp)]
  rfl

theorem scope?_eq_some_iff {s scope rest : Text} :
    scope? s = some (scope, rest) ↔ IsScope scope ∧ s = '(' :: (scope ++ ')' :: rest) := by
  constructor
  · intro h
    unfold scope? at h
    split at h
    · next s =>
      split at h
      · next scope' rest' hrun =>
        simp only [Option.some.injEq, Prod.mk.injEq] at h
        obtain ⟨rfl, rfl⟩ := h
        obtain ⟨hne, hall, -, rfl⟩ := run?_eq_some_iff.mp hrun
        exact ⟨⟨hne, fun hmem => by simpa using hall _ hmem⟩, rfl⟩
      · simp at h
    · simp at h
  · rintro ⟨hscope, rfl⟩
    exact scope?_cons_append hscope rest

theorem scope?_of_ne {c : Char} (h : c ≠ '(') (s : Text) : scope? (c :: s) = none := by
  unfold scope?
  split
  · next heq => exact absurd (List.cons.inj heq).1 h
  · rfl

/-- An exclamation mark is all that may be dropped. -/
theorem exists_renderBreaking_append (s : Text) :
    ∃ breaking, s = renderBreaking breaking ++ dropBang s := by
  unfold dropBang
  split
  · exact ⟨true, rfl⟩
  · exact ⟨false, rfl⟩

/-! ### Rendered headers -/

@[simp] theorem dropBang_renderBreaking (breaking : Bool) (s : Text) :
    dropBang (renderBreaking breaking ++ ':' :: s) = ':' :: s := by
  cases breaking <;> rfl

/-- After the scope comes an exclamation mark or a colon. -/
theorem stopsAt_renderBreaking {p : Char → Bool} (hbang : p '!' = false) (hcolon : p ':' = false)
    (breaking : Bool) (s : Text) : StopsAt p (renderBreaking breaking ++ ':' :: s) := by
  cases breaking <;> simp [renderBreaking, hbang, hcolon]

/-- After the type comes a parenthesis, an exclamation mark or a colon. -/
theorem stopsAt_renderScope {p : Char → Bool} (hopen : p '(' = false) (hbang : p '!' = false)
    (hcolon : p ':' = false) (scope : Option Text) (breaking : Bool) (s : Text) :
    StopsAt p (renderScope scope ++ (renderBreaking breaking ++ ':' :: s)) := by
  cases scope with
  | none => exact stopsAt_renderBreaking hbang hcolon breaking s
  | some scope => simp [renderScope, hopen]

theorem scope?_renderScope {scope : Option Text} (h : ∀ t ∈ scope, IsScope t) (breaking : Bool)
    (s : Text) :
    scope? (renderScope scope ++ (renderBreaking breaking ++ ':' :: s)) =
      scope.map fun t => (t, renderBreaking breaking ++ ':' :: s) := by
  cases scope with
  | none =>
    cases breaking with
    | false => exact scope?_of_ne (by decide) s
    | true => exact scope?_of_ne (by decide) (':' :: s)
  | some t => simpa [renderScope] using scope?_cons_append (h t rfl) _

theorem splitOnce?_cons_of_ne {c d : Char} (h : c ≠ d) (s pat : Text) :
    splitOnce? (c :: s) (d :: pat) =
      (splitOnce? s (d :: pat)).map fun p => (c :: p.1, p.2) := by
  have hbeq : (d == c) = false := by simpa using Ne.symm h
  simp [splitOnce?, List.isPrefixOf?, hbeq]

/-- A text is cut where the first character of the separator comes for the first time, if the
separator stands there. -/
theorem splitOnce?_append {d : Char} {s : Text} (h : d ∉ s) (pat t : Text) :
    splitOnce? (s ++ d :: (pat ++ t)) (d :: pat) = some (s, t) := by
  induction s with
  | nil =>
    have hcut : (d :: pat).isPrefixOf? (d :: (pat ++ t)) = some t :=
      List.isPrefixOf?_eq_some_iff_append_eq.mpr rfl
    simp [splitOnce?, hcut]
  | cons c s ih =>
    rw [List.mem_cons, not_or] at h
    rw [List.cons_append, splitOnce?_cons_of_ne (Ne.symm h.1), ih h.2]
    rfl

theorem splitOnce?_of_notMem {d : Char} {s : Text} (h : d ∉ s) (pat : Text) :
    splitOnce? s (d :: pat) = none := by
  induction s with
  | nil => rfl
  | cons c s ih =>
    rw [List.mem_cons, not_or] at h
    rw [splitOnce?_cons_of_ne (Ne.symm h.1), ih h.2]
    rfl

/-- The text before the first colon and space is cut off. -/
theorem splitOnce?_colon {s : Text} (h : ':' ∉ s) (t : Text) :
    splitOnce? (s ++ ':' :: ' ' :: t) [':', ' '] = some (s, t) :=
  splitOnce?_append h [' '] t

/-! ### Strict headers -/

/-- A scope in kebab case. -/
def IsKebabScope (scope : Text) : Prop := scope ≠ [] ∧ ∀ c ∈ scope, isKebab c = true

theorem IsKebabScope.isScope {scope : Text} (h : IsKebabScope scope) : IsScope scope :=
  ⟨h.1, fun hmem => absurd (h.2 _ hmem) (by decide)⟩

/-- The parts of a header before its description have the strict form. -/
structure Header.HasStrictLead (h : Header) : Prop where
  kind_ne_nil : h.kind ≠ []
  kind_lower : ∀ c ∈ h.kind, c.isLower = true
  scope_kebab : ∀ scope ∈ h.scope, IsKebabScope scope

theorem Header.HasStrictLead.isScope {h : Header} (hh : h.HasStrictLead) :
    ∀ scope ∈ h.scope, IsScope scope :=
  fun scope hs => (hh.scope_kebab scope hs).isScope

/-- What a rendered header looks like to a reader of its parts. -/
theorem Header.render_eq (h : Header) :
    h.render = h.kind ++ (renderScope h.scope ++
      (renderBreaking h.breaking ++ ':' :: ' ' :: h.description)) := by
  simp [Header.render]

theorem dropKebabScope_renderScope {scope : Option Text} (h : ∀ t ∈ scope, IsKebabScope t)
    (breaking : Bool) (s : Text) :
    dropKebabScope (renderScope scope ++ (renderBreaking breaking ++ ':' :: s)) =
      renderBreaking breaking ++ ':' :: s := by
  rw [dropKebabScope, scope?_renderScope fun t ht => (h t ht).isScope]
  cases scope with
  | none => rfl
  | some t =>
    have hall : t.all isKebab = true := List.all_eq_true.mpr (h t rfl).2
    simp [hall]

/-- A scope in kebab case is all that may be dropped. -/
theorem exists_renderScope_append (s : Text) :
    ∃ scope, (∀ t ∈ scope, IsKebabScope t) ∧ s = renderScope scope ++ dropKebabScope s := by
  rw [dropKebabScope]
  split
  · next scope rest heq =>
    obtain ⟨hscope, rfl⟩ := scope?_eq_some_iff.mp heq
    split
    · next hall =>
      refine ⟨some scope, ?_, by simp [renderScope]⟩
      rintro t ⟨⟩
      exact ⟨hscope.1, List.all_eq_true.mp hall⟩
    · exact ⟨none, by simp, by simp [renderScope]⟩
  · exact ⟨none, by simp, rfl⟩

theorem startsDescription_iff {s : Text} :
    startsDescription s = true ↔ ∃ c t, c ≠ '\n' ∧ s = ':' :: ' ' :: c :: t := by
  unfold startsDescription
  split
  · next c t => simp
  · next hne =>
    simp only [Bool.false_eq_true, false_iff]
    rintro ⟨c, t, -, rfl⟩
    exact hne c t rfl

/-- **The strict reader.**  It finds a type in exactly those messages that are a strict lead with
at least one more character on its line. -/
theorem kindOf?_eq_some_iff {message kind : Text} :
    kindOf? message = some kind ↔
      ∃ h : Header, h.HasStrictLead ∧ h.kind = kind ∧
        (∃ c t, c ≠ '\n' ∧ h.description = c :: t) ∧ message = h.render := by
  constructor
  · intro hk
    unfold kindOf? at hk
    split at hk
    · next kind' rest hrun =>
      split at hk
      · next hdesc =>
        obtain rfl := Option.some.inj hk
        obtain ⟨hne, hlower, -, rfl⟩ := run?_eq_some_iff.mp hrun
        -- what the readers took, put together again, is the message
        obtain ⟨scope, hscope, hrest⟩ := exists_renderScope_append rest
        obtain ⟨breaking, hbang⟩ := exists_renderBreaking_append (dropKebabScope rest)
        obtain ⟨c, t, hc, hcolon⟩ := startsDescription_iff.mp hdesc
        refine ⟨⟨kind', scope, breaking, c :: t⟩, ⟨hne, hlower, hscope⟩, rfl, ⟨c, t, hc, rfl⟩, ?_⟩
        rw [Header.render_eq, ← hcolon, ← hbang, ← hrest]
      · simp at hk
    · simp at hk
  · rintro ⟨h, hlead, rfl, ⟨c, t, hc, hd⟩, rfl⟩
    have hstop : StopsAt Char.isLower (renderScope h.scope ++
        (renderBreaking h.breaking ++ ':' :: ' ' :: h.description)) :=
      stopsAt_renderScope (by decide) (by decide) (by decide) _ _ _
    have hdesc : startsDescription (':' :: ' ' :: h.description) = true :=
      startsDescription_iff.mpr ⟨c, t, hc, by rw [hd]⟩
    unfold kindOf?
    rw [Header.render_eq, run?_append hlead.kind_ne_nil hlead.kind_lower hstop]
    simp only [dropKebabScope_renderScope hlead.scope_kebab, dropBang_renderBreaking, hdesc,
      if_true]

/-- Before its colon, a strict lead is made of letters, kebab case characters and marks. -/
theorem notMem_of_hasStrictLead {h : Header} (hlead : h.HasStrictLead) {c : Char}
    (hkebab : isKebab c = false) (hmark : c ∉ ['(', ')', '!']) :
    c ∉ h.kind ++ (renderScope h.scope ++ renderBreaking h.breaking) := by
  have hkind : c ∉ h.kind := by
    intro hmem
    simp [isKebab, hlead.kind_lower c hmem] at hkebab
  have hscope : c ∉ renderScope h.scope := by
    cases hs : h.scope with
    | none => simp [renderScope]
    | some scope =>
      have hmem : c ∉ scope := by
        intro hmem
        simp [(hlead.scope_kebab scope hs).2 c hmem] at hkebab
      simp only [List.mem_cons, not_or] at hmark
      simp [renderScope, hmem, hmark]
  have hbang : c ∉ renderBreaking h.breaking := by
    cases h.breaking <;> simp_all [renderBreaking]
  simp [hkind, hscope, hbang]

theorem descriptionOf_render {h : Header} (hlead : h.HasStrictLead) :
    descriptionOf h.render = h.description := by
  have hcolon := notMem_of_hasStrictLead hlead (c := ':') (by decide) (by decide)
  have hsplit := splitOnce?_colon hcolon h.description
  simp only [List.append_assoc] at hsplit
  rw [descriptionOf, Header.render_eq, hsplit]

/-! ### The subject of a message -/

theorem subjectOf_of_notMem {s : Text} (h : '\n' ∉ s) : subjectOf s = s := by
  rw [subjectOf, lines_of_notMem h]
  cases s <;> rfl

theorem subjectOf_append_newline {line : Text} (h : '\n' ∉ line) (s : Text) :
    subjectOf (line ++ '\n' :: s) = dropReturn line := by
  rw [subjectOf, lines_append_newline h]
  rfl

/-- A message starts with its subject, which is a part of one line. -/
theorem exists_rest_of_subjectOf (message : Text) :
    '\n' ∉ subjectOf message ∧ ∃ rest, message = subjectOf message ++ rest := by
  rcases line_cases message with hmem | ⟨line, rest, hline, rfl⟩
  · rw [subjectOf_of_notMem hmem]
    exact ⟨hmem, [], by simp⟩
  · rw [subjectOf_append_newline hline]
    rcases dropReturn_append line with heq | heq
    · rw [← heq]
      exact ⟨hline, '\n' :: rest, rfl⟩
    · refine ⟨fun h => hline (by rw [heq]; exact List.mem_append_left _ h), '\r' :: '\n' :: rest, ?_⟩
      conv_lhs => rw [heq]
      simp

theorem dropReturn_append_of_getLast? {s : Text} (hs : s.getLast? ≠ some '\r') (t : Text) :
    dropReturn (s ++ t) = s ++ dropReturn t := by
  rcases List.eq_nil_or_concat t with rfl | ⟨t, c, rfl⟩
  · rcases List.eq_nil_or_concat s with rfl | ⟨s, c, rfl⟩
    · rfl
    · have hc : c ≠ '\r' := by simpa using hs
      simp [dropReturn, dropLastIf, hc]
  · by_cases hc : c = '\r'
    · simp [dropReturn, dropLastIf, hc, ← List.append_assoc]
    · simp [dropReturn, dropLastIf, hc, ← List.append_assoc]

/-- A part of the first line that does not end in a carriage return stands in the subject. -/
theorem subjectOf_append {s : Text} (hs : '\n' ∉ s) (hlast : s.getLast? ≠ some '\r') (t : Text) :
    subjectOf (s ++ t) = s ++ subjectOf t := by
  rcases line_cases t with hmem | ⟨line, rest, hline, rfl⟩
  · have hst : '\n' ∉ s ++ t := by simp [hs, hmem]
    rw [subjectOf_of_notMem hmem, subjectOf_of_notMem hst]
  · have hsline : '\n' ∉ s ++ line := by simp [hs, hline]
    rw [subjectOf_append_newline hline, ← List.append_assoc, subjectOf_append_newline hsline,
      dropReturn_append_of_getLast? hlast]

theorem newline_notMem_lead {h : Header} (hlead : h.HasStrictLead) : '\n' ∉ h.lead := by
  have hfront := notMem_of_hasStrictLead hlead (c := '\n') (by decide) (by decide)
  simpa [Header.lead] using hfront

@[simp] theorem getLast?_lead (h : Header) : h.lead.getLast? = some ' ' := by
  simp [Header.lead]

/-- The subject of a message that is a strict header with more lines. -/
theorem subjectOf_render {h : Header} (hlead : h.HasStrictLead) :
    subjectOf h.render = { h with description := subjectOf h.description }.render := by
  rw [Header.render_eq_lead_append, Header.render_eq_lead_append]
  exact subjectOf_append (newline_notMem_lead hlead) (by simp) h.description

end MergeMessage.Commit
