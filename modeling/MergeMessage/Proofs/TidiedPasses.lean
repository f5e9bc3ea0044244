import MergeMessage.Proofs.FirstLines
import MergeMessage.Proofs.LintGrammar

/-!
# When a tidied message passes

A reply whose first line is a header in the loose form is repaired to a message with a header as its
first line.  The type and the description of that header are in order whatever they were, but its
scope is only brought to lowercase and given hyphens for blank characters: other characters stay, and
a scope that consists of the ticket is emptied.  So the rules that block a merge accept the message
exactly if the scope without the ticket has a form in kebab case.

## Main definitions

* `Header.IsLoose` — a header in the loose form that says something beside the ticket.
* `HasKebabRemainder` — a scope that ends up in kebab case.

## Main results

* `hasStandardSubject_append_iff` — only the scope of a tidied header can be wrong.
* `messageOfReply_passes_iff` — when the message in a reply passes.
-/

namespace MergeMessage.Commit

open Subject Text

/-! ### The first line -/

/-- Only the first line is changed. -/
theorem exists_mapFirstLine_append (f : Text → Text) (s : Text) :
    ∃ more, mapFirstLine f s = f (s.takeWhile (· ≠ '\n')) ++ more :=
  ⟨_, mapFirstLine_eq f s⟩

/-- A footer is added behind the message. -/
theorem exists_withFooter_append (ticket : Option Text) (message : Text) :
    ∃ more, withFooter ticket message = message ++ more := by
  obtain ⟨more, -, hmore⟩ := exists_withFooter_append_stop ticket message
  exact ⟨more, hmore⟩

/-! ### Headers with a message behind them -/

/-- A character that is not blank ends no line. -/
theorem subjectOf_cons {c : Char} (hc : isBlank c = false) (s : Text) :
    subjectOf (c :: s) = c :: subjectOf s := by
  have hnl : c ≠ '\n' := by
    rintro rfl
    exact absurd hc (by decide)
  have hcr : c ≠ '\r' := by
    rintro rfl
    exact absurd hc (by decide)
  exact subjectOf_append (s := [c]) (by simpa using Ne.symm hnl) (by simpa using hcr) s

/-- The scope in the text of a header can be read off its front. -/
theorem renderScope_inj {scope : Text} (hclose : ')' ∉ scope) {scope' : Option Text}
    (hclose' : ∀ t ∈ scope', ')' ∉ t) {breaking : Bool} {s t : Text}
    (heq : renderScope (some scope) ++ s =
      renderScope scope' ++ (renderBreaking breaking ++ ':' :: t)) : scope' = some scope := by
  cases scope' with
  | none => cases breaking <;> simp [renderScope, renderBreaking] at heq
  | some t' =>
    have htext : scope ++ ')' :: s = t' ++ ')' :: (renderBreaking breaking ++ ':' :: t) := by
      simpa [renderScope] using heq
    have htake := congrArg (List.takeWhile (fun c => decide (c ≠ ')'))) htext
    rw [takeWhile_append_stop (forall_ne_of_notMem hclose) (by simp),
      takeWhile_append_stop (forall_ne_of_notMem (hclose' t' rfl)) (by simp)] at htake
    rw [htake]

section

variable {h : Header} (hkind : h.kind ∈ standardTypes)
  (hdesc : ∃ c s, h.description = c :: s ∧ isBlank c = false)

include hkind hdesc

/-- Trimming takes nothing off the front of a message with a header, and its description still does
not start blank. -/
theorem trim_render_append (more : Text) :
    ∃ c s, isBlank c = false ∧
      (h.render ++ more).trim = { h with description := c :: s }.render := by
  obtain ⟨c, s, hd, hc⟩ := hdesc
  have hfront : h.render ++ more = h.lead ++ c :: (s ++ more) := by
    rw [Header.render_eq_lead_append, hd]
    simp
  have hstop : StopsAt isBlank (h.lead ++ c :: (s ++ more)) := by
    obtain ⟨hne, hlower⟩ := standardTypes_lower h.kind hkind
    obtain ⟨d, t, ht⟩ := List.exists_cons_of_ne_nil hne
    have hdl := hlower d (by rw [ht]; exact List.mem_cons_self)
    rw [Header.lead, ht]
    simp [isBlank_of_isLower hdl]
  refine ⟨c, dropEndWhile isBlank (s ++ more), hc, ?_⟩
  rw [hfront, trim, trimBy, dropWhile_of_stopsAt hstop, dropEndWhile_append_stop hc,
    Header.render_eq_lead_append]
  rfl

/-- **Only the scope can be wrong.**  A message that starts with a header of a standard type and a
description has a standard subject exactly if the scope is in kebab case. -/
theorem hasStandardSubject_append_iff (hclose : ∀ scope ∈ h.scope, ')' ∉ scope) (more : Text) :
    HasStandardSubject (h.render ++ more) ↔ ∀ scope ∈ h.scope, IsKebabScope scope := by
  obtain ⟨c, s, hc, htrim⟩ := trim_render_append hkind hdesc more
  constructor
  · rintro ⟨g, hstd, hsubject⟩ scope hs
    obtain ⟨-, rest, hrest⟩ := exists_rest_of_subjectOf (h.render ++ more).trim
    rw [hsubject, htrim, Header.render_eq, Header.render_eq] at hrest
    have hlead := hstd.hasStrictLead
    have hrun := run?_append (standardTypes_lower h.kind hkind).1
      (standardTypes_lower h.kind hkind).2 (stopsAt_renderScope (by decide) (by decide) (by decide)
        h.scope h.breaking (' ' :: c :: s))
    have hrun' := run?_append hlead.kind_ne_nil hlead.kind_lower
      (stopsAt_renderScope (by decide) (by decide) (by decide) g.scope g.breaking
        (' ' :: (g.description ++ rest)))
    -- the two readings have the type in common, so they go on with the same text
    have hsame : renderScope h.scope ++ (renderBreaking h.breaking ++ ':' :: ' ' :: c :: s) =
        renderScope g.scope ++
          (renderBreaking g.breaking ++ ':' :: ' ' :: (g.description ++ rest)) := by
      simp only [List.append_assoc, List.cons_append] at hrest
      rw [hrest, hrun'] at hrun
      exact (Prod.mk.inj (Option.some.inj hrun)).2.symm
    rw [Option.mem_def.mp hs] at hsame
    have hscope := renderScope_inj (hclose scope hs) (fun t ht => (hlead.isScope t ht).2) hsame
    exact hstd.scope_kebab scope hscope
  · intro hscope
    have hlead : Header.HasStrictLead { h with description := c :: s } :=
      ⟨(standardTypes_lower h.kind hkind).1, (standardTypes_lower h.kind hkind).2, hscope⟩
    refine ⟨{ h with description := subjectOf (c :: s) }, ⟨hkind, hscope, ?_⟩, ?_⟩
    · simp [subjectOf_cons hc]
    · rw [htrim, subjectOf_render hlead]

end

/-! ### Messages in replies -/

/-- The header in the loose form, in a subject for the ticket: its type is a standard one in any
letter case, its scope is any text that can stand in parentheses, and its description has a letter
outside of the mentions of the ticket. -/
structure Header.IsLoose (ticket : Option Text) (h : Header) : Prop where
  kind_mem : h.kind.map Char.toLower ∈ standardTypes
  scope_text : ∀ scope ∈ h.scope, IsScope scope
  letter : ∃ c, isAlphabetic c = true ∧ StandsOutside ticket c h.description

/-- After the opening parentheses of the scope and outside of the mentions of the ticket, there is
more than blank characters, and all of it has lowercase forms in kebab case. -/
structure HasKebabRemainder (ticket : Option Text) (scope : Text) : Prop where
  exists_not_blank : ∃ c, StandsOutside ticket c (scope.dropWhile (· == '(')) ∧ isBlank c = false
  all_kebab : ∀ c, StandsOutside ticket c (scope.dropWhile (· == '(')) →
    isBlank c = true ∨ becomesKebab c = true

/-- A text of ASCII letters in any case. -/
theorem isAlpha_of_map_toLower_mem {kind : Text} (h : kind.map Char.toLower ∈ standardTypes) :
    kind ≠ [] ∧ ∀ c ∈ kind, c.isAlpha = true := by
  obtain ⟨hne, hlower⟩ := standardTypes_lower _ h
  refine ⟨fun hnil => hne (by rw [hnil]; rfl), fun c hc => ?_⟩
  rw [← Char.isLower_toLower_eq_isAlpha]
  exact hlower c.toLower (List.mem_map_of_mem hc)

theorem kind_tidied {ticket : Option Text} {h : Header} (hloose : h.IsLoose ticket) :
    (h.tidied ticket).kind ∈ standardTypes := by
  have hlower : (h.tidied ticket).kind = h.kind.map Char.toLower :=
    lowerAfter_eq_map (isAlpha_of_map_toLower_mem hloose.kind_mem).2 []
  rw [hlower]
  exact hloose.kind_mem

theorem forall_scope_tidied {ticket : Option Text} {h : Header} {P : Text → Prop} :
    (∀ scope ∈ (h.tidied ticket).scope, P scope) ↔
      ∀ scope ∈ h.scope, P (tidyScope (bareScope ticket scope)) := by
  cases hs : h.scope <;> simp [Header.tidied, tidyHeader, hs]

section

variable {ticket : Option Text} (hticket : ∀ id ∈ ticket, IsTicketId id)

include hticket

theorem isKebabScope_tidyScope_bareScope_iff {scope : Text} (h : IsScope scope) :
    IsKebabScope (tidyScope (bareScope ticket scope)) ↔ HasKebabRemainder ticket scope := by
  rw [isKebabScope_tidyScope_iff (isScope_bareScope hticket h).2, dropWhile_bareScope hticket]
  constructor
  · rintro ⟨⟨c, hc, hblank⟩, hall⟩
    refine ⟨⟨c, (mem_bareScope_iff hticket hblank).mp hc, hblank⟩, fun d hd => ?_⟩
    cases hblank : isBlank d with
    | true => exact Or.inl rfl
    | false => simpa [hblank] using hall d ((mem_bareScope_iff hticket hblank).mpr hd)
  · rintro ⟨⟨c, hc, hblank⟩, hall⟩
    refine ⟨⟨c, (mem_bareScope_iff hticket hblank).mpr hc, hblank⟩, fun d hd => ?_⟩
    cases hblank : isBlank d with
    | true => exact Or.inl rfl
    | false => simpa [hblank] using hall d ((mem_bareScope_iff hticket hblank).mp hd)

/-- A letter outside of the mentions keeps the description from becoming empty. -/
theorem description_tidied {h : Header} (hloose : h.IsLoose ticket) :
    ∃ c s, (h.tidied ticket).description = c :: s ∧ isBlank c = false := by
  obtain ⟨c, hletter, hout⟩ := hloose.letter
  have hc := isBlank_of_isAlphabetic hletter
  have hmem : c ∈ bareTail ticket (' ' :: h.description) :=
    mem_bareTail hticket hc (hout.cons_space hticket)
  exact exists_tidyDescription_cons (stopsAt_dropWhile _ _) (mem_dropWhile hmem hc) hletter

end

/-- **When the message in a reply passes.**  If the first line of the unwrapped reply is a header in
the loose form, the tidied message is accepted exactly if what is left of the scope has a form in
kebab case. -/
theorem messageOfReply_passes_iff {reply : Text} {ticket title : Option Text} {h : Header}
    (hticket : ∀ id ∈ ticket, IsTicketId id) (hloose : h.IsLoose ticket)
    (hline : (unwrap reply).takeWhile (· ≠ '\n') = h.render) :
    (lint (messageOfReply reply ticket) title).blocksMerge = false ↔
      ∀ scope ∈ h.scope, HasKebabRemainder ticket scope := by
  obtain ⟨hne, hkind⟩ := isAlpha_of_map_toLower_mem hloose.kind_mem
  obtain ⟨more, hbody⟩ := exists_mapFirstLine_append (tidySubject ticket) (unwrap reply)
  obtain ⟨footer, hfooter⟩ := exists_withFooter_append ticket
    (mapFirstLine (tidySubject ticket) (unwrap reply))
  -- the other lines and the footer stand behind the repaired header
  have hmessage : messageOfReply reply ticket = (h.tidied ticket).render ++ (more ++ footer) := by
    rw [messageOfReply, hfooter, hbody, hline,
      tidySubject_render hticket hne hkind hloose.scope_text, List.append_assoc]
  have hclose : ∀ scope ∈ (h.tidied ticket).scope, ')' ∉ scope := by
    rw [forall_scope_tidied]
    intro scope hs
    exact notMem_tidyScope (isScope_bareScope hticket (hloose.scope_text scope hs)).2
  rw [blocksMerge_lint_eq_false_iff, hmessage,
    hasStandardSubject_append_iff (kind_tidied hloose) (description_tidied hticket hloose) hclose,
    forall_scope_tidied]
  constructor
  · intro hkebab scope hs
    exact (isKebabScope_tidyScope_bareScope_iff hticket (hloose.scope_text scope hs)).mp
      (hkebab scope hs)
  · intro hrest scope hs
    exact (isKebabScope_tidyScope_bareScope_iff hticket (hloose.scope_text scope hs)).mpr
      (hrest scope hs)

/-- An underscore in a scope stays, so a message that was tidied is refused. -/
theorem messageOfReply_blocked_by_underscore :
    messageOfReply "Feat(User_Auth): ECHO-1 Add login.".toList (some "ECHO-1".toList) =
        "feat(user_auth): add login\n\nECHO-1".toList ∧
      (lint (messageOfReply "Feat(User_Auth): ECHO-1 Add login.".toList
        (some "ECHO-1".toList)) none).blocksMerge = true := by
  have hid : IsTicketId "ECHO-1".toList :=
    ⟨"ECHO".toList, "1".toList, by decide, by decide, List.all_eq_true.mp (by decide),
      List.all_eq_true.mp (by decide), rfl⟩
  have hloose : Header.IsLoose (some "ECHO-1".toList)
      ⟨"Feat".toList, some "User_Auth".toList, false, "ECHO-1 Add login.".toList⟩ := by
    refine ⟨by decide, ?_, 'l', by decide, ?_⟩
    · rintro scope ⟨⟩
      exact ⟨by decide, by decide⟩
    · rw [← mem_blankTicket_iff hid (by decide)]
      decide
  have hticket : ∀ id ∈ some "ECHO-1".toList, IsTicketId id := by
    rintro id ⟨⟩
    exact hid
  have hiff := @messageOfReply_passes_iff "Feat(User_Auth): ECHO-1 Add login.".toList _ none _
    hticket hloose (by decide)
  refine ⟨by decide, ?_⟩
  rw [← Bool.not_eq_false, hiff]
  intro hall
  have hunderscore : StandsOutside (some "ECHO-1".toList) '_' "User_Auth".toList := by
    rw [← mem_blankTicket_iff hid (by decide)]
    decide
  exact absurd ((hall _ rfl).all_kebab '_' hunderscore) (by decide)

end MergeMessage.Commit
