import MergeMessage.Proofs.InventedTickets
import MergeMessage.Proofs.SettledDescriptions
import MergeMessage.Proofs.TidiedPasses

/-!
# The style of a tidied description

The linter asks for a description that starts small and does not end with a punctuation mark, and
tidying lowers the first letter and strips the marks at the end.  The two agree but for one design:
in Title Case only plain words are brought down, so that an acronym stays, also at the start.

## Main definitions

* `KeepsCapital` — a description in Title Case whose first word stays as it is.

## Main results

* `head_tidyDescription_iff` — which tidied descriptions start with a capital.
* `eq_lead_of_render_append` — the parts before a description can be read off a line.
* `tidied_description_style` — what the linter says about the style of a tidied description.
-/

namespace MergeMessage.Commit

open Subject Text Ticket

/-! ### The first character of a description -/

/-- The description is in Title Case, and its first word starts with a capital of ASCII and is no
capitalized word: it is an acronym or an identifier, say. -/
structure KeepsCapital (description : Text) : Prop where
  title : isTitleCased (description.pieces ' ') = true
  first : ∃ c word, (description.pieces ' ').head? = some (c :: word) ∧ c.isUpper = true ∧
    isCapitalizedWord (c :: word) = false

theorem keepsCapital_iff {c : Char} {s word : Text} {words : List Text}
    (hs : pieces ' ' s = (c :: word) :: words) :
    KeepsCapital s ↔ isTitleCased (pieces ' ' s) = true ∧ c.isUpper = true ∧
      isCapitalizedWord (c :: word) = false := by
  constructor
  · rintro ⟨htitle, d, w, hhead, hupper, hcap⟩
    rw [hs, List.head?_cons, Option.some.injEq] at hhead
    obtain ⟨rfl, rfl⟩ := List.cons.inj hhead
    exact ⟨htitle, hupper, hcap⟩
  · rintro ⟨htitle, hupper, hcap⟩
    exact ⟨htitle, c, word, by rw [hs, List.head?_cons], hupper, hcap⟩

theorem head?_lowerFirst (s : Text) : ∀ c ∈ (lowerFirst s).head?, c.isUpper = false := by
  cases s with
  | nil => simp [lowerFirst]
  | cons d s =>
    rw [lowerFirst, lowerChar_eq]
    obtain ⟨x, t, hx, -⟩ := exists_lowerCharBetween_cons [] d []
    have hupper : x.isUpper = false := not_isUpper_of_mem_lowerCharBetween (by rw [hx]; simp)
    simp [hx, hupper]

/-- In sentence case, a description starts with a capital only if its first word stays. -/
theorem head?_sentenceCase_iff {s : Text} (hs : StopsAt isBlank s) :
    (∃ c ∈ (sentenceCase s).head?, c.isUpper = true) ↔ KeepsCapital s := by
  rw [sentenceCase_eq]
  -- outside of Title Case the first letter is lowered, whatever it is
  cases htitle : isTitleCased (pieces ' ' s) with
  | false =>
    rw [if_neg (by simp)]
    refine iff_of_false ?_ fun h => by simp [h.title] at htitle
    rintro ⟨c, hc, hupper⟩
    simp [head?_lowerFirst s c hc] at hupper
  | true =>
    obtain ⟨c, word, words, hpieces⟩ := exists_pieces_of_isTitleCased hs htitle
    obtain ⟨x, t, hx, hform⟩ := exists_lowerWords_cons hpieces
    rw [if_pos rfl, hx, keepsCapital_iff hpieces, and_iff_right htitle]
    cases hcap : isCapitalizedWord (c :: word) with
    | true =>
      rw [if_pos hcap] at hform
      simp [not_isUpper_of_mem_lowerCharBetween hform]
    | false =>
      rw [if_neg (by simp [hcap])] at hform
      simp [hform]

/-- Stripping the marks at the end leaves a capital at the front alone. -/
theorem head_tidyDescription_iff {s : Text} (hs : StopsAt isBlank s) :
    (∃ c ∈ (tidyDescription s).head?, c.isUpper = true) ↔ KeepsCapital s := by
  rw [← head?_sentenceCase_iff hs, tidyDescription]
  cases sentenceCase s with
  | nil => exact Iff.rfl
  | cons c t =>
    rcases dropEndWhile_cons_cases isFinalMark c t with ⟨hnil, hmark⟩ | ⟨v, hv⟩
    · -- a mark is no capital
      have hupper : c.isUpper = false := by
        rcases isFinalMark_iff.mp hmark with rfl | rfl | rfl <;> decide
      simp [hnil, hupper]
    · simp [hv]

/-! ### Reading the header of a message -/

/-- **The parts before a description can be read off a line.**  If a line that is a header starts
with a strict one, their types, scopes and breaking marks are the same. -/
theorem eq_lead_of_render_append {h g : Header} (hne : h.kind ≠ [])
    (hlower : ∀ c ∈ h.kind, c.isLower = true) (hclose : ∀ scope ∈ h.scope, ')' ∉ scope)
    (hlead : g.HasStrictLead) {rest : Text} (heq : h.render = g.render ++ rest) :
    h.HasStrictLead ∧ h.description = g.description ++ rest := by
  rw [Header.render_eq, Header.render_eq] at heq
  simp only [List.append_assoc, List.cons_append] at heq
  -- both types are the longest run of small letters at the front
  have hrun := run?_append hne hlower (stopsAt_renderScope (by decide) (by decide) (by decide)
    h.scope h.breaking (' ' :: h.description))
  rw [heq, run?_append hlead.kind_ne_nil hlead.kind_lower (stopsAt_renderScope (by decide)
    (by decide) (by decide) g.scope g.breaking (' ' :: (g.description ++ rest)))] at hrun
  obtain ⟨hkind, hafter⟩ := Prod.mk.inj (Option.some.inj hrun)
  have hscope : h.scope = g.scope := by
    cases hs : h.scope with
    | some scope =>
      rw [hs] at hafter
      exact (renderScope_inj (hclose scope hs) (fun t ht => (hlead.isScope t ht).2)
        hafter.symm).symm
    | none =>
      cases hg : g.scope with
      | none => rfl
      | some scope =>
        rw [hs, hg] at hafter
        cases hb : h.breaking <;> simp [hb, renderScope, renderBreaking] at hafter
  rw [hscope, List.append_cancel_left_eq] at hafter
  have htail : g.description ++ rest = h.description := by
    revert hafter
    cases h.breaking <;> cases g.breaking <;> simp [renderBreaking]
  exact ⟨⟨hne, hlower, by rw [hscope]; exact hlead.scope_kebab⟩, htail.symm⟩

/-- The parts of a tidied header before its description. -/
theorem tidyHeader_lead {s : Text} {h : Header} (hs : looseHeader? s = some h) :
    (tidyHeader h).kind ≠ [] ∧ (∀ c ∈ (tidyHeader h).kind, c.isLower = true) ∧
      ∀ scope ∈ (tidyHeader h).scope, ')' ∉ scope := by
  obtain ⟨hne, hkind, hscope, -⟩ := looseHeader?_eq_some_iff.mp hs
  have hlower : (tidyHeader h).kind = h.kind.map Char.toLower := lowerAfter_eq_map hkind []
  refine ⟨by simpa [hlower] using hne, fun c hc => ?_, fun scope hsc => ?_⟩
  · rw [hlower] at hc
    obtain ⟨d, hd, rfl⟩ := List.mem_map.mp hc
    rw [Char.isLower_toLower_eq_isAlpha]
    exact hkind d hd
  · obtain ⟨t, ht, rfl⟩ := Option.map_eq_some_iff.mp hsc
    exact notMem_tidyScope (hscope t ht).2

/-! ### Messages that start with a header -/

/-- **What a message that passes says about its header.**  The header is in the strict form, and its
description is the one that is checked up to blank characters at its end. -/
theorem passes_of_firstLine {h : Header} (hne : h.kind ≠ [])
    (hlower : ∀ c ∈ h.kind, c.isLower = true) (hclose : ∀ scope ∈ h.scope, ')' ∉ scope)
    {message : Text} (hline : firstLine message = h.render) (hpass : HasStandardSubject message) :
    h.HasStrictLead ∧ descriptionOf (subjectOf message.trim) ≠ [] ∧
      ∃ tail : Text, (∀ c ∈ tail, isBlank c = true) ∧
        h.description = descriptionOf (subjectOf message.trim) ++ tail := by
  obtain ⟨g, hstd, hsubject⟩ := hpass
  have hlead := hstd.hasStrictLead
  have hstop : StopsAt isBlank message := by
    obtain ⟨k, kind, hk⟩ := List.exists_cons_of_ne_nil hne
    have hmessage : message = h.render ++ message.dropWhile (· ≠ '\n') := by
      rw [← hline, firstLine, List.takeWhile_append_dropWhile]
    rw [hmessage, Header.render_eq, hk]
    simp [isBlank_of_isLower (hlower k (by simp [hk]))]
  -- the line with the header is the subject that is checked, with blank characters behind it
  obtain ⟨tail, htail, hfirst⟩ := exists_firstLine_eq_subjectOf_trim hstop
  rw [hline, hsubject] at hfirst
  obtain ⟨hstrict, hdesc⟩ := eq_lead_of_render_append hne hlower hclose hlead hfirst
  rw [hsubject, descriptionOf_render hlead]
  exact ⟨hstrict, hstd.description_ne_nil, tail, htail, hdesc⟩

/-- The first line of the message in a reply is the tidied header. -/
theorem firstLine_of_headerIn? {ticket : Option Text} (hticket : ∀ id ∈ ticket, IsTicketId id)
    {reply : Text} {h : Header} (hs : headerIn? ticket reply = some h) :
    firstLine (messageOfReply reply ticket) = (tidyHeader h).render := by
  unfold headerIn? at hs
  rw [firstLine_messageOfReply hticket, tidySubject_eq, hs]

/-! ### Remarks on the style -/

/-- Only one rule remarks on the start of a description, and one on its end. -/
theorem description_of_rule {rule : Rule} (hrule : rule ∈ rules) {d : Draft} {f : Finding}
    (hf : rule d = some f) :
    (f = .uppercaseDescription → d.description.head?.any Char.isUpper = true) ∧
      (f = .endPunctuation → d.description.getLast?.any Rule.isEndMark = true) := by
  rw [rules_eq_append, List.mem_append] at hrule
  rcases hrule with hrule | hrule
  · -- a rule that blocks a merge reports neither of the two
    have herror := reports_error rule hrule d f hf
    constructor
    · rintro rfl
      simp [Finding.severity] at herror
    · rintro rfl
      simp [Finding.severity] at herror
  · simp only [adviceRules, List.mem_cons, List.not_mem_nil, or_false] at hrule
    rcases hrule with rfl | rfl | rfl | rfl | rfl | rfl | rfl
    · obtain ⟨hupper, rfl⟩ := when_eq_some_iff.mp hf
      exact ⟨fun _ => hupper, by simp⟩
    · obtain ⟨hmark, rfl⟩ := when_eq_some_iff.mp hf
      exact ⟨by simp, fun _ => hmark⟩
    · obtain ⟨-, rfl⟩ := when_eq_some_iff.mp hf
      simp
    · obtain ⟨-, rfl⟩ := when_eq_some_iff.mp hf
      simp
    all_goals
      obtain ⟨id, -, hid⟩ := Option.bind_eq_some_iff.mp hf
      obtain ⟨-, rfl⟩ := when_eq_some_iff.mp hid
      simp

/-- The first of the rules that only advise speaks of the start of the description. -/
theorem lint_eq_uppercaseDescription_iff {message : Text} {title : Option Text}
    (hpass : HasStandardSubject message) :
    lint message title = some .uppercaseDescription ↔
      ∃ c ∈ (descriptionOf (subjectOf message.trim)).head?, c.isUpper = true := by
  constructor
  · intro h
    obtain ⟨rule, hrule, hf⟩ := List.exists_of_findSome?_eq_some h
    have hupper := (description_of_rule hrule hf).1 rfl
    simpa [Draft.ofMessage, Option.any_eq_true] using hupper
  · rintro ⟨c, hc, hupper⟩
    have herror : errorRules.findSome? (· (Draft.ofMessage message title)) = none :=
      List.findSome?_eq_none_iff.mpr (eq_none_of_hasStandardSubject hpass title)
    have hfires : Rule.uppercaseDescription (Draft.ofMessage message title) =
        some .uppercaseDescription := by
      refine when_eq_some_iff.mpr ⟨?_, rfl⟩
      simp [Draft.ofMessage, Option.mem_def.mp hc, hupper]
    rw [lint, rules_eq_append, List.findSome?_append, herror, Option.none_or, adviceRules,
      List.findSome?_cons, hfires]

/-- **The style of a tidied description.**  If the linter lets a tidied message through, it remarks
on the start of the description exactly if a first word in Title Case keeps its capital, and it does
not remark on the end of the description, provided that no mark stands before blank characters
there. -/
theorem tidied_description_style {ticket : Option Text} (hticket : ∀ id ∈ ticket, IsTicketId id)
    {reply : Text} {h : Header} (hs : headerIn? ticket reply = some h) {title : Option Text}
    (hpass : (lint (messageOfReply reply ticket) title).blocksMerge = false) :
    (lint (messageOfReply reply ticket) title = some .uppercaseDescription ↔
      KeepsCapital h.description) ∧
    ((∀ c ∈ (dropEndWhile isBlank (tidyDescription h.description)).getLast?,
        isFinalMark c = false) →
      lint (messageOfReply reply ticket) title ≠ some .endPunctuation) := by
  obtain ⟨hne, hlower, hclose⟩ := tidyHeader_lead hs
  rw [blocksMerge_lint_eq_false_iff] at hpass
  obtain ⟨-, hnil, tail, htail, hdesc⟩ :=
    passes_of_firstLine hne hlower hclose (firstLine_of_headerIn? hticket hs) hpass
  obtain ⟨c, s, hchecked⟩ := List.exists_cons_of_ne_nil hnil
  have htidied : (tidyHeader h).description = tidyDescription h.description := rfl
  rw [htidied, hchecked] at hdesc
  constructor
  · rw [lint_eq_uppercaseDescription_iff hpass, ← head_tidyDescription_iff (stopsAt_description hs),
      hdesc, hchecked]
    rfl
  · intro hend hlint
    obtain ⟨rule, hrule, hf⟩ := List.exists_of_findSome?_eq_some hlint
    have hmark := (description_of_rule hrule hf).2 rfl
    simp only [Draft.ofMessage, hchecked] at hmark
    cases hd : (c :: s).getLast? with
    | none => simp at hd
    | some d =>
      rw [hd] at hmark
      have hfinal : isFinalMark d = true := hmark
      -- the mark that the linter sees is the last character of the header that is not blank
      have hlast : d ∈ (dropEndWhile isBlank (c :: s ++ tail)).getLast? := by
        rw [dropEndWhile_append_of_pos htail, dropEndWhile_eq_self_iff.mpr, hd]
        · rfl
        · intro e he
          obtain rfl : d = e := Option.some.inj (hd.symm.trans he)
          exact not_isBlank_of_isFinalMark hfinal
      rw [hdesc] at hend
      simp [hend d hlast] at hfinal

/-- An identifier at the start of a description in Title Case keeps its capital; the mark at the end
is stripped. -/
theorem tidied_description_style_identifier :
    lint (messageOfReply "\"Fix(UI): OAuth2 ECHO-1 Login!\"".toList (some "ECHO-1".toList)) none =
        some .uppercaseDescription ∧
      lint (messageOfReply "\"Fix(UI): OAuth2 ECHO-1 Login!\"".toList (some "ECHO-1".toList)) none ≠
        some .endPunctuation := by
  have hticket : ∀ id ∈ some "ECHO-1".toList, IsTicketId id := by
    rintro id ⟨⟩
    exact isTicketId_of_firstId? (s := "ECHO-1".toList) (by decide)
  have hlast : (dropEndWhile isBlank (tidyDescription "OAuth2 Login!".toList)).getLast? =
      some 'n' := by decide
  have hstyle := @tidied_description_style (some "ECHO-1".toList) hticket
    "\"Fix(UI): OAuth2 ECHO-1 Login!\"".toList
    ⟨"Fix".toList, some "UI".toList, false, "OAuth2 Login!".toList⟩ (by decide) none (by decide)
  refine ⟨hstyle.1.mpr ⟨by decide, 'O', "Auth2".toList, by decide, by decide, by decide⟩,
    hstyle.2 fun c hc => ?_⟩
  obtain rfl : 'n' = c := Option.some.inj (hlast.symm.trans hc)
  decide

/-- An acronym at the start of a description in Title Case is not brought down, so the linter asks
for a small letter. -/
theorem acronym_not_brought_down :
    (headerIn? none "fix: API Timeout".toList).isSome = true ∧
      (lint (messageOfReply "fix: API Timeout".toList none) none).blocksMerge = false ∧
      lint (messageOfReply "fix: API Timeout".toList none) none = some .uppercaseDescription := by
  decide

end MergeMessage.Commit
