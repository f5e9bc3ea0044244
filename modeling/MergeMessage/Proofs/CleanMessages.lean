import MergeMessage.Proofs.Advice
import MergeMessage.Proofs.FirstLines

/-!
# Clean messages

A message that the rules find nothing wrong with needs no tidying: its type and scope are in
lowercase, and a description that starts small is in sentence case.  So such a message is its own
tidied form, as long as it is not taken for a wrapped one.  It does not start with a fence, a quote
or the label, but it may end in a quote, and that quote is dropped even though none opens the
message.

## Main definitions

* `IsClean` — a valid message with a plain description and without fences.

## Main results

* `unwrap_render` — a message with a header loses a quote at its end, and nothing else.
* `tidied_none_eq_self` — a strict header with a small start is its own repaired form.
* `messageOfReply_eq_dropLastIf` — what becomes of a clean message.
-/

namespace MergeMessage.Commit

open Subject Text

/-- A trimmed message without fences that is valid for a pull request without a title, and whose
description starts with a small letter and holds small letters, digits, spaces and quotes only. -/
structure IsClean (message : Text) : Prop where
  trimmed : message.trim = message
  valid : (lint message none).isValid = true
  starts_small : ∀ c ∈ (descriptionOf (subjectOf message)).head?, c.isLower = true
  plain : ∀ c ∈ descriptionOf (subjectOf message),
    c.isLower = true ∨ c.isDigit = true ∨ c = ' ' ∨ isQuoteMark c = true
  no_fence : ¬fence <:+: message

/-! ### Wrapping -/

theorem dropOpeningFence_of_not_prefix {s : Text} (h : ¬fence <+: s) : dropOpeningFence s = s := by
  unfold dropOpeningFence
  split
  · rfl
  · next rest heq => exact absurd ⟨rest, List.isPrefixOf?_eq_some_iff_append_eq.mp heq⟩ h

theorem dropClosingFence_of_not_suffix {s : Text} (h : ¬fence <:+ s) : dropClosingFence s = s := by
  have hnone : fence.isSuffixOf? s = none := by
    rw [List.isSuffixOf?, Option.map_eq_none_iff, Option.eq_none_iff_forall_ne_some]
    intro rest heq
    have hs := (List.isPrefixOf?_eq_some_iff_append_eq.mp heq).symm
    exact h (List.reverse_prefix.mp ⟨rest, hs.symm⟩)
  rw [dropClosingFence, hnone, Option.getD_none]

/-- No standard type starts as the label does. -/
theorem isPrefixOf_label_append {kind : Text} (hkind : kind ∈ standardTypes) (s : Text) :
    label.isPrefixOf ((kind ++ s).map foldCase) = false := by
  have hall : standardTypes.all (fun kind =>
      decide (2 ≤ kind.length) && decide ((kind.map foldCase).take 2 ≠ label.take 2)) = true := by
    decide
  have hk := List.all_eq_true.mp hall kind hkind
  simp only [Bool.and_eq_true, decide_eq_true_eq] at hk
  rw [Bool.eq_false_iff, ne_eq, List.isPrefixOf_iff_prefix]
  intro hpre
  -- the first two characters differ
  have htake := List.prefix_iff_eq_take.mp hpre
  refine hk.2 ?_
  rw [htake, List.take_take, List.map_append, List.take_append_of_le_length (by simp; omega)]
  rfl

theorem isQuoteMark_of_isLower {c : Char} (h : c.isLower = true) : isQuoteMark c = false := by
  rw [Bool.eq_false_iff]
  intro hquote
  simp only [isQuoteMark, Bool.or_eq_true, beq_iff_eq] at hquote
  rcases hquote with rfl | rfl
  · exact absurd h (by decide)
  · exact absurd h (by decide)

/-- **A message with a header** loses a quote at its end, and nothing else. -/
theorem unwrap_render {h : Header} (hkind : h.kind ∈ standardTypes) {c : Char} {s : Text}
    (hdesc : h.description = c :: s) (hc : isQuoteMark c = false)
    (htrim : trim h.render = h.render) (hfence : ¬fence <:+: h.render) :
    unwrap h.render = dropLastIf isQuoteMark h.render := by
  obtain ⟨hne, hlower⟩ := standardTypes_lower h.kind hkind
  obtain ⟨d, t, hd⟩ := List.exists_cons_of_ne_nil hne
  have hquote : isQuoteMark d = false :=
    isQuoteMark_of_isLower (hlower d (by rw [hd]; exact List.mem_cons_self))
  have hfirst : dropFirstIf isQuoteMark h.render = h.render := by
    rw [Header.render_eq, hd]
    simp [dropFirstIf, hquote]
  have hlabel : dropLabel (dropLastIf isQuoteMark h.render) = dropLastIf isQuoteMark h.render := by
    rw [Header.render_eq_lead_append, hdesc, dropLastIf_append_cons hc, Header.lead,
      List.append_assoc, dropLabel, isPrefixOf_label_append hkind]
    rfl
  rw [unwrap, htrim, dropOpeningFence_of_not_prefix fun hp => hfence hp.isInfix,
    dropClosingFence_of_not_suffix fun hs => hfence hs.isInfix, htrim, hfirst, hlabel]

/-! ### Tidied parts -/

theorem isKebab_iff {c : Char} : isKebab c = true ↔ c.isLower = true ∨ c.isDigit = true ∨ c = '-' := by
  simp [isKebab, or_assoc]

/-- Characters in kebab case are their own lowercase forms. -/
theorem isUpper_of_isKebab {c : Char} (h : isKebab c = true) : c.isUpper = false := by
  rcases isKebab_iff.mp h with h | h | rfl
  · exact isUpper_of_isLower h
  · rw [isDigit_iff] at h
    exact isUpper_eq_false_iff.mpr (by omega)
  · decide

theorem isBlank_of_isKebab {c : Char} (h : isKebab c = true) : isBlank c = false := by
  rcases isKebab_iff.mp h with h | h | rfl
  · exact isBlank_of_isLower h
  · exact isBlank_of_isAlphanum (by simp [Char.isAlphanum, h])
  · decide

theorem squeezeAfter_of_forall {filler s : Text} (h : ∀ c ∈ s, isBlank c = false) :
    squeezeAfter filler false s = s := by
  induction s with
  | nil => rfl
  | cons c s ih =>
    rw [List.forall_mem_cons] at h
    simp [squeezeAfter, h.1, ih h.2]

theorem tidyScope_of_isKebabScope {scope : Text} (h : IsKebabScope scope) :
    tidyScope scope = scope := by
  have hblank : ∀ c ∈ scope, isBlank c = false := fun c hc => isBlank_of_isKebab (h.2 c hc)
  have hopen : StopsAt (· == '(') scope := by
    intro c hc
    rw [Bool.eq_false_iff, ne_eq, beq_iff_eq]
    rintro rfl
    exact absurd (h.2 _ (List.mem_of_mem_head? hc)) (by decide)
  have hlower : ∀ c ∈ scope, c.toNat < 0x80 ∧ c.isUpper = false := by
    refine fun c hc => ⟨?_, isUpper_of_isKebab (h.2 c hc)⟩
    by_contra hge
    have hkebab := isKebab_of_ge (c := c) (by omega)
    simp [h.2 c hc] at hkebab
  rw [tidyScope_of_notMem h.isScope.2, dropWhile_of_stopsAt hopen, trim_eq_self hblank, squeeze,
    squeezeAfter_of_forall hblank]
  exact lowerAfter_eq_self hlower []

/-- A description that starts small is in sentence case. -/
theorem sentenceCase_of_isLower {c : Char} (hc : c.isLower = true) (s : Text) :
    sentenceCase (c :: s) = c :: s := by
  have hne : c ≠ ' ' := by
    rintro rfl
    exact absurd hc (by decide)
  obtain ⟨w, words, hpieces⟩ := exists_pieces_cons hne s
  have htitle : isTitleCased (pieces ' ' (c :: s)) = false := by
    simp [hpieces, isTitleCased, startsAlphabetic, startsUppercase, isAlphabetic_of_isLower hc,
      isUppercase_of_isLower hc]
  have hlt : c.toNat < 0x80 := by
    rw [isLower_iff] at hc
    omega
  rw [sentenceCase]
  simp only [htitle, Bool.false_eq_true, if_false, lowerFirst]
  rw [lowerChar_eq, lowerCharBetween_of_lt hlt (isUpper_of_isLower hc)]
  rfl

/-- **A strict header with a small start** and without a mark at its end is its own repaired form. -/
theorem tidied_none_eq_self {h : Header} (hlead : h.HasStrictLead) {c : Char} {s : Text}
    (hdesc : h.description = c :: s) (hc : c.isLower = true)
    (hmark : ∀ d ∈ h.description, isFinalMark d = false) : h.tidied none = h := by
  -- each part of a clean header is what its repair makes of it
  have hkind : h.kind.lower = h.kind :=
    lowerAfter_eq_self (fun d hd => ⟨by have := isLower_iff.mp (hlead.kind_lower d hd); omega,
      isUpper_of_isLower (hlead.kind_lower d hd)⟩) []
  have hscope : h.scope.map (fun t => tidyScope (bareScope none t)) = h.scope := by
    cases hs : h.scope with
    | none => rfl
    | some t => exact congrArg some (tidyScope_of_isKebabScope (hlead.scope_kebab t hs))
  have hblank : isBlank c = false := isBlank_of_isLower hc
  have hspace : isBlank ' ' = true := by decide
  have htail : (bareTail none (' ' :: h.description)).dropWhile isBlank = h.description := by
    rw [bareTail, hdesc]
    simp [hspace, hblank]
  have htidy : tidyDescription h.description = h.description := by
    rw [tidyDescription, hdesc, sentenceCase_of_isLower hc, ← hdesc, dropEndWhile_eq_self hmark]
  rw [Header.tidied, tidyHeader]
  simp only [Option.map_map, Function.comp_def, hkind, hscope, htail, htidy]

/-- **A message with a strict header** loses a quote at its end, and nothing else, if its
description starts small and its first line has no marks that may not end it. -/
theorem messageOfReply_render {h : Header} (hlead : h.HasStrictLead)
    (hkind : h.kind ∈ standardTypes) {c : Char} {s : Text} (hdesc : h.description = c :: s)
    (hc : c.isLower = true) (hmark : ∀ d ∈ firstLine h.description, isFinalMark d = false)
    (htrim : trim h.render = h.render) (hfence : ¬fence <:+: h.render) :
    messageOfReply h.render none = dropLastIf isQuoteMark h.render := by
  have hquote := isQuoteMark_of_isLower hc
  have hnl : c ≠ '\n' := by
    rintro rfl
    exact absurd hc (by decide)
  have hcons : ∀ t, firstLine (c :: t) = c :: firstLine t := fun t =>
    List.takeWhile_cons_of_pos (by simpa using hnl)
  have hdrop : dropLastIf isQuoteMark h.render = h.lead ++ c :: dropLastIf isQuoteMark s := by
    rw [Header.render_eq_lead_append, hdesc, dropLastIf_append_cons hquote]
  -- the first line is a strict header again, with a part of the description it had
  have hfirst : firstLine (h.lead ++ c :: dropLastIf isQuoteMark s) =
      { h with description := c :: firstLine (dropLastIf isQuoteMark s) }.render := by
    rw [firstLine_append_of_notMem (newline_notMem_lead hlead), hcons,
      Header.render_eq_lead_append]
    rfl
  have hpart : c :: firstLine (dropLastIf isQuoteMark s) <+: firstLine h.description := by
    rw [hdesc, hcons, List.cons_prefix_cons]
    exact ⟨rfl, firstLine_isPrefix (dropLastIf_isPrefix isQuoteMark s)⟩
  have hlead' : Header.HasStrictLead
      { h with description := c :: firstLine (dropLastIf isQuoteMark s) } :=
    ⟨hlead.kind_ne_nil, hlead.kind_lower, hlead.scope_kebab⟩
  have halpha : ∀ d ∈ h.kind, d.isAlpha = true := fun d hd => by
    simp [Char.isAlpha, hlead.kind_lower d hd]
  rw [messageOfReply, unwrap_render hkind hdesc hquote htrim hfence, hdrop]
  refine mapFirstLine_eq_self ?_
  rw [hfirst, tidySubject_render (by simp) hlead'.kind_ne_nil halpha hlead'.isScope,
    tidied_none_eq_self hlead' rfl hc fun d hd => hmark d (hpart.mem hd)]

/-! ### Clean messages -/

/-- Neither the characters of a plain description nor a carriage return are dropped at an end. -/
theorem isFinalMark_of_plain {c : Char}
    (h : c.isLower = true ∨ c.isDigit = true ∨ c = ' ' ∨ isQuoteMark c = true ∨ c = '\r') :
    isFinalMark c = false := by
  rw [Bool.eq_false_iff]
  intro hmark
  rcases isFinalMark_iff.mp hmark with rfl | rfl | rfl
  · exact absurd h (by decide)
  · exact absurd h (by decide)
  · exact absurd h (by decide)

/-- A clean message is a strict header of a standard type whose description, with all the lines
after it, starts small and has no mark in its first line. -/
theorem IsClean.exists_header {message : Text} (hm : IsClean message) :
    ∃ h : Header, h.kind ∈ standardTypes ∧ h.HasStrictLead ∧ message = h.render ∧
      (∃ c s, h.description = c :: s ∧ c.isLower = true) ∧
      ∀ c ∈ firstLine h.description, isFinalMark c = false := by
  obtain ⟨g, hstd, hsubject⟩ :=
    hasStandardSubject_of_eq_none none (isValid_lint_iff.mp hm.valid).1
  rw [hm.trimmed] at hsubject
  have hlead := hstd.hasStrictLead
  have hdesc : descriptionOf (subjectOf message) = g.description := by
    rw [hsubject, descriptionOf_render hlead]
  have hsmall := hm.starts_small
  have hplain := hm.plain
  rw [hdesc] at hsmall hplain
  obtain ⟨c, s, hcs⟩ := List.exists_cons_of_ne_nil hstd.description_ne_nil
  obtain ⟨-, rest, hrest⟩ := exists_rest_of_subjectOf message
  have hmessage : message = g.lead ++ (g.description ++ rest) := by
    rw [hrest, hsubject, Header.render_eq_lead_append, List.append_assoc]
  refine ⟨{ g with description := g.description ++ rest }, hstd.kind_mem,
    ⟨hlead.kind_ne_nil, hlead.kind_lower, hlead.scope_kebab⟩, ?_, ⟨c, s ++ rest, ?_, ?_⟩, ?_⟩
  · rw [hmessage, Header.render_eq_lead_append]
    rfl
  · rw [hcs, List.cons_append]
  · exact hsmall c (by rw [hcs]; rfl)
  · intro d hd
    -- the first line is the subject, perhaps with a carriage return
    have hline : firstLine message = g.lead ++ firstLine (g.description ++ rest) := by
      rw [hmessage, firstLine_append_of_notMem (newline_notMem_lead hlead)]
    have hmem : d ∈ g.description ∨ d = '\r' := by
      rcases firstLine_eq_or message with heq | heq
      · rw [heq, hsubject, Header.render_eq_lead_append] at hline
        exact Or.inl (List.append_cancel_left hline ▸ hd)
      · rw [heq, hsubject, Header.render_eq_lead_append, List.append_assoc] at hline
        simpa using (List.append_cancel_left hline ▸ hd : d ∈ g.description ++ ['\r'])
    refine isFinalMark_of_plain ?_
    rcases hmem with hmem | rfl
    · exact (hplain d hmem).imp_right (Or.imp_right (Or.imp_right Or.inl))
    · simp

/-- **What becomes of a clean message.**  It comes through unchanged up to a quote at its very end:
that quote is dropped, although none was dropped at the start. -/
theorem messageOfReply_eq_dropLastIf {message : Text} (hm : IsClean message) :
    messageOfReply message none = message.dropLastIf isQuoteMark ∧
      (messageOfReply message none = message ↔
        ∀ c ∈ message.getLast?, isQuoteMark c = false) := by
  obtain ⟨h, hkind, hlead, rfl, ⟨c, s, hdesc, hc⟩, hmark⟩ := hm.exists_header
  have hsame := messageOfReply_render hlead hkind hdesc hc hmark hm.trimmed hm.no_fence
  exact ⟨hsame, by rw [hsame, dropLastIf_eq_self_iff]⟩

/-- A message that ends in a quoted word loses the closing quote. -/
theorem messageOfReply_drops_closing_quote :
    IsClean "fix: handle \"foo\"".toList ∧
      messageOfReply "fix: handle \"foo\"".toList none = "fix: handle \"foo".toList := by
  have hdesc : descriptionOf (subjectOf "fix: handle \"foo\"".toList) =
      "handle \"foo\"".toList := by decide
  have hclean : IsClean "fix: handle \"foo\"".toList := by
    refine ⟨by decide, by decide, ?_, ?_, by decide⟩
    · rw [hdesc]
      rintro c ⟨⟩
      decide
    · rw [hdesc]
      simp [isQuoteMark]
  refine ⟨hclean, ?_⟩
  rw [(messageOfReply_eq_dropLastIf hclean).1]
  decide

/-- A quote further inside stays. -/
example : messageOfReply "fix: handle \"foo\" twice".toList none =
    "fix: handle \"foo\" twice".toList := by decide

end MergeMessage.Commit
