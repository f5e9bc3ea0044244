import MergeMessage.Proofs.BlankMessages
import MergeMessage.Proofs.LintGrammar

/-!
# Descriptions without text

A message is trimmed as a whole before it is checked, but its first line is not.  A description of
blank characters alone therefore counts as none where it ends the message, and as one where more
lines with text follow it: such a message is let through although its description says nothing.

## Main definitions

* `ContinuesBlank` — a header with a blank description, and the lines behind it.

## Main results

* `exists_continuesBlank` — what stands behind a blank description that is let through.
* `blank_description_passes_iff` — which messages with a blank description are let through.
-/

namespace MergeMessage.Commit

open Text

/-! ### The end of a message -/

/-- What a trimmed text ends with is not blank. -/
theorem not_isAllBlank_of_trim_append {s t : Text} (htrim : trim (s ++ t) = s ++ t) (hne : t ≠ []) :
    isAllBlank t = false := by
  obtain ⟨u, c, rfl⟩ := (List.eq_nil_or_concat t).resolve_left hne
  rw [List.concat_eq_append] at htrim ⊢
  have hlast : c ∈ (s ++ (u ++ [c])).getLast? := by simp
  exact not_isAllBlank_of_mem ((trim_eq_self_iff.mp htrim).2 c hlast) (by simp)

/-- A carriage return that is dropped was the last character. -/
theorem dropReturn_eq_self_iff {s : Text} : dropReturn s = s ↔ s.getLast? ≠ some '\r' := by
  rw [dropReturn, dropLastIf_eq_self_iff]
  cases s.getLast? <;> simp

/-! ### Blank descriptions -/

/-- The message starts with the header `h`, whose description is blank, and goes on with the text
`body`: the line ends with a line feed, or with a carriage return and a line feed. -/
structure ContinuesBlank (message : Text) (h : Header) (body : Text) : Prop where
  standard : h.IsStandard
  blank : h.description.isAllBlank = true
  one_line : '\n' ∉ h.description
  body_text : body.isAllBlank = false
  lines : message = h.render ++ '\r' :: '\n' :: body ∨
    h.description.getLast? ≠ some '\r' ∧ message = h.render ++ '\n' :: body

theorem newline_notMem_render {h : Header} (hstd : h.IsStandard) (hline : '\n' ∉ h.description) :
    '\n' ∉ h.render := by
  rw [Header.render_eq_lead_append, List.mem_append, not_or]
  exact ⟨newline_notMem_lead hstd.hasStrictLead, hline⟩

theorem getLast?_render {h : Header} (hne : h.description ≠ []) :
    h.render.getLast? = h.description.getLast? := by
  rw [Header.render_eq_lead_append, List.getLast?_append_of_ne_nil _ hne]

/-- The first line of such a message is its header. -/
theorem ContinuesBlank.subjectOf_eq {message body : Text} {h : Header}
    (hm : ContinuesBlank message h body) : subjectOf message = h.render := by
  have hline := newline_notMem_render hm.standard hm.one_line
  rcases hm.lines with rfl | ⟨hlast, rfl⟩
  · have hreturn : '\n' ∉ h.render ++ ['\r'] := by simp [hline]
    rw [List.append_cons, subjectOf_append_newline hreturn, dropReturn,
      dropLastIf, List.getLast?_concat]
    simp
  · rw [subjectOf_append_newline hline, dropReturn_eq_self_iff,
      getLast?_render hm.standard.description_ne_nil]
    exact hlast

/-- **What stands behind a blank description.**  A trimmed message does not end with it. -/
theorem exists_continuesBlank {message : Text} {h : Header} (htrim : message.trim = message)
    (hstd : h.IsStandard) (hsubject : subjectOf message = h.render)
    (hblank : h.description.isAllBlank = true) : ∃ body, ContinuesBlank message h body := by
  have hline : '\n' ∉ h.description := by
    have hnot := (exists_rest_of_subjectOf message).1
    rw [hsubject, Header.render_eq_lead_append, List.mem_append, not_or] at hnot
    exact hnot.2
  rcases line_cases message with hone | ⟨line, body, hnl, rfl⟩
  · -- on a single line the description would have been trimmed off
    rw [subjectOf_of_notMem hone] at hsubject
    rw [hsubject, Header.render_eq_lead_append] at htrim
    have htext := not_isAllBlank_of_trim_append htrim hstd.description_ne_nil
    simp [hblank] at htext
  · rw [subjectOf_append_newline hnl] at hsubject
    have hbody : isAllBlank body = false := by
      have htext := not_isAllBlank_of_trim_append htrim (by simp)
      have hnewline : isBlank '\n' = true := by decide
      simpa [isAllBlank, hnewline] using htext
    refine ⟨body, hstd, hblank, hline, hbody, ?_⟩
    rcases dropReturn_append line with heq | heq
    · rw [← heq] at hsubject
      refine Or.inr ⟨?_, by rw [hsubject]⟩
      rw [← getLast?_render hstd.description_ne_nil, ← dropReturn_eq_self_iff, ← hsubject, ← heq]
    · exact Or.inl (by rw [heq, hsubject, List.append_assoc]; rfl)

/-- **Which messages pass with a blank description.**  Those in which more text follows on other
lines; where a blank description ends the message, the message is refused. -/
theorem blank_description_passes_iff (message : Text) (title : Option Text) :
    ((lint message title).blocksMerge = false ∧
      (descriptionOf (subjectOf message.trim)).isAllBlank = true) ↔
    ∃ h body, ContinuesBlank message.trim h body := by
  rw [blocksMerge_lint_eq_false_iff]
  constructor
  · rintro ⟨⟨h, hstd, hsubject⟩, hblank⟩
    rw [hsubject, descriptionOf_render hstd.hasStrictLead] at hblank
    exact ⟨h, exists_continuesBlank (trim_trim message) hstd hsubject hblank⟩
  · rintro ⟨h, body, hm⟩
    refine ⟨⟨h, hm.standard, hm.subjectOf_eq⟩, ?_⟩
    rw [hm.subjectOf_eq, descriptionOf_render hm.standard.hasStrictLead]
    exact hm.blank

/-- Two spaces behind the colon are enough when a line with text follows. -/
example : lint "feat:  \nbody".toList none = none ∧
    lint "feat:  ".toList none = some .malformedSubject := by decide

end MergeMessage.Commit
