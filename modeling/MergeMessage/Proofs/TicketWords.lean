import MergeMessage.Proofs.BlankedWords

/-!
# Whole words

What blanking takes out of a text are exactly the places where the ticket is a whole word.  None is
left afterwards, nor does one come about when blank characters are collapsed or trimmed, so a subject
without a ticket stays as it is when the ticket is taken out of it again.

## Main definitions

* `HasWord` — the id is a whole word somewhere in a text.
* `IsSeparator` — a character that is part of no id and no word.

## Main results

* `hasWord_append_cons_iff` — the words on the two sides of a separator.
* `not_hasWord_dropTicket` — no word is left when the mentions are taken out.
* `blankAfter_eq_self` — a text without the word stays.
-/

namespace MergeMessage.Commit

open Text Ticket

/-- Somewhere in a text that follows the character `before`, the id is a whole word. -/
def HasWord (id : Text) (before : Option Char) (s : Text) : Prop :=
  StandsWhere (fun before rest => IsWordBetween before id rest) id before s

/-- The character is part of no word and of no id. -/
structure IsSeparator (c : Char) : Prop where
  not_word : isWordChar c = false
  ne_hyphen : c ≠ '-'

theorem isSeparator_of_isBlank {c : Char} (h : isBlank c = true) : IsSeparator c :=
  ⟨not_isWordChar_of_isBlank h, (isTicketBreak_of_isBlank h).ne_hyphen⟩

theorem IsMark.isSeparator {c : Char} (h : IsMark c) : IsSeparator c := ⟨h.not_word, h.ne_hyphen⟩

theorem isSeparator_of_isFinalMark {c : Char} (h : isFinalMark c = true) : IsSeparator c := by
  rcases isFinalMark_iff.mp h with rfl | rfl | rfl
  · exact ⟨by decide +kernel, by decide⟩
  · exact ⟨by decide +kernel, by decide⟩
  · exact ⟨by decide +kernel, by decide⟩

section

variable {id : Text} (hid : IsTicketId id)

include hid

/-! ### Words between separators -/

theorem IsSeparator.notMem {c : Char} (hc : IsSeparator c) : c ∉ id := by
  obtain ⟨project, number, -, -, hproject, hnumber, rfl⟩ := hid
  have hword := hc.not_word
  intro hmem
  rw [List.mem_append, List.mem_cons] at hmem
  rcases hmem with hmem | rfl | hmem
  · simp [isWordChar_of_isUpper (hproject c hmem)] at hword
  · exact hc.ne_hyphen rfl
  · simp [isWordChar_of_isDigit (hnumber c hmem)] at hword

/-- Only the kind of the character before a text makes a difference to its words. -/
theorem hasWord_congr {before before' : Option Char}
    (h : before.any isWordChar = before'.any isWordChar) (s : Text) :
    HasWord id before s ↔ HasWord id before' s := by
  refine standsWhere_congr (fun v => ?_) s
  have hbefore : (∀ c ∈ before, isWordChar c = false) ↔ ∀ c ∈ before', isWordChar c = false := by
    cases before <;> cases before' <;> simp_all
  rw [isWordBetween_iff hid, isWordBetween_iff hid, hbefore]

theorem not_hasWord_nil (before : Option Char) : ¬HasWord id before [] :=
  not_standsWhere_nil hid before

/-- **The two sides of a separator** have their own words. -/
theorem hasWord_append_cons_iff {c : Char} (hc : IsSeparator c) {before : Option Char}
    {s t : Text} : HasWord id before (s ++ c :: t) ↔ HasWord id before s ∨ HasWord id none t := by
  have hcongr : (some c).any isWordChar = (none : Option Char).any isWordChar := by
    simp [hc.not_word]
  constructor
  · rintro ⟨u, v, heq, hword⟩
    rcases append_eq_append_cons heq.symm with ⟨b, rfl, hb⟩ | ⟨mid, rfl, hmid⟩
    · -- the separator stands before the word
      refine Or.inr ((hasWord_congr hid hcongr t).mp ⟨b, v, hb, ?_⟩)
      rwa [lastRead_append, lastRead_cons] at hword
    · rcases append_eq_append_cons hmid with ⟨b, hmem, -⟩ | ⟨v', rfl, rfl⟩
      · exact absurd (by rw [hmem]; simp) (hc.notMem hid)
      · exact Or.inl ⟨u, v', by simp, (isWordBetween_append_cons hc.not_word).mp hword⟩
  · rintro (⟨u, v, rfl, hword⟩ | h)
    · exact ⟨u, v ++ c :: t, by simp, (isWordBetween_append_cons hc.not_word).mpr hword⟩
    · obtain ⟨u, v, rfl, hword⟩ := (hasWord_congr hid hcongr t).mpr h
      refine ⟨s ++ c :: u, v, by simp, ?_⟩
      rwa [lastRead_append, lastRead_cons]

theorem hasWord_cons_iff {c : Char} (hc : IsSeparator c) {before : Option Char} {s : Text} :
    HasWord id before (c :: s) ↔ HasWord id none s := by
  have happend : HasWord id before ([] ++ c :: s) ↔ HasWord id before [] ∨ HasWord id none s :=
    hasWord_append_cons_iff hid hc
  rwa [List.nil_append, or_iff_right (not_hasWord_nil hid before)] at happend

theorem hasWord_append_left_iff {run : Text} (hrun : ∀ c ∈ run, IsSeparator c) {s : Text} :
    HasWord id none (run ++ s) ↔ HasWord id none s := by
  induction run with
  | nil => rfl
  | cons c run ih =>
    rw [List.forall_mem_cons] at hrun
    rw [List.cons_append, hasWord_cons_iff hid hrun.1, ih hrun.2]

theorem hasWord_append_right_iff {run : Text} (hrun : ∀ c ∈ run, IsSeparator c)
    {before : Option Char} {s : Text} : HasWord id before (s ++ run) ↔ HasWord id before s := by
  cases run with
  | nil => rw [List.append_nil]
  | cons c run =>
    rw [List.forall_mem_cons] at hrun
    have hnone : ¬HasWord id none run := by
      have hleft := hasWord_append_left_iff hid hrun.2 (s := [])
      rw [List.append_nil] at hleft
      exact fun h => not_hasWord_nil hid none (hleft.mp h)
    rw [hasWord_append_cons_iff hid hrun.1, or_iff_left hnone]

theorem hasWord_trim_iff {s : Text} : HasWord id none s.trim ↔ HasWord id none s := by
  obtain ⟨lead, tail, hlead, htail, hs⟩ := exists_trim_append s
  conv_rhs => rw [hs]
  rw [hasWord_append_left_iff hid fun c hc => isSeparator_of_isBlank (hlead c hc),
    hasWord_append_right_iff hid fun c hc => isSeparator_of_isBlank (htail c hc)]

/-- Without capitals there are no words. -/
theorem not_hasWord_of_forall_not_upper {s : Text} (h : ∀ c ∈ s, c.isUpper = false)
    (before : Option Char) : ¬HasWord id before s := by
  rintro ⟨u, v, rfl, -⟩
  obtain ⟨c, t, hc, hupper⟩ := exists_upper_cons hid
  simp [h c (by simp [hc])] at hupper

/-! ### Blanking -/

/-- **A text without the word stays.** -/
theorem blankAfter_eq_self {before : Option Char} {s : Text} (h : ¬HasWord id before s) :
    blankAfter id before s = s := by
  induction s generalizing before with
  | nil => exact blankAfter_nil hid before
  | cons c s ih =>
    have hnone : mentionAt? id before (c :: s) = none := by
      refine (mentionAt?_eq_none_iff hid).mpr fun lead tail rest hm heq => ?_
      exact h ⟨lead, tail ++ rest, heq, hm.word⟩
    rw [blankAfter_keep hnone, ih fun hs => h (standsWhere_cons_iff.mpr (Or.inr hs))]

/-- Within a word no mention starts. -/
theorem mentionAt?_of_isWordChar {b c : Char} (hb : isWordChar b = true)
    (hc : isWordChar c = true) (s : Text) : mentionAt? id (some b) (c :: s) = none := by
  refine (mentionAt?_eq_none_iff hid).mpr fun lead tail rest hm heq => ?_
  have hblank : isBlank c = false := by
    rw [Bool.eq_false_iff]
    intro hblank
    simp [not_isWordChar_of_isBlank hblank] at hc
  obtain rfl := hm.lead_eq_nil hblank heq
  have hword := hm.word.not_isWordChar_before hid b rfl
  simp [hb] at hword

/-- Blanking what follows an id makes no whole word of it. -/
theorem isWordBetween_of_blankAfter {before : Option Char} {v : Text}
    (h : IsWordBetween before id (blankAfter id id.getLast? v)) : IsWordBetween before id v := by
  obtain ⟨b, hlast, hb⟩ := isWordChar_getLast? hid
  rw [hlast, isWordBetween_iff hid] at h
  refine (isWordBetween_iff hid).mpr ⟨h.1, fun c hc => ?_⟩
  rw [Bool.eq_false_iff]
  intro hword
  obtain ⟨s, rfl⟩ := List.head?_eq_some_iff.mp hc
  have hkeep := h.2 c (by rw [blankAfter_keep (mentionAt?_of_isWordChar hid hb hword s)]; rfl)
  simp [hword] at hkeep

/-- A space in place of a mention makes no whole word of what follows. -/
theorem not_hasWord_after_mention {before : Option Char} {lead tail rest : Text}
    (hm : IsMention id before lead tail rest)
    (h : ¬HasWord id (lastRead before (lead ++ (id ++ tail)))
      (blankAfter id (lastRead before (lead ++ (id ++ tail))) rest)) :
    ¬HasWord id none (blankAfter id (lastRead before (lead ++ (id ++ tail))) rest) := by
  cases hblank : blankAfter id (lastRead before (lead ++ (id ++ tail))) rest with
  | nil => exact not_hasWord_nil hid none
  | cons d s =>
    rw [hblank] at h
    rintro hword
    rcases standsWhere_cons_iff.mp hword with ⟨v, heq, hv⟩ | hlater
    · -- the id would follow the mention, so there are blank characters between the two
      rw [heq] at hblank h
      obtain ⟨v', rfl, -⟩ := exists_append_of_blankAfter hid (fun c => isBlank_of_mem_id hid) hblank
      rcases List.eq_nil_or_concat tail with rfl | ⟨t, e, rfl⟩
      · obtain ⟨c, t, hc, hupper⟩ := exists_upper_cons hid
        have hafter := hm.word.not_isWordChar_after hid c (by simp [hc])
        simp [isWordChar_of_isUpper hupper] at hafter
      · have hlast : lastRead before (lead ++ (id ++ t.concat e)) = some e := by
          rw [List.concat_eq_append, lastRead_of_ne_nil (by simp), ← List.append_assoc,
            ← List.append_assoc, List.getLast?_concat]
        have hcongr : (some e).any isWordChar = (none : Option Char).any isWordChar := by
          simp [not_isWordChar_of_isBlank (hm.tail_blank e (by simp))]
        rw [hlast, hasWord_congr hid hcongr] at h
        exact h ⟨[], v, rfl, hv⟩
    · exact h (standsWhere_cons_iff.mpr (Or.inr hlater))

/-- **No word is left** where the mentions were. -/
theorem not_hasWord_blankAfter (before : Option Char) (s : Text) :
    ¬HasWord id before (blankAfter id before s) := by
  induction before, s using mention_induction hid with
  | nil before =>
    rw [blankAfter_nil hid]
    exact not_hasWord_nil hid before
  | mention before lead tail rest hm ih =>
    rw [blankAfter_mention hid hm, hasWord_cons_iff hid (isSeparator_of_isBlank isBlank_space)]
    exact not_hasWord_after_mention hid hm ih
  | keep before c s hnone ih =>
    rw [blankAfter_keep hnone]
    rintro hword
    -- a word at the front of the blanked text was there before, and the reader would have seen it
    rcases standsWhere_cons_iff.mp hword with ⟨v, heq, hv⟩ | hlater
    · rw [← blankAfter_keep hnone] at heq
      obtain ⟨v', hs, rfl⟩ := exists_append_of_blankAfter hid (fun c => isBlank_of_mem_id hid) heq
      rw [lastRead_of_ne_nil (isTicketId_ne_nil hid)] at hv
      rw [hs, mentionAt?_id_append hid (isWordBetween_of_blankAfter hid hv)] at hnone
      simp at hnone
    · exact ih hlater

/-! ### Collapsing -/

theorem hasWord_collapseBlanksFrom (s : Text) :
    (∀ w, HasWord id none (w ++ collapseBlanksFrom false s) ↔ HasWord id none (w ++ s)) ∧
      (HasWord id none (collapseBlanksFrom true s) ↔ HasWord id none s) := by
  have hspace := isSeparator_of_isBlank isBlank_space
  -- `w` is what was kept so far: it stays in front as the neighbour of the next character
  induction s with
  | nil => exact ⟨fun w => Iff.rfl, Iff.rfl⟩
  | cons c s ih =>
    obtain ⟨hkept, hrun⟩ := ih
    have hkept' : ∀ w, HasWord id none (w ++ c :: collapseBlanksFrom false s) ↔
        HasWord id none (w ++ c :: s) := by
      intro w
      rw [List.append_cons, hkept, ← List.append_cons]
    cases hc : isBlank c with
    | false =>
      simp only [collapseBlanksFrom, hc, Bool.false_eq_true, if_false]
      exact ⟨hkept', hkept' []⟩
    | true =>
      have hsep := isSeparator_of_isBlank hc
      simp only [collapseBlanksFrom, hc, Bool.false_eq_true, if_true, if_false]
      refine ⟨fun w => ?_, by rw [hrun, hasWord_cons_iff hid hsep]⟩
      split
      · rw [hasWord_append_cons_iff hid hspace, hrun, hasWord_append_cons_iff hid hsep]
      · exact hkept' w

/-- No word comes about when blank characters are collapsed. -/
theorem hasWord_collapseBlanks_iff {s : Text} :
    HasWord id none (collapseBlanks s) ↔ HasWord id none s :=
  (hasWord_collapseBlanksFrom hid s).1 []

/-- **No word is left when the mentions are taken out.** -/
theorem not_hasWord_dropTicket (s : Text) : ¬HasWord id none (dropTicket id s) := by
  rw [dropTicket, hasWord_collapseBlanks_iff hid, hasWord_trim_iff hid, blankTicket_eq]
  exact not_hasWord_blankAfter hid none s

end

end MergeMessage.Commit
