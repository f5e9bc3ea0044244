import MergeMessage.Commit.Reply
import MergeMessage.Proofs.Lowercase
import MergeMessage.Proofs.Subjects

/-!
# Tidied scopes and descriptions

A scope loses its extra parentheses and the blank characters at its ends, gets hyphens for the blank
characters inside, and goes to lowercase: it ends up in kebab case if all its other characters have
forms in kebab case.  A description loses some capitals and the marks at its end, but whatever else
it holds keeps it from becoming empty.

## Main definitions

* `HasKebabForm` — a text whose lowercase form is in kebab case, blank characters apart.

## Main results

* `isKebabScope_tidyScope_iff` — which scopes end up in kebab case.
* `exists_tidyDescription_cons` — a description with a letter stays one.
-/

namespace MergeMessage.Commit

open Text

/-! ### Scopes -/

/-- The text is more than blank characters, and all its other characters have lowercase forms in
kebab case. -/
structure HasKebabForm (s : Text) : Prop where
  exists_not_blank : ∃ c ∈ s, isBlank c = false
  all_kebab : ∀ c ∈ s, isBlank c = true ∨ becomesKebab c = true

theorem squeezeAfter_eq_nil_iff {filler : Text} (hne : filler ≠ []) {pending : Bool} {s : Text} :
    squeezeAfter filler pending s = [] ↔ pending = false ∧ s = [] := by
  induction s generalizing pending with
  | nil => cases pending <;> simp [squeezeAfter, hne]
  | cons c s ih =>
    rw [squeezeAfter]
    split
    · simp [ih]
    · simp

/-- Squeezed texts hold the filler and what is not blank. -/
theorem forall_mem_squeezeAfter_iff {p : Char → Prop} {filler : Text} (hp : ∀ c ∈ filler, p c)
    {pending : Bool} {s : Text} :
    (∀ c ∈ squeezeAfter filler pending s, p c) ↔ ∀ c ∈ s, isBlank c = true ∨ p c := by
  induction s generalizing pending with
  | nil =>
    cases pending with
    | false => simp [squeezeAfter]
    | true => simpa [squeezeAfter] using hp
  | cons c s ih =>
    rw [squeezeAfter, List.forall_mem_cons]
    split
    · next hc => simp [ih, hc]
    · next hc =>
      have hfiller : ∀ d ∈ (if pending then filler else []), p d := by
        cases pending with
        | false => simp
        | true => exact hp
      rw [List.forall_mem_append, List.forall_mem_cons, ih, or_iff_right hc]
      exact and_iff_right hfiller

theorem forall_mem_trim_iff {p : Char → Prop} {s : Text} :
    (∀ c ∈ trim s, isBlank c = true ∨ p c) ↔ ∀ c ∈ s, isBlank c = true ∨ p c := by
  obtain ⟨lead, tail, hlead, htail, hs⟩ := exists_trim_append s
  constructor
  · intro h
    rw [hs, List.forall_mem_append, List.forall_mem_append]
    exact ⟨fun c hc => Or.inl (hlead c hc), h, fun c hc => Or.inl (htail c hc)⟩
  · intro h c hc
    exact h c (by rw [hs]; simp [hc])

/-- The marks that a description is stripped of. -/
theorem isFinalMark_iff {c : Char} : isFinalMark c = true ↔ c = '.' ∨ c = '!' ∨ c = '?' := by
  simp [isFinalMark, or_assoc]

theorem not_isBlank_of_isFinalMark {c : Char} (h : isFinalMark c = true) : isBlank c = false := by
  rcases isFinalMark_iff.mp h with rfl | rfl | rfl <;> decide

/-- A scope in parentheses has no closing one at its end to lose. -/
theorem tidyScope_of_notMem {scope : Text} (h : ')' ∉ scope) :
    tidyScope scope = lower (squeeze (trim (scope.dropWhile (· == '('))) ['-']) := by
  have hclose : ∀ c ∈ scope.dropWhile (· == '('), (c == ')') = false := by
    intro c hc
    have hne : c ≠ ')' := by
      rintro rfl
      exact h ((List.dropWhile_sublist _).mem hc)
    simpa using hne
  rw [tidyScope, dropEndWhile_eq_self hclose]

/-- **Which scopes end up in kebab case.**  After its opening parentheses, a scope must be more than
blank characters, and the others must have forms in kebab case. -/
theorem isKebabScope_tidyScope_iff {scope : Text} (h : ')' ∉ scope) :
    IsKebabScope (tidyScope scope) ↔ HasKebabForm (scope.dropWhile (· == '(')) := by
  have hhyphen : ∀ c ∈ ['-'], becomesKebab c = true := List.forall_mem_singleton.mpr (by decide)
  have hnil : trim (scope.dropWhile (· == '(')) ≠ [] ↔
      ∃ c ∈ scope.dropWhile (· == '('), isBlank c = false := by
    rw [ne_eq, trim_eq_nil_iff, isAllBlank, List.all_eq_true]
    simp
  rw [IsKebabScope, tidyScope_of_notMem h, ne_eq, lower_eq_nil_iff, forall_isKebab_lower_iff,
    squeeze, squeezeAfter_eq_nil_iff (by simp), forall_mem_squeezeAfter_iff hhyphen,
    forall_mem_trim_iff, eq_self_iff_true, true_and, ← ne_eq, hnil]
  exact ⟨fun h => ⟨h.1, h.2⟩, fun h => ⟨h.1, h.2⟩⟩

/-- Tidying brings no closing parenthesis in. -/
theorem notMem_tidyScope {scope : Text} (h : ')' ∉ scope) : ')' ∉ tidyScope scope := by
  intro hmem
  rw [tidyScope_of_notMem h] at hmem
  obtain ⟨c, hc, hlow⟩ := exists_lowersTo_of_mem_lowerAfter hmem
  obtain rfl : ')' = c := hlow.eq_of_mark (by decide) (by decide)
  have hfiller : ∀ c ∈ ['-'], c ≠ ')' := List.forall_mem_singleton.mpr (by decide)
  have hall : ∀ c ∈ scope.dropWhile (· == '('), isBlank c = true ∨ c ≠ ')' := by
    intro c hc
    refine Or.inr fun heq => h ?_
    subst heq
    exact (List.dropWhile_sublist _).mem hc
  exact (forall_mem_squeezeAfter_iff hfiller).mpr (forall_mem_trim_iff.mpr hall) ')' hc rfl

/-! ### Descriptions -/

/-- What becomes of a word in Title Case. -/
theorem exists_mem_lowerWord {word : Text} {c : Char} (hc : c ∈ word) :
    ∃ x ∈ (if isCapitalizedWord word then word.lower else word), LowersTo c x := by
  split
  · exact exists_mem_lowerAfter hc []
  · exact ⟨c, hc, Or.inl rfl⟩

/-- Every character of a description but the space is stood for in sentence case. -/
theorem exists_mem_sentenceCase {s : Text} {c : Char} (hc : c ∈ s) (hne : c ≠ ' ') :
    ∃ x ∈ sentenceCase s, LowersTo c x := by
  unfold sentenceCase
  dsimp only
  split
  · obtain ⟨w, hw, hcw⟩ := exists_mem_pieces hc hne
    obtain ⟨x, hx, hlow⟩ := exists_mem_lowerWord hcw
    exact ⟨x, mem_join_of_mem (List.mem_map_of_mem hw) hx, hlow⟩
  · cases s with
    | nil => simp at hc
    | cons d s =>
      rw [lowerFirst, lowerChar_eq]
      rcases List.mem_cons.mp hc with rfl | hc
      · obtain ⟨x, t, hx, hlow⟩ := exists_lowerCharBetween_cons [] c []
        exact ⟨x, by simp [hx], hlow⟩
      · exact ⟨c, List.mem_append_right _ hc, Or.inl rfl⟩

theorem exists_join_cons (sep : Text) (c : Char) (w : Text) (words : List Text) :
    ∃ t, join sep ((c :: w) :: words) = c :: t := by
  cases words with
  | nil => exact ⟨w, by simp [join]⟩
  | cons v words => exact ⟨_, by rw [join, List.intercalate_cons_cons]; rfl⟩

/-- In sentence case, a description does not start blank if it did not before. -/
theorem exists_sentenceCase_cons {c : Char} (hc : isBlank c = false) (s : Text) :
    ∃ x t, sentenceCase (c :: s) = x :: t ∧ isBlank x = false := by
  have hne : c ≠ ' ' := by
    rintro rfl
    exact absurd hc (by decide)
  unfold sentenceCase
  dsimp only
  split
  · obtain ⟨w, words, hpieces⟩ := exists_pieces_cons hne s
    -- the first word starts with the first character, or with what stands for it
    obtain ⟨x, v, hx, hlow⟩ : ∃ x v,
        (if isCapitalizedWord (c :: w) then lower (c :: w) else c :: w) = x :: v ∧
          LowersTo c x := by
      split
      · obtain ⟨x, v, hx, hlow⟩ := exists_lowerCharBetween_cons [] c w
        exact ⟨x, v ++ lowerAfter [c] w, by rw [lower, lowerAfter, hx]; rfl, hlow⟩
      · exact ⟨c, w, rfl, Or.inl rfl⟩
    rw [hpieces, List.map_cons, hx]
    obtain ⟨t, ht⟩ := exists_join_cons [' '] x v
      (words.map fun word => if isCapitalizedWord word then word.lower else word)
    exact ⟨x, t, ht, hlow.not_blank hc⟩
  · obtain ⟨x, v, hx, hlow⟩ := exists_lowerCharBetween_cons [] c []
    exact ⟨x, v ++ s, by rw [lowerFirst, lowerChar_eq, hx]; rfl, hlow.not_blank hc⟩

/-- A mark at the end of a description is no letter. -/
theorem isFinalMark_of_lowersTo {c x : Char} (hc : isAlphabetic c = true) (h : LowersTo c x) :
    isFinalMark x = false := by
  rw [Bool.eq_false_iff, isFinalMark]
  intro hmark
  simp only [Bool.or_eq_true, beq_iff_eq] at hmark
  -- a mark stands for itself only, so the letter would be a mark
  have hx : x = c := by
    rcases hmark with (rfl | rfl) | rfl
    · exact h.eq_of_mark (by decide) (by decide)
    · exact h.eq_of_mark (by decide) (by decide)
    · exact h.eq_of_mark (by decide) (by decide)
  subst hx
  rcases hmark with (rfl | rfl) | rfl
  · exact absurd hc (by decide +kernel)
  · exact absurd hc (by decide +kernel)
  · exact absurd hc (by decide +kernel)

/-- **A description with a letter stays one.**  It is not empty after tidying, and it does not start
blank. -/
theorem exists_tidyDescription_cons {s : Text} (hs : StopsAt isBlank s) {c : Char} (hc : c ∈ s)
    (hletter : isAlphabetic c = true) :
    ∃ x t, tidyDescription s = x :: t ∧ isBlank x = false := by
  obtain ⟨d, s, rfl⟩ := List.exists_cons_of_ne_nil (List.ne_nil_of_mem hc)
  have hne : c ≠ ' ' := by
    rintro rfl
    exact absurd (isBlank_of_isAlphabetic hletter) (by decide)
  obtain ⟨x, t, hx, hblank⟩ := exists_sentenceCase_cons ((stopsAt_cons _ d s).mp hs) s
  obtain ⟨y, hy, hlow⟩ := exists_mem_sentenceCase hc hne
  -- what stands for the letter is not dropped at the end
  have hmem : y ∈ tidyDescription (d :: s) :=
    mem_dropEndWhile hy (isFinalMark_of_lowersTo hletter hlow)
  obtain ⟨z, v, hz⟩ := List.exists_cons_of_ne_nil (List.ne_nil_of_mem hmem)
  obtain ⟨tail, -, heq⟩ : ∃ tail : Text, (∀ c ∈ tail, isFinalMark c = true) ∧
      sentenceCase (d :: s) = tidyDescription (d :: s) ++ tail :=
    exists_dropEndWhile_append isFinalMark _
  -- and the description starts as it did in sentence case
  have hzx : z = x := by
    rw [hx, hz] at heq
    exact (List.cons.inj heq).1.symm
  exact ⟨z, v, hz, hzx ▸ hblank⟩

end MergeMessage.Commit
