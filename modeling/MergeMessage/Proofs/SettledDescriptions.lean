import MergeMessage.Proofs.FirstLines
import MergeMessage.Proofs.LetterForms

/-!
# Descriptions that stay

In Title Case, sentence case brings the capitalized words down and leaves the others; in any other
description it lowers the first character.  Once a word was brought down, the description is in Title
Case no longer, so a first word that was left the first time is lowered the second time.  Nothing else
changes when a description is tidied again.

## Main definitions

* `lowerWords` — a description in Title Case with its capitalized words brought down.
* `KeepsFirstWord` — a description in Title Case of which the first word stays, and another does not.

## Main results

* `isTitleCased_lowerWords_iff` — what is still in Title Case once its words were brought down.
* `lowerWords_dropEndWhile` — bringing words down once is enough.
* `tidyDescription_tidyDescription_iff` — which descriptions stay when they are tidied again.
-/

namespace MergeMessage.Commit

open Text

/-! ### Words in Title Case -/

/-- The word with its letters in lowercase, if it is a capitalized word. -/
def lowerWord (word : Text) : Text := if isCapitalizedWord word then word.lower else word

/-- The text with its capitalized words in lowercase. -/
def lowerWords (s : Text) : Text := join [' '] ((pieces ' ' s).map lowerWord)

/-- If the word starts with a letter, it starts with an uppercase one. -/
def IsTitleWord (word : Text) : Prop := startsAlphabetic word = true → startsUppercase word = true

/-- All words of the text that start with a letter start with an uppercase one. -/
def HasTitleWords (s : Text) : Prop := ∀ word ∈ pieces ' ' s, IsTitleWord word

theorem sentenceCase_eq (s : Text) :
    sentenceCase s = if isTitleCased (pieces ' ' s) then lowerWords s else lowerFirst s := rfl

theorem space_notMem_lower {word : Text} (h : ' ' ∉ word) : ' ' ∉ word.lower := by
  intro hmem
  obtain ⟨c, hc, hlow⟩ := exists_lowersTo_of_mem_lowerAfter hmem
  obtain rfl : ' ' = c := hlow.eq_of_mark (by decide) (by decide)
  exact h hc

theorem space_notMem_lowerWord {word : Text} (h : ' ' ∉ word) : ' ' ∉ lowerWord word := by
  rw [lowerWord]
  split
  · exact space_notMem_lower h
  · exact h

theorem lowerWords_of_notMem {s : Text} (h : ' ' ∉ s) : lowerWords s = lowerWord s := by
  rw [lowerWords, pieces_of_notMem h]
  simp [join]

theorem lowerWords_append {word : Text} (h : ' ' ∉ word) (s : Text) :
    lowerWords (word ++ ' ' :: s) = lowerWord word ++ ' ' :: lowerWords s := by
  have hne : (pieces ' ' s).map lowerWord ≠ [] := by simp [pieces_ne_nil]
  rw [lowerWords, pieces_append_sep h, List.map_cons, join_cons hne]
  rfl

theorem hasTitleWords_of_notMem {s : Text} (h : ' ' ∉ s) : HasTitleWords s ↔ IsTitleWord s := by
  simp [HasTitleWords, pieces_of_notMem h]

theorem hasTitleWords_append {word : Text} (h : ' ' ∉ word) (s : Text) :
    HasTitleWords (word ++ ' ' :: s) ↔ IsTitleWord word ∧ HasTitleWords s := by
  simp [HasTitleWords, pieces_append_sep h]

/-- A text in Title Case has several words. -/
theorem isTitleCased_iff {s : Text} :
    isTitleCased (pieces ' ' s) = true ↔ ' ' ∈ s ∧ HasTitleWords s := by
  have hlength : (pieces ' ' s).length > 1 ↔ ' ' ∈ s := by
    by_cases hmem : ' ' ∈ s
    · obtain ⟨word, rest, rfl, hword⟩ := List.eq_append_cons_of_mem hmem
      have hpos := List.length_pos_iff.mpr (pieces_ne_nil ' ' rest)
      rw [pieces_append_sep hword, List.length_cons]
      exact iff_of_true (by omega) hmem
    · rw [pieces_of_notMem hmem]
      exact iff_of_false (by simp) hmem
  rw [isTitleCased, Bool.and_eq_true, decide_eq_true_eq, hlength, List.all_eq_true]
  simp only [List.mem_filter, and_imp, HasTitleWords, IsTitleWord]

/-- A description in Title Case starts with a word. -/
theorem exists_pieces_of_isTitleCased {s : Text} (hs : StopsAt isBlank s)
    (h : isTitleCased (pieces ' ' s) = true) :
    ∃ c word words, pieces ' ' s = (c :: word) :: words := by
  obtain ⟨hspace, -⟩ := isTitleCased_iff.mp h
  obtain ⟨c, t, rfl⟩ := List.exists_cons_of_ne_nil (List.ne_nil_of_mem hspace)
  have hne : c ≠ ' ' := by
    rintro rfl
    exact absurd ((stopsAt_cons _ _ _).mp hs) (by decide)
  obtain ⟨word, words, hpieces⟩ := exists_pieces_cons hne t
  exact ⟨c, word, words, hpieces⟩

/-- The first character of a text is lowered if its first word is a capitalized word. -/
theorem exists_lowerWords_cons {c : Char} {s word : Text} {words : List Text}
    (hs : pieces ' ' s = (c :: word) :: words) :
    ∃ x t, lowerWords s = x :: t ∧
      if isCapitalizedWord (c :: word) then x ∈ lowerCharBetween [] c word else x = c := by
  rw [lowerWords, hs, List.map_cons, lowerWord]
  split
  · obtain ⟨x, v, hx, -⟩ := exists_lowerCharBetween_cons [] c word
    have hlower : lower (c :: word) = x :: (v ++ lowerAfter [c] word) := by
      rw [lower, lowerAfter, hx, List.cons_append]
    obtain ⟨t, ht⟩ := exists_join_cons [' '] x (v ++ lowerAfter [c] word) (words.map lowerWord)
    exact ⟨x, t, by rw [hlower, ht], by rw [hx]; exact List.mem_cons_self⟩
  · obtain ⟨t, ht⟩ := exists_join_cons [' '] c word (words.map lowerWord)
    exact ⟨c, t, ht, rfl⟩

/-! ### The end of a text -/

theorem dropEndWhile_append_space (word s : Text) :
    dropEndWhile isFinalMark (word ++ ' ' :: s) = word ++ ' ' :: dropEndWhile isFinalMark s :=
  dropEndWhile_append_stop (by decide) word s

theorem space_mem_dropEndWhile_iff {s : Text} : ' ' ∈ dropEndWhile isFinalMark s ↔ ' ' ∈ s :=
  ⟨mem_of_mem_dropEndWhile, fun h => mem_dropEndWhile h (by decide)⟩

/-- A word starts with the same letter when it loses its marks, if it starts with one at all. -/
theorem isTitleWord_dropEndWhile_iff {word : Text} :
    IsTitleWord (dropEndWhile isFinalMark word) ↔ IsTitleWord word := by
  cases word with
  | nil => exact Iff.rfl
  | cons c word =>
    rcases dropEndWhile_cons_cases isFinalMark c word with ⟨hnil, hmark⟩ | ⟨t, ht⟩
    · -- a mark is no letter
      have hletter : isAlphabetic c = false := by
        rw [Bool.eq_false_iff]
        intro hc
        simp [isFinalMark_of_lowersTo hc (Or.inl rfl)] at hmark
      simp [hnil, IsTitleWord, startsAlphabetic, hletter]
    · rw [ht]
      exact Iff.rfl

theorem hasTitleWords_dropEndWhile_iff {s : Text} :
    HasTitleWords (dropEndWhile isFinalMark s) ↔ HasTitleWords s := by
  induction s using pieces_induction ' ' with
  | last s hs =>
    have hs' : ' ' ∉ dropEndWhile isFinalMark s := by rwa [space_mem_dropEndWhile_iff]
    rw [hasTitleWords_of_notMem hs', hasTitleWords_of_notMem hs, isTitleWord_dropEndWhile_iff]
  | cut word s hword ih =>
    rw [dropEndWhile_append_space, hasTitleWords_append hword, hasTitleWords_append hword, ih]

theorem isTitleCased_dropEndWhile {s : Text} :
    isTitleCased (pieces ' ' (dropEndWhile isFinalMark s)) = isTitleCased (pieces ' ' s) := by
  rw [Bool.eq_iff_iff, isTitleCased_iff, isTitleCased_iff, space_mem_dropEndWhile_iff,
    hasTitleWords_dropEndWhile_iff]

/-! ### Capitalized words -/

/-- **The parts of a capitalized word**: an uppercase character, lowercase ones and marks. -/
theorem exists_parts_of_isCapitalizedWord {word : Text} (h : isCapitalizedWord word = true) :
    ∃ c t tail, dropEndWhile isWordEndMark word = c :: t ∧ word = c :: (t ++ tail) ∧
      isUppercase c = true ∧ (∀ d ∈ t, isLowercase d = true) ∧
      ∀ d ∈ tail, isWordEndMark d = true := by
  obtain ⟨tail, htail, heq⟩ := exists_dropEndWhile_append isWordEndMark word
  rw [isCapitalizedWord] at h
  split at h
  · simp at h
  · next c t hdrop =>
    rw [Bool.and_eq_true, List.all_eq_true] at h
    exact ⟨c, t, tail, hdrop, by rw [heq, hdrop, List.cons_append], h.1, h.2, htail⟩

/-- A capitalized word starts with an uppercase character. -/
theorem exists_cons_of_isCapitalizedWord {word : Text} (h : isCapitalizedWord word = true) :
    ∃ c t, word = c :: t ∧ isUppercase c = true := by
  obtain ⟨c, t, tail, -, heq, hc, -, -⟩ := exists_parts_of_isCapitalizedWord h
  exact ⟨c, t ++ tail, heq, hc⟩

/-- The marks at the end do not count. -/
theorem isCapitalizedWord_dropEndWhile (word : Text) :
    isCapitalizedWord (dropEndWhile isFinalMark word) = isCapitalizedWord word := by
  obtain ⟨tail, htail, heq⟩ := exists_dropEndWhile_append isFinalMark word
  have hmark : ∀ c ∈ tail, isWordEndMark c = true := by
    intro c hc
    have hfinal := htail c hc
    rw [isFinalMark] at hfinal
    rw [isWordEndMark, hfinal, Bool.true_or]
  have hdrop : dropEndWhile isWordEndMark word =
      dropEndWhile isWordEndMark (dropEndWhile isFinalMark word) := by
    conv_lhs => rw [heq, dropEndWhile_append_of_pos hmark]
  rw [isCapitalizedWord, isCapitalizedWord, hdrop]

/-- A capitalized word stays a word of Title Case if its first character is its own lowercase form. -/
theorem isTitleWord_lowerWord_iff {word : Text} :
    IsTitleWord (lowerWord word) ↔ IsTitleWord word ∧
      (isCapitalizedWord word = true → ∀ c ∈ word.head?, IsSettled c) := by
  rw [lowerWord]
  split
  · next hcap =>
    obtain ⟨c, t, rfl, hupper⟩ := exists_cons_of_isCapitalizedWord hcap
    have hword : IsTitleWord (c :: t) := by simp [IsTitleWord, startsUppercase, hupper]
    simp only [hword, hcap, List.head?_cons, Option.mem_some_iff, forall_eq', true_and,
      forall_const]
    constructor
    · intro htitle
      rcases isSettled_or_isFormOf [] c t with hc | ⟨x, hx, heq⟩
      · exact hc
      · -- the word would start with a small letter
        have hstart : ∃ v, lower (c :: t) = x :: v := by
          rw [lower, lowerAfter]
          rcases heq with heq | heq <;> exact ⟨_, by rw [heq]; rfl⟩
        obtain ⟨v, hv⟩ := hstart
        rw [hv] at htitle
        have hnot := htitle (by simp [startsAlphabetic, hx.alphabetic])
        simp [startsUppercase, hx.not_upper] at hnot
    · intro hc
      rw [lower, lowerAfter, hc [] t]
      simp [IsTitleWord, startsUppercase, hupper]
  · next hcap => simp [hcap]

/-- **What is still in Title Case** once its words were brought down. -/
theorem hasTitleWords_lowerWords_iff {s : Text} :
    HasTitleWords (lowerWords s) ↔ HasTitleWords s ∧
      ∀ word ∈ pieces ' ' s, isCapitalizedWord word = true → ∀ c ∈ word.head?, IsSettled c := by
  induction s using pieces_induction ' ' with
  | last s hs =>
    have hs' : ' ' ∉ lowerWord s := space_notMem_lowerWord hs
    rw [lowerWords_of_notMem hs, hasTitleWords_of_notMem hs', hasTitleWords_of_notMem hs,
      isTitleWord_lowerWord_iff, pieces_of_notMem hs]
    simp
  | cut word s hword ih =>
    rw [lowerWords_append hword, hasTitleWords_append (space_notMem_lowerWord hword),
      hasTitleWords_append hword, isTitleWord_lowerWord_iff, ih, pieces_append_sep hword,
      List.forall_mem_cons]
    tauto

theorem isTitleCased_lowerWords_iff {s : Text} (h : isTitleCased (pieces ' ' s) = true) :
    isTitleCased (pieces ' ' (lowerWords s)) = true ↔
      ∀ word ∈ pieces ' ' s, isCapitalizedWord word = true → ∀ c ∈ word.head?, IsSettled c := by
  obtain ⟨hspace, htitle⟩ := isTitleCased_iff.mp h
  have hspace' : ' ' ∈ lowerWords s := by
    obtain ⟨word, rest, rfl, hword⟩ := List.eq_append_cons_of_mem hspace
    rw [lowerWords_append hword]
    simp
  rw [isTitleCased_iff, hasTitleWords_lowerWords_iff, and_iff_right hspace', and_iff_right htitle]

/-- A word that was brought down, or not, stays, also without the marks at its end. -/
theorem lowerWord_eq_self {word part : Text} (hpart : part <+: lowerWord word)
    (hcap : isCapitalizedWord part = isCapitalizedWord (lowerWord word)) :
    lowerWord part = part := by
  rw [lowerWord]
  split
  · next h =>
    cases hword : isCapitalizedWord word with
    | true =>
      -- the characters of a lowercase form stay
      rw [lowerWord, if_pos hword] at hpart
      exact lowerAfter_of_isSettled (fun c hc => isSettled_of_mem_lowerAfter (hpart.mem hc)) []
    | false =>
      rw [h, lowerWord, if_neg (by simp [hword]), hword] at hcap
      simp at hcap
  · rfl

theorem lowerWord_lowerWord (word : Text) : lowerWord (lowerWord word) = lowerWord word :=
  lowerWord_eq_self (List.prefix_refl _) rfl

theorem lowerWord_dropEndWhile (word : Text) :
    lowerWord (dropEndWhile isFinalMark (lowerWord word)) =
      dropEndWhile isFinalMark (lowerWord word) :=
  lowerWord_eq_self (List.rdropWhile_prefix _ _) (isCapitalizedWord_dropEndWhile _)

/-- **Bringing words down once is enough**, also when the marks at the end are gone. -/
theorem lowerWords_dropEndWhile (s : Text) :
    lowerWords (dropEndWhile isFinalMark (lowerWords s)) =
      dropEndWhile isFinalMark (lowerWords s) := by
  induction s using pieces_induction ' ' with
  | last s hs =>
    have hs' : ' ' ∉ dropEndWhile isFinalMark (lowerWord s) := by
      rw [space_mem_dropEndWhile_iff]
      exact space_notMem_lowerWord hs
    rw [lowerWords_of_notMem hs, lowerWords_of_notMem hs', lowerWord_dropEndWhile]
  | cut word s hword ih =>
    rw [lowerWords_append hword, dropEndWhile_append_space,
      lowerWords_append (space_notMem_lowerWord hword), ih, lowerWord_lowerWord]

/-! ### Tidying again -/

/-- The description is in Title Case; its first word is no capitalized word, but starts with a
character that has a lowercase form, and one of the others is a capitalized word that loses its
capital.  The first word may be an acronym or an identifier, say. -/
structure KeepsFirstWord (description : Text) : Prop where
  title : isTitleCased (description.pieces ' ') = true
  first : ∃ c word, (description.pieces ' ').head? = some (c :: word) ∧ lowerChar c ≠ [c] ∧
    isCapitalizedWord (c :: word) = false
  lowered : ∃ c word, c :: word ∈ description.pieces ' ' ∧ lowerChar c ≠ [c] ∧
    isCapitalizedWord (c :: word) = true

theorem isSettled_iff {c : Char} : IsSettled c ↔ lowerChar c = [c] := by
  constructor
  · intro h
    rw [lowerChar_eq, h]
  · intro h
    rw [lowerChar_eq] at h
    rcases isSettled_or_isFormOf [] c [] with hc | ⟨x, hx, heq | heq⟩
    · exact hc
    · rw [heq] at h
      obtain ⟨rfl, -⟩ := List.cons.inj h
      exact hx.settled
    · rw [heq] at h
      simp at h

theorem tidyDescription_eq (s : Text) :
    tidyDescription s = dropEndWhile isFinalMark
      (if isTitleCased (pieces ' ' s) then lowerWords s else lowerFirst s) := rfl

/-- A character that is not its own lowercase form goes to a small letter. -/
theorem exists_lowerFirst_cons {c : Char} (hc : ¬IsSettled c) (s : Text) :
    ∃ x t, lowerFirst (c :: s) = x :: t ∧ IsFormOf c x := by
  rw [lowerFirst, lowerChar_eq]
  rcases isSettled_or_isFormOf [] c [] with h | ⟨x, hx, heq⟩
  · exact absurd h hc
  · rcases heq with heq | heq <;> exact ⟨x, _, by rw [heq]; rfl, hx⟩

theorem lowerFirst_eq_self {s : Text} (h : ∀ c ∈ s.head?, IsSettled c) : lowerFirst s = s := by
  cases s with
  | nil => rfl
  | cons c s => rw [lowerFirst, isSettled_iff.mp (h c rfl), List.singleton_append]

/-- A description that does not end with a mark stays exactly if its first character does. -/
theorem dropEndWhile_lowerFirst_eq_iff {s : Text} (hs : dropEndWhile isFinalMark s = s) :
    dropEndWhile isFinalMark (lowerFirst s) = s ↔ ∀ c ∈ s.head?, IsSettled c := by
  refine ⟨fun h => ?_, fun h => by rw [lowerFirst_eq_self h, hs]⟩
  cases s with
  | nil => simp
  | cons c t =>
    by_contra hc
    obtain ⟨x, v, hx, hform⟩ := exists_lowerFirst_cons (c := c) (by simpa using hc) t
    obtain ⟨tail, -, heq⟩ := exists_dropEndWhile_append isFinalMark (lowerFirst (c :: t))
    rw [h, hx] at heq
    obtain ⟨rfl, -⟩ := List.cons.inj heq
    exact hc (by simpa using hform.settled)

/-- Lowering the first character leads out of Title Case, or changes nothing. -/
theorem isTitleCased_lowerFirst {s : Text} (h : isTitleCased (pieces ' ' s) = false) :
    isTitleCased (pieces ' ' (lowerFirst s)) = false := by
  cases s with
  | nil => exact h
  | cons c s =>
    by_cases hc : IsSettled c
    · rwa [lowerFirst_eq_self (by simpa using hc)]
    · obtain ⟨x, t, hx, hform⟩ := exists_lowerFirst_cons hc s
      rw [hx, Bool.eq_false_iff, ne_eq, isTitleCased_iff]
      rintro ⟨-, htitle⟩
      have hne : x ≠ ' ' := by
        rintro rfl
        exact absurd (isBlank_of_isAlphabetic hform.alphabetic) (by decide)
      obtain ⟨word, words, hpieces⟩ := exists_pieces_cons hne t
      have hupper := htitle (x :: word) (by simp [hpieces]) (by simp [startsAlphabetic, hform.alphabetic])
      simp [startsUppercase, hform.not_upper] at hupper

/-- The first character of a description is stripped only if it is a mark, which stays. -/
theorem isSettled_head?_dropEndWhile_iff {c : Char} {s : Text} :
    (∀ d ∈ (dropEndWhile isFinalMark (c :: s)).head?, IsSettled d) ↔ IsSettled c := by
  rcases dropEndWhile_cons_cases isFinalMark c s with ⟨hnil, hmark⟩ | ⟨t, ht⟩
  · have hascii : ∀ d, (d = '.' ∨ d = '!' ∨ d = '?') → lowerChar d = [d] := by
      rintro d (rfl | rfl | rfl) <;> decide
    rw [hnil]
    exact iff_of_true (by simp) (isSettled_iff.mpr (hascii c (isFinalMark_iff.mp hmark)))
  · simp [ht]

/-- The first character that a description has in sentence case stays if it was lowered. -/
theorem isSettled_head?_lowerFirst (s : Text) : ∀ c ∈ (lowerFirst s).head?, IsSettled c := by
  cases s with
  | nil => simp [lowerFirst]
  | cons c s =>
    obtain ⟨x, t, hx, -⟩ := exists_lowerCharBetween_cons [] c []
    have hmem : x ∈ lowerCharBetween [] c [] := by rw [hx]; exact List.mem_cons_self
    rw [lowerFirst, lowerChar_eq, hx]
    simpa using isSettled_of_mem_lowerCharBetween hmem

/-- In Title Case, the first character changes the second time if its word was left the first time. -/
theorem isSettled_head?_lowerWords_iff {c : Char} {s word : Text} {words : List Text}
    (hs : pieces ' ' s = (c :: word) :: words) :
    (∀ d ∈ (dropEndWhile isFinalMark (lowerWords s)).head?, IsSettled d) ↔
      (isCapitalizedWord (c :: word) = false → IsSettled c) := by
  obtain ⟨x, t, hx, hform⟩ := exists_lowerWords_cons hs
  rw [hx, isSettled_head?_dropEndWhile_iff]
  cases hcap : isCapitalizedWord (c :: word) with
  | true =>
    rw [if_pos hcap] at hform
    exact iff_of_true (isSettled_of_mem_lowerCharBetween hform) (by simp)
  | false =>
    rw [if_neg (by simp [hcap])] at hform
    simp [hform]

/-- Another word loses its capital exactly if the description is no longer in Title Case. -/
theorem keepsFirstWord_iff {c : Char} {s word : Text} {words : List Text}
    (hs : pieces ' ' s = (c :: word) :: words) (htitle : isTitleCased (pieces ' ' s) = true) :
    KeepsFirstWord s ↔ (¬IsSettled c ∧ isCapitalizedWord (c :: word) = false) ∧
      isTitleCased (pieces ' ' (lowerWords s)) = false := by
  -- the title case is lost as soon as one capitalized word was brought down
  have hlowered : (∃ d w, d :: w ∈ pieces ' ' s ∧ lowerChar d ≠ [d] ∧
      isCapitalizedWord (d :: w) = true) ↔ isTitleCased (pieces ' ' (lowerWords s)) = false := by
    rw [← Bool.not_eq_true, isTitleCased_lowerWords_iff htitle]
    push Not
    constructor
    · rintro ⟨d, w, hw, hne, hcap⟩
      exact ⟨d :: w, hw, hcap, d, rfl, by rwa [isSettled_iff]⟩
    · rintro ⟨w, hw, hcap, d, hd, hsettled⟩
      obtain ⟨v, rfl⟩ := List.head?_eq_some_iff.mp hd
      exact ⟨d, v, hw, by rwa [ne_eq, ← isSettled_iff], hcap⟩
  rw [← hlowered, isSettled_iff]
  constructor
  · rintro ⟨-, ⟨d, w, hhead, hne, hcap⟩, hlost⟩
    rw [hs, List.head?_cons, Option.some.injEq] at hhead
    obtain ⟨rfl, rfl⟩ := List.cons.inj hhead
    exact ⟨⟨hne, hcap⟩, hlost⟩
  · rintro ⟨⟨hne, hcap⟩, hlost⟩
    exact ⟨htitle, ⟨c, word, by rw [hs, List.head?_cons], hne, hcap⟩, hlost⟩

/-- **Which descriptions stay when they are tidied again.** -/
theorem tidyDescription_tidyDescription_iff {s : Text} (hs : StopsAt isBlank s) :
    tidyDescription (tidyDescription s) = tidyDescription s ↔ ¬KeepsFirstWord s := by
  have hstrip : ∀ t, dropEndWhile isFinalMark (dropEndWhile isFinalMark t) =
      dropEndWhile isFinalMark t := fun t => List.rdropWhile_idempotent _ t
  cases htitle : isTitleCased (pieces ' ' s) with
  | false =>
    have hsettled : ∀ c ∈ (dropEndWhile isFinalMark (lowerFirst s)).head?, IsSettled c := by
      have hfirst := isSettled_head?_lowerFirst s
      cases hlower : lowerFirst s with
      | nil => simp
      | cons c t => exact isSettled_head?_dropEndWhile_iff.mpr (hfirst c (by simp [hlower]))
    rw [tidyDescription_eq s, htitle, if_neg (by simp), tidyDescription_eq,
      isTitleCased_dropEndWhile, isTitleCased_lowerFirst htitle, if_neg (by simp)]
    refine iff_of_true ((dropEndWhile_lowerFirst_eq_iff (hstrip _)).mpr hsettled) fun h => ?_
    simp [h.title] at htitle
  | true =>
    obtain ⟨c, word, words, hpieces⟩ := exists_pieces_of_isTitleCased hs htitle
    rw [tidyDescription_eq s, htitle, if_pos rfl, tidyDescription_eq, isTitleCased_dropEndWhile,
      keepsFirstWord_iff hpieces htitle]
    cases hagain : isTitleCased (pieces ' ' (lowerWords s)) with
    | true =>
      -- no capitalized word has lost its capital
      rw [if_pos rfl, lowerWords_dropEndWhile, hstrip]
      simp
    | false =>
      rw [if_neg (by simp), dropEndWhile_lowerFirst_eq_iff (hstrip _),
        isSettled_head?_lowerWords_iff hpieces]
      tauto

end MergeMessage.Commit
