import MergeMessage.Proofs.SettledDescriptions
import MergeMessage.Text.Category

/-!
# Sentence case only changes first letters

In sentence case a description has the words that it had before, except that some of them start
small: the first one, or in Title Case each word of one uppercase character and lowercase ones.  The
lowercase characters of such a word and the marks behind it are their own lowercase forms, so nothing
but the first character of a word ever changes.

## Main definitions

* `Recased` — what may become of a word.

## Main results

* `isSettled_of_isLowercase` — lowercase characters are their own lowercase forms.
* `lower_eq_lowerFirst` — a capitalized word is brought down by its first character.
* `pieces_sentenceCase` — the words of a description in sentence case.
* `sentenceCase_changes_first_letters` — what becomes of each word.
-/

namespace MergeMessage

/-! ### Classes that are apart -/

namespace CodePoints

/-- Behind all changes, membership is a matter of how many there are. -/
theorem contains_of_forall_le {points : CodePoints} {n : ℕ} (h : ∀ change ∈ points, change ≤ n) :
    points.contains n = decide (points.length % 2 = 1) := by
  induction points with
  | nil => rfl
  | cons change changes ih =>
    rw [List.forall_mem_cons] at h
    rw [contains_cons, ih h.2, decide_eq_false (Nat.not_lt.mpr h.1), List.length_cons]
    by_cases hodd : changes.length % 2 = 1
    · simp [hodd]; omega
    · simp [hodd]; omega

/-- Two sets are apart if they are below the last change of the first one, which is bounded. -/
theorem contains_eq_false_of_mask (size : ℕ) {points points' : CodePoints}
    (hmask : points.mask size &&& points'.mask size = 0)
    (hlast : ∀ change ∈ points, change ≤ size) (heven : points.length % 2 = 0) {n : ℕ}
    (h : points.contains n = true) : points'.contains n = false := by
  have hn : n < size := by
    by_contra hge
    rw [contains_of_forall_le fun change hc => (hlast change hc).trans (Nat.not_lt.mp hge),
      heven] at h
    simp at h
  have hbit := congrArg (Nat.testBit · n) hmask
  simpa [testBit_mask hn, h] using hbit

end CodePoints

theorem isUppercase_of_isLowercase {c : Char} (h : isLowercase c = true) : isUppercase c = false :=
  CodePoints.contains_eq_false_of_mask caseLimit (by decide +kernel) (by decide +kernel)
    (by decide +kernel) h

theorem isDecimal_of_isLowercase {c : Char} (h : isLowercase c = true) : isDecimal c = false :=
  CodePoints.contains_eq_false_of_mask caseLimit (by decide +kernel) (by decide +kernel)
    (by decide +kernel) h

theorem isDecimal_of_isUppercase {c : Char} (h : isUppercase c = true) : isDecimal c = false :=
  CodePoints.contains_eq_false_of_mask 0x1F18A (by decide +kernel) (by decide +kernel)
    (by decide +kernel) h

/-- **Lowercase characters are their own lowercase forms.** -/
theorem isSettled_of_isLowercase {c : Char} (h : isLowercase c = true) : IsSettled c := by
  have hlow : lowercasePoints.mask caseLimit &&& loweredMask = 0 := by decide +kernel
  refine isSettled_of_not_isUppercase (isUppercase_of_isLowercase h)
    (findSome?_lowerRuns_eq_none ?_)
  rcases Nat.lt_or_ge c.toNat caseLimit with hc | hc
  · have hbit := congrArg (Nat.testBit · c.toNat) hlow
    have hcontains : lowercasePoints.contains c.toNat = true := h
    simpa [CodePoints.testBit_mask hc, hcontains] using hbit
  · have hsize : loweredMask < 2 ^ caseLimit := by decide +kernel
    exact Nat.testBit_lt_two_pow (hsize.trans_le (Nat.pow_le_pow_right (by decide) hc))

namespace Commit

open Text

/-! ### Capitalized words -/

/-- The marks that may end a word are neither letters nor digits. -/
theorem isSettled_of_isWordEndMark {c : Char} (h : isWordEndMark c = true) :
    IsSettled c ∧ isUppercase c = false ∧ isDecimal c = false := by
  simp only [isWordEndMark, Bool.or_eq_true, beq_iff_eq] at h
  rw [isSettled_iff]
  rcases h with ((rfl | rfl) | rfl) | rfl <;> decide

/-- **A capitalized word is brought down by its first character**: the others have no case to lose. -/
theorem lower_eq_lowerFirst {word : Text} (h : isCapitalizedWord word = true) :
    lower word = lowerFirst word := by
  obtain ⟨c, t, tail, -, rfl, -, ht, htail⟩ := exists_parts_of_isCapitalizedWord h
  have hrest : ∀ d ∈ t ++ tail, IsSettled d :=
    List.forall_mem_append.mpr ⟨fun d hd => isSettled_of_isLowercase (ht d hd),
      fun d hd => (isSettled_of_isWordEndMark (htail d hd)).1⟩
  rw [lower, lowerAfter, lowerCharBetween_nil, lowerAfter_of_isSettled hrest, lowerFirst]

theorem lowerWord_eq (word : Text) :
    lowerWord word = if isCapitalizedWord word then lowerFirst word else word := by
  rw [lowerWord]
  split
  · next h => exact lower_eq_lowerFirst h
  · rfl

/-- A capitalized word has one capital. -/
theorem countP_isUppercase_of_isCapitalizedWord {word : Text} (h : isCapitalizedWord word = true) :
    word.countP isUppercase = 1 := by
  obtain ⟨c, t, tail, -, rfl, hc, ht, htail⟩ := exists_parts_of_isCapitalizedWord h
  have hrest : (t ++ tail).countP isUppercase = 0 := by
    simp only [List.countP_eq_zero, List.mem_append, Bool.not_eq_true]
    rintro d (hd | hd)
    · exact isUppercase_of_isLowercase (ht d hd)
    · exact (isSettled_of_isWordEndMark (htail d hd)).2.1
  rw [List.countP_cons_of_pos hc, hrest]

/-- A capitalized word has no digit. -/
theorem isDecimal_of_mem_of_isCapitalizedWord {word : Text} (h : isCapitalizedWord word = true)
    {c : Char} (hc : c ∈ word) : isDecimal c = false := by
  obtain ⟨first, t, tail, -, rfl, hfirst, ht, htail⟩ := exists_parts_of_isCapitalizedWord h
  rcases List.mem_cons.mp hc with rfl | hc
  · exact isDecimal_of_isUppercase hfirst
  rcases List.mem_append.mp hc with hc | hc
  · exact isDecimal_of_isLowercase (ht c hc)
  · exact (isSettled_of_isWordEndMark (htail c hc)).2.2

/-! ### The words in sentence case -/

theorem space_notMem_lowerChar {c : Char} (h : c ≠ ' ') : ' ' ∉ lowerChar c := by
  intro hmem
  rw [lowerChar_eq] at hmem
  exact h ((lowersTo_of_mem hmem).eq_of_mark (by decide) (by decide)).symm

/-- The first character of a text is that of its first word. -/
theorem pieces_lowerFirst (s : Text) :
    pieces ' ' (lowerFirst s) = (pieces ' ' s).modifyHead lowerFirst := by
  have hword : ∀ {word : Text}, ' ' ∉ word → ' ' ∉ lowerFirst word := by
    rintro (- | ⟨c, word⟩) h
    · exact h
    · rw [List.mem_cons, not_or] at h
      rw [lowerFirst, List.mem_append, not_or]
      exact ⟨space_notMem_lowerChar (Ne.symm h.1), h.2⟩
  by_cases hmem : ' ' ∈ s
  · obtain ⟨word, rest, rfl, hnot⟩ := List.eq_append_cons_of_mem hmem
    have hlower : lowerFirst (word ++ ' ' :: rest) = lowerFirst word ++ ' ' :: rest := by
      cases word with
      | nil => exact lowerFirst_eq_self (by simpa using isSettled_of_isBlank (c := ' ') (by decide))
      | cons c word => simp [lowerFirst]
    rw [hlower, pieces_append_sep (hword hnot), pieces_append_sep hnot, List.modifyHead_cons]
  · rw [pieces_of_notMem (hword hmem), pieces_of_notMem hmem, List.modifyHead_cons]

theorem pieces_lowerWords (s : Text) :
    pieces ' ' (lowerWords s) = (pieces ' ' s).map lowerWord := by
  refine pieces_join (by simpa using pieces_ne_nil ' ' s) fun word hword => ?_
  obtain ⟨w, hw, rfl⟩ := List.mem_map.mp hword
  exact space_notMem_lowerWord (sep_notMem_of_mem_pieces hw)

/-- **The words of a description in sentence case.** -/
theorem pieces_sentenceCase (s : Text) :
    pieces ' ' (sentenceCase s) =
      if isTitleCased (pieces ' ' s) then (pieces ' ' s).map lowerWord
      else (pieces ' ' s).modifyHead lowerFirst := by
  rw [sentenceCase_eq]
  split
  · exact pieces_lowerWords s
  · exact pieces_lowerFirst s

/-! ### What becomes of a word -/

/-- What becomes of the word at `i`, of all the words of a description, in sentence case. -/
structure Recased (words : List Text) (i : ℕ) (word word' : Text) : Prop where
  /-- Nothing but the first character changes. -/
  first_character : word' = word ∨ word' = lowerFirst word
  /-- It changes at the front, or in a capitalized word of a description in Title Case. -/
  reason : word' ≠ word → i = 0 ∨
    2 ≤ words.length ∧
    (∀ w ∈ words, startsAlphabetic w = true → startsUppercase w = true) ∧
    ∃ c t, dropEndWhile isWordEndMark word = c :: t ∧ isUppercase c = true ∧
      ∀ d ∈ t, isLowercase d = true
  /-- Behind the front, acronyms and identifiers stay. -/
  kept : 0 < i → (2 ≤ word.countP isUppercase ∨ ∃ c ∈ word, isDecimal c = true) → word' = word

theorem recased_self (words : List Text) (i : ℕ) (word : Text) : Recased words i word word :=
  ⟨Or.inl rfl, fun h => absurd rfl h, fun _ _ => rfl⟩

theorem recased_lowerFirst (words : List Text) (word : Text) :
    Recased words 0 word (lowerFirst word) :=
  ⟨Or.inr rfl, fun _ => Or.inl rfl, fun h => absurd h (Nat.lt_irrefl 0)⟩

theorem recased_lowerWord {words : List Text} (htitle : isTitleCased words = true) (i : ℕ)
    (word : Text) : Recased words i word (lowerWord word) := by
  rw [lowerWord_eq]
  split
  · next hcap =>
    obtain ⟨c, t, -, hdrop, -, hc, ht, -⟩ := exists_parts_of_isCapitalizedWord hcap
    simp only [isTitleCased, Bool.and_eq_true, decide_eq_true_eq, List.all_eq_true,
      List.mem_filter, and_imp] at htitle
    refine ⟨Or.inr rfl, fun _ => Or.inr ⟨htitle.1, htitle.2, c, t, hdrop, hc, ht⟩, ?_⟩
    rintro - (hcount | ⟨d, hd, hdigit⟩)
    · rw [countP_isUppercase_of_isCapitalizedWord hcap] at hcount
      omega
    · rw [isDecimal_of_mem_of_isCapitalizedWord hcap hd] at hdigit
      simp at hdigit
  · exact recased_self words i word

/-- **Sentence case only changes first letters.**  A description keeps its words, apart from the
first characters of some of them. -/
theorem sentenceCase_changes_first_letters (s : Text) :
    (pieces ' ' (sentenceCase s)).length = (pieces ' ' s).length ∧
      ∀ i word word', (pieces ' ' s)[i]? = some word →
        (pieces ' ' (sentenceCase s))[i]? = some word' → Recased (pieces ' ' s) i word word' := by
  rw [pieces_sentenceCase]
  split
  · next htitle =>
    refine ⟨List.length_map _, fun i word word' hword hword' => ?_⟩
    rw [List.getElem?_map, hword, Option.map_some, Option.some.injEq] at hword'
    exact hword' ▸ recased_lowerWord htitle i word
  · refine ⟨List.length_modifyHead, fun i word word' hword hword' => ?_⟩
    rw [List.getElem?_modifyHead, hword] at hword'
    split at hword'
    · next hi =>
      subst hi
      rw [Option.map_some, Option.some.injEq] at hword'
      exact hword' ▸ recased_lowerFirst _ word
    · exact Option.some.inj hword' ▸ recased_self _ i word

/-- An acronym stays between two words that are brought down. -/
theorem sentenceCase_changes_first_letters_acronym :
    sentenceCase "Handle API Timeout.".toList = "handle API timeout.".toList ∧
      Recased ["Handle".toList, "API".toList, "Timeout.".toList] 1 "API".toList "API".toList :=
  ⟨by decide, (sentenceCase_changes_first_letters "Handle API Timeout.".toList).2 1 _ _ (by decide)
    (by decide)⟩

end Commit

end MergeMessage
