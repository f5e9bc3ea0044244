import MergeMessage.Proofs.SettledDescriptions
import MergeMessage.Proofs.TicketWords

/-!
# Subjects without a ticket

A subject that the ticket was taken out of holds the id as a whole word nowhere, and no two blank
characters follow each other.  The repairs that come before a header is read keep both, and so does
the tidying of its description: the words change, but not the blank characters between them, and no
id comes about.  So there is nothing to take out the second time but blank characters at the end.

## Main definitions

* `SameGaps` — texts with the same blank characters, between words that may differ.
* `IsFree` — a text that the ticket was taken out of.

## Main results

* `sameGaps_sentenceCase` — sentence case leaves the blank characters alone.
* `IsFree.dropTicket_eq_trim` — what taking the ticket out a second time does.
* `IsFree.tidyDescription` — a tidied description is free of the ticket if the description was.
-/

namespace MergeMessage.Commit

open Text Ticket Subject

/-! ### Gaps between words -/

/-- The texts have the same blank characters, and between these words that may differ. -/
inductive SameGaps : Text → Text → Prop
  /-- Texts that are at their end. -/
  | nil : SameGaps [] []
  /-- The same blank character in both texts. -/
  | blank {c : Char} {s t : Text} (hc : isBlank c = true) (hs : SameGaps s t) :
      SameGaps (c :: s) (c :: t)
  /-- A character that is not blank, and what stands for it. -/
  | word {c : Char} {form s t : Text} (hc : isBlank c = false) (hne : form ≠ [])
      (hform : ∀ x ∈ form, isBlank x = false) (hs : SameGaps s t) : SameGaps (c :: s) (form ++ t)

namespace SameGaps

variable {s t s' t' : Text}

theorem refl (s : Text) : SameGaps s s := by
  induction s with
  | nil => exact .nil
  | cons c s ih =>
    cases hc : isBlank c with
    | true => exact .blank hc ih
    | false => exact .word hc (List.cons_ne_nil c []) (by simpa using hc) ih

theorem append (h : SameGaps s t) (h' : SameGaps s' t') : SameGaps (s ++ s') (t ++ t') := by
  induction h with
  | nil => exact h'
  | blank hc _ ih => exact .blank hc ih
  | word hc hne hform _ ih =>
    rw [List.append_assoc]
    exact .word hc hne hform ih

theorem countP_eq (h : SameGaps s t) : s.countP isBlank = t.countP isBlank := by
  induction h with
  | nil => rfl
  | blank hc _ ih => rw [List.countP_cons, List.countP_cons, ih]
  | @word c form s t hc _ hform _ ih =>
    have hzero : form.countP isBlank = 0 := List.countP_eq_zero.mpr fun x hx => by simp [hform x hx]
    rw [List.countP_cons_of_neg (by simp [hc]), List.countP_append, hzero, Nat.zero_add, ih]

theorem stopsAt (h : SameGaps s t) (hs : StopsAt isBlank s) : StopsAt isBlank t := by
  cases h with
  | nil => exact hs
  | blank hc => simp [hc] at hs
  | word _ hne hform =>
    obtain ⟨x, form, rfl⟩ := List.exists_cons_of_ne_nil hne
    exact (stopsAt_cons _ _ _).mpr (hform x List.mem_cons_self)

theorem isSparse (h : SameGaps s t) (hs : IsSparse s) : IsSparse t := by
  induction h with
  | nil => exact hs
  | blank hc h ih =>
    obtain ⟨hstop, hs⟩ := isSparse_cons_iff.mp hs
    exact isSparse_cons_iff.mpr ⟨fun hc => h.stopsAt (hstop hc), ih hs⟩
  | @word c form s t hc hne hform h ih =>
    have ht := ih (isSparse_cons_iff.mp hs).2
    clear hne
    induction form with
    | nil => exact ht
    | cons x form ihform =>
      rw [List.forall_mem_cons] at hform
      exact isSparse_cons_iff.mpr ⟨fun hx => by simp [hform.1] at hx, ihform hform.2⟩

end SameGaps

/-- Blank characters have no case, and no other character becomes blank. -/
theorem sameGaps_lowerAfter (before s : Text) : SameGaps s (lowerAfter before s) := by
  induction s generalizing before with
  | nil => exact .nil
  | cons c s ih =>
    rw [lowerAfter]
    cases hc : isBlank c with
    | true =>
      rw [isSettled_of_isBlank hc]
      exact .blank hc (ih _)
    | false =>
      exact .word hc (lowerCharBetween_ne_nil _ _ _)
        (fun x hx => (lowersTo_of_mem hx).not_blank hc) (ih _)

theorem sameGaps_lowerWord (word : Text) : SameGaps word (lowerWord word) := by
  rw [lowerWord]
  split
  · exact sameGaps_lowerAfter [] word
  · exact .refl word

theorem sameGaps_lowerWords (s : Text) : SameGaps s (lowerWords s) := by
  induction s using pieces_induction ' ' with
  | last s hs =>
    rw [lowerWords_of_notMem hs]
    exact sameGaps_lowerWord s
  | cut word s hword ih =>
    rw [lowerWords_append hword]
    exact (sameGaps_lowerWord word).append (.blank isBlank_space ih)

theorem sameGaps_lowerFirst (s : Text) : SameGaps s (lowerFirst s) := by
  cases s with
  | nil => exact .nil
  | cons c s =>
    have hfirst := (sameGaps_lowerAfter [] [c]).append (.refl s)
    rwa [lowerAfter, lowerAfter, List.append_nil, ← lowerChar_eq] at hfirst

/-- **Sentence case leaves the blank characters alone.** -/
theorem sameGaps_sentenceCase (s : Text) : SameGaps s (sentenceCase s) := by
  rw [sentenceCase_eq]
  split
  · exact sameGaps_lowerWords s
  · exact sameGaps_lowerFirst s

/-- A tidied description has as many blank characters as before. -/
theorem countP_isBlank_tidyDescription (s : Text) :
    (tidyDescription s).countP isBlank = s.countP isBlank := by
  obtain ⟨tail, htail, heq⟩ := exists_dropEndWhile_append isFinalMark (sentenceCase s)
  have hzero : tail.countP isBlank = 0 :=
    List.countP_eq_zero.mpr fun c hc => by simp [not_isBlank_of_isFinalMark (htail c hc)]
  rw [(sameGaps_sentenceCase s).countP_eq, heq, List.countP_append, hzero]
  rfl

theorem stopsAt_tidyDescription {s : Text} (hs : StopsAt isBlank s) :
    StopsAt isBlank (tidyDescription s) := by
  obtain ⟨tail, -, heq⟩ := exists_dropEndWhile_append isFinalMark (sentenceCase s)
  have hstop := (sameGaps_sentenceCase s).stopsAt hs
  rw [heq] at hstop
  exact stopsAt_of_append hstop

/-! ### Words in sentence case -/

section

variable {id : Text} (hid : IsTicketId id)

include hid

theorem hasWord_of_lowerWord {word : Text} (h : HasWord id none (lowerWord word)) :
    HasWord id none word := by
  rw [lowerWord] at h
  split at h
  · exact absurd h (not_hasWord_of_forall_not_upper hid (fun c => not_isUpper_of_mem_lowerAfter) none)
  · exact h

theorem hasWord_of_lowerWords {s : Text} (h : HasWord id none (lowerWords s)) :
    HasWord id none s := by
  have hspace := isSeparator_of_isBlank isBlank_space
  induction s using pieces_induction ' ' with
  | last s hs =>
    rw [lowerWords_of_notMem hs] at h
    exact hasWord_of_lowerWord hid h
  | cut word s hword ih =>
    rw [lowerWords_append hword, hasWord_append_cons_iff hid hspace] at h
    rw [hasWord_append_cons_iff hid hspace]
    exact h.imp (hasWord_of_lowerWord hid) ih

/-- An id starts with a capital, and so behind characters that are none. -/
theorem exists_append_of_forall_not_upper {form s u v : Text}
    (hform : ∀ c ∈ form, c.isUpper = false) (heq : form ++ s = u ++ (id ++ v)) :
    ∃ mid, u = form ++ mid ∧ s = mid ++ (id ++ v) := by
  rcases List.append_eq_append_iff.mp heq with ⟨mid, hu, hs⟩ | ⟨more, hmore, hs⟩
  · exact ⟨mid, hu, hs⟩
  · cases more with
    | nil => exact ⟨[], by simpa using hmore.symm, by simpa using hs.symm⟩
    | cons x more =>
      obtain ⟨e, r, he, hupper⟩ := exists_upper_cons hid
      rw [he] at hs
      obtain ⟨rfl, -⟩ := List.cons.inj hs
      simp [hform e (by simp [hmore])] at hupper

/-- The lowercase form of the first character holds no part of the id, and ends as the character
does. -/
theorem hasWord_of_lowerFirst {s : Text} (h : HasWord id none (lowerFirst s)) :
    HasWord id none s := by
  cases s with
  | nil => exact h
  | cons c s =>
    obtain ⟨u, v, heq, hword⟩ := h
    rw [lowerFirst, lowerChar_eq] at heq
    -- an id starts with a capital, so no part of it stands in the lowered character
    obtain ⟨mid, rfl, hs⟩ := exists_append_of_forall_not_upper hid
      (fun x => not_isUpper_of_mem_lowerCharBetween) heq
    refine ⟨c :: mid, v, by rw [hs]; rfl, (isWordBetween_iff hid).mpr ⟨?_, ?_⟩⟩
    · intro d hd
      -- only right behind the first character may the lowering change what the id touches
      cases mid with
      | nil =>
        obtain rfl : c = d := Option.some.inj hd
        rw [Bool.eq_false_iff]
        intro hc
        rw [List.append_nil, lastRead_of_ne_nil (lowerCharBetween_ne_nil _ _ _)] at hword
        obtain ⟨x, hx⟩ := Option.ne_none_iff_exists'.mp
          (mt List.getLast?_eq_none_iff.mp (lowerCharBetween_ne_nil [] c []))
        have hnot := hword.not_isWordChar_before hid x hx
        simp [isWordChar_of_mem_lowerCharBetween (List.mem_of_mem_getLast? hx) hc] at hnot
      | cons x mid =>
        rw [lastRead_append, lastRead_cons] at hword
        rw [lastRead_cons, lastRead_cons] at hd
        exact hword.not_isWordChar_before hid d hd
    · exact hword.not_isWordChar_after hid

/-- **No whole word comes about** when a description is tidied. -/
theorem hasWord_of_tidyDescription {s : Text} (h : HasWord id none (tidyDescription s)) :
    HasWord id none s := by
  obtain ⟨tail, htail, heq⟩ := exists_dropEndWhile_append isFinalMark (sentenceCase s)
  have hsentence : HasWord id none (sentenceCase s) := by
    rw [heq, hasWord_append_right_iff hid fun c hc => isSeparator_of_isFinalMark (htail c hc)]
    exact h
  rw [sentenceCase_eq] at hsentence
  split at hsentence
  · exact hasWord_of_lowerWords hid hsentence
  · exact hasWord_of_lowerFirst hid hsentence

end

/-! ### Texts without the ticket -/

/-- The ticket was taken out of the text: it is a whole word nowhere, and no two blank characters
follow each other. -/
structure IsFree (id s : Text) : Prop where
  no_word : ¬HasWord id none s
  sparse : IsSparse s

theorem isFree_dropTicket {id : Text} (hid : IsTicketId id) (s : Text) :
    IsFree id (dropTicket id s) :=
  ⟨not_hasWord_dropTicket hid s, isSparse_collapseBlanks _⟩

theorem trim_dropTicket (id s : Text) : (dropTicket id s).trim = dropTicket id s := by
  rw [dropTicket_eq, ← trim_collapseBlanks, trim_trim]

namespace IsFree

variable {id : Text} (hid : IsTicketId id)

include hid

/-- Nothing but blank characters at the ends is taken out of a text without the ticket. -/
theorem dropTicket_eq_trim {s : Text} (h : IsFree id s) : dropTicket id s = s.trim := by
  obtain ⟨lead, tail, -, -, hs⟩ := exists_trim_append s
  have hsparse := h.sparse
  rw [hs] at hsparse
  rw [dropTicket, blankTicket_eq, blankAfter_eq_self hid h.no_word,
    collapseBlanks_of_isSparse hsparse.of_append.2.of_append.1]

theorem closeScopeGap {s : Text} (h : IsFree id s) : IsFree id (closeScopeGap s) := by
  rcases closeScopeGap_eq_or s with heq | ⟨kind, blanks, rest, hblank, hs, heq⟩
  · rwa [heq]
  have hopen : IsMark '(' := isMark_of_mem (by simp)
  obtain ⟨hword, hsparse⟩ := h
  rw [hs] at hword hsparse
  rw [heq]
  constructor
  · rw [← List.append_assoc, hasWord_append_cons_iff hid hopen.isSeparator,
      hasWord_append_right_iff hid fun c hc => isSeparator_of_isBlank (hblank c hc)] at hword
    rwa [hasWord_append_cons_iff hid hopen.isSeparator]
  · have hkind := hsparse.of_append.1
    have hrest := hsparse.of_append.2.of_append.2
    refine List.isChain_append.mpr ⟨hkind, hrest, fun c _ d hd _ => ?_⟩
    obtain rfl : '(' = d := Option.some.inj hd
    exact hopen.not_blank

theorem insertColon {s : Text} (h : IsFree id s) : IsFree id (insertColon s) := by
  rcases insertColon_eq_or s with heq | ⟨front, blanks, rest, hne, hblank, hs, heq⟩
  · rwa [heq]
  have hcolon : IsMark ':' := isMark_of_mem (by simp)
  have hspace := isSeparator_of_isBlank isBlank_space
  obtain ⟨c, t, rfl⟩ := List.exists_cons_of_ne_nil hne
  rw [List.forall_mem_cons] at hblank
  obtain ⟨hword, hsparse⟩ := h
  rw [hs] at hword hsparse
  rw [heq]
  constructor
  · rw [List.cons_append, hasWord_append_cons_iff hid (isSeparator_of_isBlank hblank.1),
      hasWord_append_left_iff hid fun d hd => isSeparator_of_isBlank (hblank.2 d hd)] at hword
    rwa [hasWord_append_cons_iff hid hcolon.isSeparator, hasWord_cons_iff hid hspace]
  · -- what follows a blank character is none
    have hfront := hsparse.of_append.1
    have hrest := hsparse.of_append.2.of_append.2
    have hstop : StopsAt isBlank rest := by
      obtain ⟨-, -, hlast⟩ := List.isChain_append.mp hsparse.of_append.2
      obtain ⟨d, hd⟩ := Option.ne_none_iff_exists'.mp (mt List.getLast?_eq_none_iff.mp hne)
      have hdblank : isBlank d = true := by
        rcases List.mem_cons.mp (List.mem_of_mem_getLast? hd) with rfl | hd
        · exact hblank.1
        · exact hblank.2 d hd
      exact fun e he => hlast d hd e he hdblank
    refine List.isChain_append.mpr ⟨hfront, ?_, fun c _ d hd _ => ?_⟩
    · exact isSparse_cons_iff.mpr ⟨fun hc => by simp [hcolon.not_blank] at hc,
        isSparse_cons_iff.mpr ⟨fun _ => hstop, hrest⟩⟩
    · obtain rfl : ':' = d := Option.some.inj hd
      exact hcolon.not_blank

/-- The description of a header is free of the ticket if the subject is. -/
theorem description {s : Text} {h : Header} (hs : looseHeader? s = some h) (hfree : IsFree id s) :
    IsFree id h.description := by
  have hcolon : IsMark ':' := isMark_of_mem (by simp)
  obtain ⟨-, -, -, tail, hdesc, rfl⟩ := looseHeader?_eq_some_iff.mp hs
  obtain ⟨hword, hsparse⟩ := hfree
  have hblank : ∀ c ∈ tail.takeWhile isBlank, isBlank c = true := fun c hc =>
    List.mem_takeWhile_imp hc
  rw [← List.append_assoc, ← List.append_assoc] at hword hsparse
  rw [← List.takeWhile_append_dropWhile (p := isBlank) (l := tail), ← hdesc] at hword hsparse
  constructor
  · rw [hasWord_append_cons_iff hid hcolon.isSeparator, not_or,
      hasWord_append_left_iff hid fun c hc => isSeparator_of_isBlank (hblank c hc)] at hword
    exact hword.2
  · exact (isSparse_cons_iff.mp hsparse.of_append.2).2.of_append.2

/-- **A tidied description is free of the ticket** if the description was. -/
theorem tidyDescription {s : Text} (h : IsFree id s) : IsFree id (tidyDescription s) := by
  obtain ⟨tail, -, heq⟩ := exists_dropEndWhile_append isFinalMark (sentenceCase s)
  have hsparse := (sameGaps_sentenceCase s).isSparse h.sparse
  rw [heq] at hsparse
  exact ⟨fun hword => h.no_word (hasWord_of_tidyDescription hid hword), hsparse.of_append.1⟩

end IsFree

end MergeMessage.Commit
