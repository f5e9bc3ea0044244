import MergeMessage.Proofs.BlankRuns
import MergeMessage.Proofs.InventedTickets

/-!
# Where a ticket stood

A mention takes the blank characters around it along and leaves a space.  Which run of blank
characters it came from is therefore lost once the subject is tightened: the two sides of a space can
be blanked on their own, and so a ticket between two spaces leaves what a single space leaves,
wherever it stood and whatever else the subject holds.  All other ids stay.

## Main results

* `similar_blankAfter_append` — the two sides of a space are blanked on their own.
* `similar_blankTicket_insert` — a ticket between two spaces is blanked like one space.
* `ids_dropTicket_filter` — a subject without the mentions of a ticket has all its other ids.
* `ticket_leaves_no_trace` — both for the subject line of a reply.
-/

namespace MergeMessage.Commit

open Text Ticket

theorem not_isWordChar_of_isBlank {c : Char} (h : isBlank c = true) : isWordChar c = false := by
  have hcodes : ∀ n ∈ blankCodes, wordMarkPoints.contains n = false := by decide +kernel
  have halpha : isAlphabetic c = false := by
    rw [Bool.eq_false_iff]
    intro halpha
    simp [isBlank_of_isAlphabetic halpha] at h
  rw [isWordChar, halpha, Bool.false_and, Bool.false_or, hcodes _ (toNat_mem_blankCodes h)]

section

variable {id : Text} (hid : IsTicketId id)

include hid

/-! ### Blank characters before a mention -/

/-- A blank character stays, or it is taken along by a mention that would be one without it. -/
theorem blankAfter_blank_cons {c : Char} (hc : isBlank c = true) (before : Option Char) (s : Text) :
    blankAfter id before (c :: s) = c :: blankTicket id s ∨
      blankAfter id before (c :: s) = blankTicket id s ∧ ∃ t, blankTicket id s = ' ' :: t := by
  have hnone : (some c).any isWordChar = (none : Option Char).any isWordChar := by
    simp [not_isWordChar_of_isBlank hc]
  cases hat : mentionAt? id before (c :: s) with
  | none =>
    rw [blankAfter_keep hat, blankTicket_eq, blankAfter_congr hid hnone]
    exact Or.inl rfl
  | some n =>
    obtain ⟨lead, tail, rest, hm, heq, -⟩ := (mentionAt?_eq_some_iff hid).mp hat
    cases lead with
    | nil =>
      -- an id does not start blank
      have hstop := stopsAt_id_append hid (tail ++ rest)
      rw [List.nil_append] at heq
      rw [← heq, stopsAt_cons] at hstop
      simp [hc] at hstop
    | cons d lead =>
      rw [List.cons_append] at heq
      obtain ⟨rfl, hs⟩ := List.cons.inj heq
      have hm' : IsMention id (some c) lead tail rest := by
        refine ⟨fun e he => hm.lead_blank e (List.mem_cons_of_mem c he), hm.tail_blank,
          hm.rest_stops, ?_⟩
        have hword := hm.word
        rwa [lastRead_cons] at hword
      have hlast : lastRead before (c :: lead ++ (id ++ tail)) =
          lastRead none (lead ++ (id ++ tail)) := by
        have hne : lead ++ (id ++ tail) ≠ [] := by simp [isTicketId_ne_nil hid]
        rw [List.cons_append, lastRead_cons, lastRead_of_ne_nil hne, lastRead_of_ne_nil hne]
      have hmention := blankAfter_mention hid (hm'.congr hnone)
      rw [← hs] at hmention
      refine Or.inr ⟨?_, _, hmention⟩
      rw [heq, ← List.cons_append, blankAfter_mention hid hm, hlast, blankTicket_eq, hmention]

/-- A blank character is as good as one that stays. -/
theorem similar_blankAfter_blank_cons {c : Char} (hc : isBlank c = true) (before : Option Char)
    (s : Text) : Similar (blankAfter id before (c :: s)) (c :: blankTicket id s) := by
  rcases blankAfter_blank_cons hid hc before s with heq | ⟨heq, t, ht⟩
  · rw [heq]
    exact .refl _
  · rw [heq, ht]
    have hgap : IsGap [c, ' '] := ⟨by simp [hc, isBlank_space], by simp⟩
    exact (Similar.gap hgap t).symm

/-- Behind a space, blank characters make no difference. -/
theorem similar_space_blankTicket {run : Text} (hrun : ∀ c ∈ run, isBlank c = true) (s : Text) :
    Similar (' ' :: blankTicket id (run ++ s)) (' ' :: blankTicket id s) := by
  induction run with
  | nil => exact .refl _
  | cons c run ih =>
    rw [List.forall_mem_cons] at hrun
    have hgap : IsGap [' ', c] := ⟨by simp [hrun.1, isBlank_space], by simp⟩
    have hkeep := (similar_blankAfter_blank_cons hid hrun.1 none (run ++ s)).cons ' '
    exact (hkeep.trans (.gap hgap _)).trans (ih hrun.2)

/-! ### The two sides of a space -/

/-- An id ends with a digit, which is part of words. -/
theorem isWordChar_getLast? : ∃ c, id.getLast? = some c ∧ isWordChar c = true := by
  obtain ⟨project, number, -, hn, -, hnumber, rfl⟩ := hid
  obtain ⟨t, d, rfl⟩ := (List.eq_nil_or_concat number).resolve_left hn
  refine ⟨d, ?_, isWordChar_of_isDigit (hnumber d (by simp))⟩
  rw [List.append_cons, List.concat_eq_append, ← List.append_assoc, List.getLast?_concat]

/-- **A whole word** is one that no word character touches. -/
theorem isWordBetween_iff {before : Option Char} {rest : Text} :
    IsWordBetween before id rest ↔
      (∀ c ∈ before, isWordChar c = false) ∧ ∀ c ∈ rest.head?, isWordChar c = false := by
  constructor
  · exact fun h => ⟨h.not_isWordChar_before hid, h.not_isWordChar_after hid⟩
  · rintro ⟨hbefore, hrest⟩
    constructor
    · obtain ⟨d, s, hs, hd⟩ := exists_upper_cons hid
      rw [hs, List.head?_cons]
      cases before with
      | none => simp [isWordBoundary, isWordChar_of_isUpper hd]
      | some c => simp [isWordBoundary, isWordChar_of_isUpper hd, hbefore c rfl]
    · obtain ⟨d, hlast, hd⟩ := isWordChar_getLast? hid
      rw [hlast]
      cases hrest' : rest.head? with
      | none => simp [isWordBoundary, hd]
      | some c => simp [isWordBoundary, hd, hrest c hrest']

omit hid in
/-- A character that is part of no word ends a word like the end of a text. -/
theorem isWordBetween_append_cons {c : Char} (hc : isWordChar c = false) {before : Option Char}
    {s t : Text} : IsWordBetween before id (s ++ c :: t) ↔ IsWordBetween before id s := by
  have hhead : isWordBoundary id.getLast? (s ++ c :: t).head? =
      isWordBoundary id.getLast? s.head? := by
    cases s with
    | nil => simp [isWordBoundary, hc]
    | cons d s => rfl
  exact ⟨fun h => ⟨h.start, hhead ▸ h.stop⟩, fun h => ⟨h.start, hhead.symm ▸ h.stop⟩⟩

omit hid in
/-- A mention ends as it does without a space further on. -/
theorem IsMention.append_space {before : Option Char} {lead tail rest : Text}
    (hm : IsMention id before lead tail rest) (hne : rest ≠ []) (t : Text) :
    IsMention id before lead tail (rest ++ ' ' :: t) := by
  obtain ⟨c, rest, rfl⟩ := List.exists_cons_of_ne_nil hne
  refine ⟨hm.lead_blank, hm.tail_blank, ?_, ?_⟩
  · have hstop := hm.rest_stops
    rw [stopsAt_cons] at hstop
    exact (stopsAt_cons _ _ _).mpr hstop
  · rw [← List.append_assoc, isWordBetween_append_cons (not_isWordChar_of_isBlank isBlank_space)]
    exact hm.word

/-- What follows a space does not belong to an id at the front. -/
theorem mentionAt?_append_space {before : Option Char} {c : Char} {s : Text}
    (hc : isBlank c = false) (hnone : mentionAt? id before (c :: s) = none) (t : Text) :
    mentionAt? id before (c :: (s ++ ' ' :: t)) = none := by
  refine (mentionAt?_eq_none_iff hid).mpr fun lead tail rest hm heq => ?_
  obtain rfl := hm.lead_eq_nil hc heq
  have hword := hm.word
  rw [List.nil_append, ← List.cons_append] at heq
  rw [lastRead_nil] at hword
  -- the id ends before the space, for it holds none
  obtain ⟨v, hs, hv⟩ : ∃ v, c :: s = id ++ v ∧ tail ++ rest = v ++ ' ' :: t := by
    rcases append_eq_append_cons heq.symm with ⟨b, hmem, -⟩ | ⟨v, hs, hv⟩
    · exact absurd (by rw [hmem]; simp) (notMem_id_of_isBlank hid isBlank_space)
    · exact ⟨v, hs, hv⟩
  rw [hv, isWordBetween_append_cons (not_isWordChar_of_isBlank isBlank_space)] at hword
  rw [hs, mentionAt?_id_append hid hword] at hnone
  simp at hnone

/-- A mention at the end of a text takes a space along, and the blank characters behind it. -/
theorem similar_blankAfter_mention {before : Option Char} {lead tail : Text}
    (hm : IsMention id before lead tail []) (t : Text) :
    Similar (blankAfter id before (lead ++ (id ++ (tail ++ ' ' :: t))))
      (' ' :: blankTicket id t) := by
  have hrun : ∀ c ∈ t.takeWhile isBlank, isBlank c = true := fun c hc => List.mem_takeWhile_imp hc
  have hsplit : tail ++ ' ' :: t = (tail ++ ' ' :: t.takeWhile isBlank) ++ t.dropWhile isBlank := by
    rw [List.append_assoc, List.cons_append, List.takeWhile_append_dropWhile]
  have hm' : IsMention id before lead (tail ++ ' ' :: t.takeWhile isBlank) (t.dropWhile isBlank) := by
    refine ⟨hm.lead_blank, ?_, stopsAt_dropWhile _ _, ?_⟩
    · exact List.forall_mem_append.mpr
        ⟨hm.tail_blank, List.forall_mem_cons.mpr ⟨isBlank_space, hrun⟩⟩
    · rw [← hsplit, isWordBetween_append_cons (not_isWordChar_of_isBlank isBlank_space)]
      simpa using hm.word
  -- before the rest stands one of the blank characters
  have hlast : (lastRead before (lead ++ (id ++ (tail ++ ' ' :: t.takeWhile isBlank)))).any
      isWordChar = (none : Option Char).any isWordChar := by
    have hblank : ∀ c ∈ lastRead (some ' ') (t.takeWhile isBlank), isBlank c = true := by
      intro c hc
      rw [lastRead] at hc
      split at hc
      · next d hd => exact Option.some.inj hc ▸ hrun d (List.mem_of_mem_getLast? hd)
      · exact Option.some.inj hc ▸ isBlank_space
    rw [lastRead_append, lastRead_append, lastRead_append, lastRead_cons]
    cases hlast : lastRead (some ' ') (t.takeWhile isBlank) with
    | none => rfl
    | some c => simp [not_isWordChar_of_isBlank (hblank c hlast)]
  rw [hsplit, blankAfter_mention hid hm', blankAfter_congr hid hlast, ← blankTicket_eq]
  conv_rhs => rw [← List.takeWhile_append_dropWhile (p := isBlank) (l := t)]
  exact (similar_space_blankTicket hid hrun _).symm

/-- **The two sides of a space are blanked on their own.** -/
theorem similar_blankAfter_append (before : Option Char) (s t : Text) :
    Similar (blankAfter id before (s ++ ' ' :: t))
      (blankAfter id before s ++ ' ' :: blankTicket id t) := by
  induction before, s using mention_induction hid with
  | nil before =>
    rw [blankAfter_nil hid]
    exact similar_blankAfter_blank_cons hid isBlank_space before t
  | mention before lead tail rest hm ih =>
    rw [blankAfter_mention hid hm]
    -- behind the last mention its blank and the space in between make a gap
    by_cases hne : rest = []
    · subst hne
      have hgap : IsGap [' ', ' '] := ⟨by simp [isBlank_space], by simp⟩
      have hassoc : lead ++ (id ++ (tail ++ [])) ++ ' ' :: t =
          lead ++ (id ++ (tail ++ ' ' :: t)) := by simp
      rw [hassoc, blankAfter_nil hid]
      exact (similar_blankAfter_mention hid hm t).trans (Similar.gap hgap _).symm
    · have hassoc : lead ++ (id ++ (tail ++ rest)) ++ ' ' :: t =
          lead ++ (id ++ (tail ++ (rest ++ ' ' :: t))) := by simp
      rw [hassoc, blankAfter_mention hid (hm.append_space hne t)]
      exact ih.cons ' '
  | keep before c s hnone ih =>
    rw [blankAfter_keep hnone]
    cases hc : isBlank c with
    | false =>
      rw [List.cons_append, blankAfter_keep (mentionAt?_append_space hid hc hnone t)]
      exact ih.cons c
    | true =>
      -- a blank character ends words as the start of a text does
      have hcongr : (some c).any isWordChar = (none : Option Char).any isWordChar := by
        simp [not_isWordChar_of_isBlank hc]
      rw [blankAfter_congr hid hcongr, ← blankTicket_eq] at ih
      exact (similar_blankAfter_blank_cons hid hc before _).trans (ih.cons c)

theorem blankTicket_id : blankTicket id id = [' '] := by
  have hm : IsMention id none [] [] [] :=
    ⟨by simp, by simp, stopsAt_nil _, (isWordBetween_iff hid).mpr ⟨by simp, by simp⟩⟩
  have hblank := blankAfter_mention hid hm
  rwa [blankAfter_nil hid, List.nil_append, List.nil_append, List.append_nil] at hblank

/-- **A ticket between two spaces is blanked like one space.** -/
theorem similar_blankTicket_insert (s t : Text) :
    Similar (blankTicket id (s ++ ' ' :: (id ++ ' ' :: t))) (blankTicket id (s ++ ' ' :: t)) := by
  have hgap : IsGap [' ', ' ', ' '] := ⟨by simp [isBlank_space], by simp⟩
  have hright : Similar (blankTicket id (id ++ ' ' :: t)) (' ' :: ' ' :: blankTicket id t) := by
    have happend := similar_blankAfter_append hid none id t
    rwa [← blankTicket_eq, ← blankTicket_eq, blankTicket_id hid] at happend
  have hsplit := similar_blankAfter_append hid none s
  refine (hsplit (id ++ ' ' :: t)).trans (.trans (.append _ ?_) (hsplit t).symm)
  exact (hright.cons ' ').trans (.gap hgap (blankTicket id t))

/-! ### Other ids -/

/-- Blanking takes no other id away: a mention stands for the ticket, and what stays behind it is read
as it was before. -/
theorem ids_append_blankAfter_filter (before : Option Char) (s : Text) :
    ∀ w, (∀ c ∈ w.getLast?, before = some c) →
      (ids (w ++ blankAfter id before s)).filter (· ≠ id) = (ids (w ++ s)).filter (· ≠ id) := by
  -- for every text that was kept before, since an id may reach over from there
  induction before, s using mention_induction hid with
  | nil before =>
    intro w hw
    rw [blankAfter_nil hid]
  | mention before lead tail rest hm ih =>
    intro w hw
    have hspace : IsTicketBreak ' ' := isTicketBreak_of_isBlank isBlank_space
    have hrest := ih [] (by simp)
    rw [List.nil_append, List.nil_append] at hrest
    rw [blankAfter_mention hid hm, ids_append_break hspace, ids_append_mention hid hw hm,
      List.filter_append, List.filter_append, hrest, List.filter_cons_of_neg (by simp)]
  | keep before c s hnone ih =>
    intro w hw
    have hstep := ih (w ++ [c]) (by simp)
    rwa [List.append_assoc, List.append_assoc, List.singleton_append, List.singleton_append,
      ← blankAfter_keep hnone] at hstep

/-- **A subject without the mentions of a ticket has all its other ids**, in their order. -/
theorem ids_dropTicket_filter (s : Text) :
    (ids (dropTicket id s)).filter (· ≠ id) = (ids s).filter (· ≠ id) := by
  rw [dropTicket, ids_collapseBlanks, ids_trim, blankTicket_eq]
  exact ids_append_blankAfter_filter hid none s [] (by simp)

/-! ### Subjects -/

/-- **A ticket leaves no trace.**  Between two spaces, the ticket can stand anywhere in a subject and
makes no difference; when it is taken out, all other ids stay in their order. -/
theorem ticket_leaves_no_trace :
    (∀ u v, tidySubject (some id) (u ++ ' ' :: (id ++ ' ' :: v)) =
      tidySubject (some id) (u ++ ' ' :: v)) ∧
    ∀ line, (ids (dropTicket id line)).filter (· ≠ id) = (ids line).filter (· ≠ id) := by
  refine ⟨fun u v => ?_, ids_dropTicket_filter hid⟩
  have hdrop : dropTicket id (u ++ ' ' :: (id ++ ' ' :: v)) = dropTicket id (u ++ ' ' :: v) :=
    (similar_blankTicket_insert hid u v).tighten_eq
  rw [tidySubject, tidySubject, hdrop]

end

/-- A ticket next to a tab and to another mention, before ids that it is a part of. -/
theorem ticket_leaves_no_trace_crowded :
    IsTicketId "ECHO-1".toList ∧
      tidySubject (some "ECHO-1".toList) "fix:\t ECHO-1 ECHO-1, ECHO-12 and XECHO-1".toList =
        tidySubject (some "ECHO-1".toList) "fix:\t ECHO-1, ECHO-12 and XECHO-1".toList ∧
      (ids (dropTicket "ECHO-1".toList "fix:\t ECHO-1, ECHO-12 and XECHO-1".toList)).filter
        (· ≠ "ECHO-1".toList) = ["ECHO-12".toList, "XECHO-1".toList] := by
  have hid : IsTicketId "ECHO-1".toList := isTicketId_of_firstId? (s := "ECHO-1".toList) (by decide)
  obtain ⟨hinsert, hothers⟩ := ticket_leaves_no_trace hid
  exact ⟨hid, hinsert "fix:\t".toList "ECHO-1, ECHO-12 and XECHO-1".toList,
    (hothers _).trans (by decide)⟩

end MergeMessage.Commit
