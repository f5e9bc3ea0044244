import MergeMessage.Proofs.TicketPlaces
import MergeMessage.Proofs.TicketRemoval

/-!
# Tickets that stay

Two readers look for a ticket in a subject, and they disagree about where an id may end.  A mention
ends at word boundaries; the reader of ids goes by the characters that ids are made of.  So an id
that touches a small letter, an accented one, an underscore or a digit before it is read as an id but
is no mention.  Blanking takes the mentions away and leaves exactly these.

## Main definitions

* `StandsWhere` — a place of an id, with what stands around it.
* `IsGlued` — an id that is read somewhere but is no mention there.

## Main results

* `standsWhere_blankAfter_iff` — the places that are left when the mentions are blanked.
* `ids_collapseBlanks` — no id depends on how many blank characters there are.
* `mentions_dropTicket_iff` — a subject without the mentions of a ticket still has the ticket exactly
  if it is glued.
-/

namespace MergeMessage.Commit

open Text Ticket

/-! ### Places of an id -/

/-- In a text that follows the character `before`, the id stands somewhere between a character and a
text of the kind `P`. -/
def StandsWhere (P : Option Char → Text → Prop) (id : Text) (before : Option Char) (s : Text) :
    Prop :=
  ∃ u v, s = u ++ (id ++ v) ∧ P (lastRead before u) v

/-- Between the character `before` and the text `rest`, the id is read but is no whole word. -/
structure IsGluedBetween (id : Text) (before : Option Char) (rest : Text) : Prop
    extends IsWholeBetween before rest where
  not_word : ¬IsWordBetween before id rest

/-- Somewhere in the text, the id is read but is no whole word. -/
def IsGlued (id s : Text) : Prop := StandsWhere (IsGluedBetween id) id none s

theorem lastRead_none (s : Text) : lastRead none s = s.getLast? := by
  rw [lastRead]
  cases s.getLast? <;> rfl

/-- The reader of ids finds the id where it stands whole. -/
theorem mentions_iff_standsWhere {id s : Text} (hid : IsTicketId id) :
    mentions s id = true ↔ StandsWhere IsWholeBetween id none s := by
  simp only [mentions_iff, mem_ids_iff, hid, true_and, StandsWhere, lastRead_none]

section

variable {P : Option Char → Text → Prop} {id : Text} {before : Option Char}

/-- An id stands at the front or further on. -/
theorem standsWhere_cons_iff {c : Char} {s : Text} :
    StandsWhere P id before (c :: s) ↔
      (∃ v, c :: s = id ++ v ∧ P before v) ∨ StandsWhere P id (some c) s := by
  constructor
  · rintro ⟨u, v, heq, hP⟩
    cases u with
    | nil => exact Or.inl ⟨v, heq, hP⟩
    | cons d u =>
      obtain ⟨rfl, rfl⟩ := List.cons.inj heq
      exact Or.inr ⟨u, v, rfl, by rwa [lastRead_cons] at hP⟩
  · rintro (⟨v, heq, hP⟩ | ⟨u, v, rfl, hP⟩)
    · exact ⟨[], v, heq, hP⟩
    · exact ⟨c :: u, v, rfl, by rwa [lastRead_cons]⟩

/-- What stands before the text matters to a place at the front only. -/
theorem standsWhere_congr {before' : Option Char} (h : ∀ v, P before v ↔ P before' v) (s : Text) :
    StandsWhere P id before s ↔ StandsWhere P id before' s := by
  refine exists_congr fun u => exists_congr fun v => and_congr_right fun _ => ?_
  cases u with
  | nil => exact h v
  | cons c u => rw [lastRead_cons, lastRead_cons]

/-- An id does not stand across characters that it does not hold. -/
theorem standsWhere_append_of_notMem (hne : id ≠ []) {run : Text} (h : ∀ c ∈ run, c ∉ id)
    (s : Text) : StandsWhere P id before (run ++ s) ↔ StandsWhere P id (lastRead before run) s := by
  induction run generalizing before with
  | nil => rfl
  | cons c run ih =>
    rw [List.forall_mem_cons] at h
    have hfront : ¬∃ v, c :: (run ++ s) = id ++ v ∧ P before v := by
      rintro ⟨v, heq, -⟩
      obtain ⟨d, t, rfl⟩ := List.exists_cons_of_ne_nil hne
      exact h.1 (by simp [(List.cons.inj heq).1])
    rw [List.cons_append, standsWhere_cons_iff, or_iff_right hfront, ih h.2, lastRead_cons]

end

section

variable {id : Text} (hid : IsTicketId id)

include hid

theorem not_standsWhere_nil {P : Option Char → Text → Prop} (before : Option Char) :
    ¬StandsWhere P id before [] := by
  rintro ⟨u, v, heq, -⟩
  simp [isTicketId_ne_nil hid] at heq

theorem notMem_id_of_isBlank {c : Char} (h : isBlank c = true) : c ∉ id :=
  notMem_of_isTicketBreak hid (isTicketBreak_of_isBlank h)

/-- **Ids do not overlap.**  Within an id, and up to its end, the id does not stand again. -/
theorem standsWhere_id_append {P : Option Char → Text → Prop}
    (hP : ∀ before v, P before v → IsWholeBetween before v) {before : Option Char} {rest : Text}
    (hfront : ¬P before rest) :
    StandsWhere P id before (id ++ rest) ↔ StandsWhere P id id.getLast? rest := by
  have hne := isTicketId_ne_nil hid
  constructor
  · rintro ⟨u, v, heq, hv⟩
    rcases List.append_eq_append_iff.mp heq with ⟨x, rfl, rfl⟩ | ⟨x, hu, hx⟩
    · exact ⟨x, v, rfl, by rwa [lastRead_append, lastRead_of_ne_nil hne] at hv⟩
    cases x with
    | nil =>
      obtain rfl : id = u := by simpa using hu
      exact ⟨[], v, by simpa using hx.symm, by rwa [lastRead_of_ne_nil hne] at hv⟩
    | cons c x =>
      exfalso
      rcases List.eq_nil_or_concat u with rfl | ⟨w, d, rfl⟩
      · -- the id at the front, which is excluded
        obtain rfl : id = c :: x := hu
        exact hfront (List.append_cancel_left hx ▸ hv)
      · -- the id further on would have a capital behind a character of another kind
        obtain ⟨e, t, he, hupper⟩ := exists_upper_cons hid
        obtain rfl : e = c := by
          rw [he] at hx
          exact (List.cons.inj hx).1
        have hlast : d ∈ (w.concat d).getLast? := by simp
        have hd : d ∈ lastRead before (w.concat d) := by
          rwa [lastRead_of_ne_nil (by simp)]
        have hnot := not_isUpper_of_isTicketId (hu ▸ hid) hlast ((hP _ _ hv).start d hd)
        simp [hupper] at hnot
  · rintro ⟨u, v, rfl, hv⟩
    exact ⟨id ++ u, v, by simp, by rwa [lastRead_append, lastRead_of_ne_nil hne]⟩

/-- Past a mention, the id is glued where it is glued in what follows. -/
theorem standsWhere_mention_iff {before : Option Char} {lead tail rest : Text}
    (hm : IsMention id before lead tail rest) :
    StandsWhere (IsGluedBetween id) id before (lead ++ (id ++ (tail ++ rest))) ↔
      StandsWhere (IsGluedBetween id) id (lastRead before (lead ++ (id ++ tail))) rest := by
  have hne := isTicketId_ne_nil hid
  have hword : ¬IsGluedBetween id (lastRead before lead) (tail ++ rest) :=
    fun h => h.not_word hm.word
  rw [standsWhere_append_of_notMem hne fun c hc => notMem_id_of_isBlank hid (hm.lead_blank c hc),
    standsWhere_id_append hid (fun _ _ h => h.toIsWholeBetween) hword,
    standsWhere_append_of_notMem hne fun c hc => notMem_id_of_isBlank hid (hm.tail_blank c hc),
    lastRead_append, lastRead_append, lastRead_of_ne_nil hne]

/-! ### Blanking -/

/-- What is left of a text without blank characters stood there before. -/
theorem exists_append_of_blankAfter {before : Option Char} {s w v : Text}
    (hw : ∀ c ∈ w, isBlank c = false) (h : blankAfter id before s = w ++ v) :
    ∃ v', s = w ++ v' ∧ v = blankAfter id (lastRead before w) v' := by
  induction w generalizing before s with
  | nil => exact ⟨s, rfl, h.symm⟩
  | cons c w ih =>
    rw [List.forall_mem_cons] at hw
    cases s with
    | nil => simp [blankAfter_nil hid] at h
    | cons d s =>
      cases hat : mentionAt? id before (d :: s) with
      | none =>
        rw [blankAfter_keep hat] at h
        obtain ⟨rfl, htail⟩ := List.cons.inj h
        obtain ⟨v', rfl, hv⟩ := ih hw.2 htail
        exact ⟨v', rfl, by rwa [lastRead_cons]⟩
      | some n =>
        -- a mention would have left a space
        obtain ⟨lead, tail, rest, hm, heq, -⟩ := (mentionAt?_eq_some_iff hid).mp hat
        rw [heq, blankAfter_mention hid hm] at h
        obtain ⟨rfl, -⟩ := List.cons.inj h
        exact absurd hw.1 (by decide)

/-- No mention starts within an id: behind the hyphen, where a word might start, is a digit. -/
theorem mentionAt?_within {a b : Text} {c : Char} (h : id = a ++ c :: b) (hne : a ≠ []) (s : Text) :
    mentionAt? id a.getLast? (c :: s) = none := by
  refine (mentionAt?_eq_none_iff hid).mpr fun lead tail rest hm heq => ?_
  obtain ⟨e, t, he, hupper⟩ := exists_upper_cons hid
  obtain rfl := hm.lead_eq_nil (isBlank_of_mem_id hid (by rw [h]; simp)) heq
  obtain rfl : c = e := by
    rw [he] at heq
    exact (List.cons.inj heq).1
  obtain ⟨w, d, rfl⟩ := (List.eq_nil_or_concat a).resolve_left hne
  rw [List.concat_eq_append] at h hm
  have hd : isWordChar d = false := by
    refine hm.word.not_isWordChar_before hid d ?_
    rw [lastRead_nil, List.getLast?_concat]
    rfl
  have hdigit := isDigit_iff.mp (isDigit_of_not_isWordChar hid (by simpa using h) hd)
  have hcapital := isUpper_iff.mp hupper
  omega

/-- An id that is no mention stays as a whole. -/
theorem blankAfter_id_append {before : Option Char} {v : Text}
    (h : mentionAt? id before (id ++ v) = none) :
    blankAfter id before (id ++ v) = id ++ blankAfter id id.getLast? v := by
  -- on what is left of the id, once its first character was kept
  have hwithin : ∀ b a : Text, id = a ++ b → a ≠ [] →
      blankAfter id a.getLast? (b ++ v) = b ++ blankAfter id id.getLast? v := by
    intro b
    induction b with
    | nil =>
      rintro a rfl -
      rw [List.append_nil, List.nil_append, List.nil_append]
    | cons c b ih =>
      intro a ha hne
      have hstep := ih (a ++ [c]) (by simpa using ha) (by simp)
      rw [List.getLast?_concat] at hstep
      rw [List.cons_append, blankAfter_keep (mentionAt?_within hid ha hne _), hstep,
        List.cons_append]
  obtain ⟨c, t, hc, -⟩ := exists_upper_cons hid
  have hcons : id ++ v = c :: (t ++ v) := by rw [hc, List.cons_append]
  have hstep := hwithin t [c] hc (by simp)
  rw [List.getLast?_singleton] at hstep
  rw [hcons] at h
  rw [hcons, blankAfter_keep h, hstep, ← List.cons_append, ← hc]

theorem stopsAt_isDigit_blankAfter_iff {before : Option Char} {s : Text} :
    StopsAt Char.isDigit (blankAfter id before s) ↔ StopsAt Char.isDigit s := by
  cases s with
  | nil => rw [blankAfter_nil hid]
  | cons c s =>
    cases hat : mentionAt? id before (c :: s) with
    | none => rw [blankAfter_keep hat, stopsAt_cons, stopsAt_cons]
    | some n =>
      -- neither a blank character nor the capital of an id is a digit
      obtain ⟨lead, tail, rest, hm, heq, -⟩ := (mentionAt?_eq_some_iff hid).mp hat
      have hlead : StopsAt Char.isDigit lead := by
        intro d hd
        exact (isTicketBreak_of_isBlank (hm.lead_blank d (List.mem_of_mem_head? hd))).not_digit
      rw [heq, blankAfter_mention hid hm]
      exact iff_of_true (by rw [stopsAt_cons]; decide)
        (stopsAt_append hlead (stopsAt_isDigit_id_append hid _))

/-- An id at the front stays if it is no mention, and no other comes to stand there. -/
theorem blankAfter_eq_id_append_iff {before : Option Char} {s : Text}
    (h : mentionAt? id before s = none) :
    (∃ v, blankAfter id before s = id ++ v ∧ IsWholeBetween before v) ↔
      ∃ v, s = id ++ v ∧ IsGluedBetween id before v := by
  constructor
  · rintro ⟨v, heq, hwhole⟩
    obtain ⟨v', rfl, rfl⟩ := exists_append_of_blankAfter hid (fun c => isBlank_of_mem_id hid) heq
    refine ⟨v', rfl, ⟨hwhole.start, (stopsAt_isDigit_blankAfter_iff hid).mp hwhole.stop⟩, ?_⟩
    intro hword
    rw [mentionAt?_id_append hid hword] at h
    simp at h
  · rintro ⟨v, rfl, hglued⟩
    exact ⟨_, blankAfter_id_append hid h, hglued.start,
      (stopsAt_isDigit_blankAfter_iff hid).mpr hglued.stop⟩

/-- A mention does not end with a capital. -/
theorem not_isUpper_lastRead_mention {before : Option Char} {lead tail rest : Text}
    (hm : IsMention id before lead tail rest) :
    ∀ c ∈ lastRead before (lead ++ (id ++ tail)), c.isUpper = false := by
  intro c hc
  rw [lastRead_append, lastRead_append] at hc
  rcases List.eq_nil_or_concat tail with rfl | ⟨t, d, rfl⟩
  · rw [lastRead_nil, lastRead_of_ne_nil (isTicketId_ne_nil hid)] at hc
    exact not_isUpper_of_mem_getLast? hid hc
  · rw [lastRead_of_ne_nil (by simp)] at hc
    exact (isTicketBreak_of_isBlank (hm.tail_blank c (List.mem_of_mem_getLast? hc))).not_upper

/-- **What is left when the mentions are blanked.**  The places where the id is read are those where
it was read without being a mention. -/
theorem standsWhere_blankAfter_iff (before : Option Char) (s : Text) :
    StandsWhere IsWholeBetween id before (blankAfter id before s) ↔
      StandsWhere (IsGluedBetween id) id before s := by
  induction before, s using mention_induction hid with
  | nil before =>
    rw [blankAfter_nil hid]
    exact iff_of_false (not_standsWhere_nil hid before) (not_standsWhere_nil hid before)
  | mention before lead tail rest hm ih =>
    have hspace : ∀ c ∈ [' '], c ∉ id := by
      simpa using notMem_id_of_isBlank hid (c := ' ') (by decide)
    -- neither the space nor what stands before the rest is a capital
    have hbefore : ∀ v, IsWholeBetween (lastRead before (lead ++ (id ++ tail))) v ↔
        IsWholeBetween (some ' ') v := fun v =>
      ⟨fun h => ⟨by simp, h.stop⟩, fun h => ⟨not_isUpper_lastRead_mention hid hm, h.stop⟩⟩
    rw [blankAfter_mention hid hm, standsWhere_mention_iff hid hm, ← ih, ← List.singleton_append,
      standsWhere_append_of_notMem (isTicketId_ne_nil hid) hspace, standsWhere_congr hbefore]
    rfl
  | keep before c s hnone ih =>
    have hfront := blankAfter_eq_id_append_iff hid hnone
    rw [blankAfter_keep hnone] at hfront ⊢
    rw [standsWhere_cons_iff, standsWhere_cons_iff, hfront, ih]

theorem mentions_blankTicket_iff {s : Text} :
    mentions (blankTicket id s) id = true ↔ IsGlued id s := by
  rw [mentions_iff_standsWhere hid, blankTicket_eq]
  exact standsWhere_blankAfter_iff hid none s

end

/-! ### Collapsing -/

/-- Blank characters before a text make no difference to its ids, and neither do those that are
collapsed in it. -/
theorem ids_collapseBlanksFrom (s : Text) :
    (∀ w, ids (w ++ collapseBlanksFrom false s) = ids (w ++ s)) ∧
      ids (collapseBlanksFrom true s) = ids s := by
  have hspace : IsTicketBreak ' ' := isTicketBreak_of_isBlank (by decide)
  -- in a run nothing is kept to stand before; outside of one, any text may stand there
  induction s with
  | nil => exact ⟨fun w => rfl, rfl⟩
  | cons c s ih =>
    obtain ⟨hkept, hrun⟩ := ih
    have hkept' : ∀ w, ids (w ++ c :: collapseBlanksFrom false s) = ids (w ++ c :: s) := by
      intro w
      rw [List.append_cons, hkept, ← List.append_cons]
    cases hc : isBlank c with
    | false =>
      simp only [collapseBlanksFrom, hc, Bool.false_eq_true, if_false]
      exact ⟨hkept', by simpa using hkept' []⟩
    | true =>
      have hbreak := isTicketBreak_of_isBlank hc
      simp only [collapseBlanksFrom, hc, Bool.false_eq_true, if_true, if_false]
      refine ⟨fun w => ?_, by rw [hrun, ids_break_cons hbreak]⟩
      split
      · rw [ids_append_break hspace, hrun, ids_append_break hbreak]
      · exact hkept' w

/-- No id depends on how many blank characters there are. -/
theorem ids_collapseBlanks (s : Text) : ids (collapseBlanks s) = ids s :=
  (ids_collapseBlanksFrom s).1 []

/-- **A subject without the mentions of a ticket** still has the ticket exactly if it is glued to a
word somewhere. -/
theorem mentions_dropTicket_iff {id : Text} (hid : IsTicketId id) {s : Text} :
    mentions (dropTicket id s) id = true ↔ IsGlued id s := by
  rw [← mentions_blankTicket_iff hid, mentions_iff, mentions_iff, dropTicket, ids_collapseBlanks,
    ids_trim]

end MergeMessage.Commit
