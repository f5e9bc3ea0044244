import MergeMessage.Proofs.TicketMentions

/-!
# Removing a ticket from a subject

An id holds no blank character, and only its hyphen is no word character, so two mentions of a ticket
never overlap.  What is left of a subject when its mentions are blanked are therefore exactly the
characters outside of all mentions.  The marks between the parts of a subject belong to no mention
and bound words like the ends of a text, so its parts can be blanked one by one.

## Main definitions

* `InMention`, `StandsOutside` — a character inside of a mention, and one outside of all.
* `IsMark` — a character that parts a text for the reader of mentions.

## Main results

* `not_overlap` — mentions do not overlap.
* `mem_blankTicket_iff` — what is left when the mentions are blanked.
* `blankTicket_append_mark` — the two sides of a mark are blanked on their own.
-/

namespace MergeMessage.Commit

open Text Ticket

/-! ### What stands outside -/

/-- The character `c` between `pre` and `post`, which follow the character `before`, belongs to the
id of a mention. -/
def InMention (id : Text) (before : Option Char) (pre : Text) (c : Char) (post : Text) : Prop :=
  ∃ u a b v, pre = u ++ a ∧ id = a ++ c :: b ∧ post = b ++ v ∧
    IsWordBetween (lastRead before u) id v

/-- Somewhere in the text, the character stands outside of all mentions of the ticket. -/
def StandsOutside (ticket : Option Text) (c : Char) (s : Text) : Prop :=
  ∃ pre post, s = pre ++ c :: post ∧ ∀ id ∈ ticket, ¬InMention id none pre c post

@[simp] theorem standsOutside_none {c : Char} {s : Text} : StandsOutside none c s ↔ c ∈ s := by
  simp [StandsOutside, List.mem_iff_append]

theorem StandsOutside.mem {ticket : Option Text} {c : Char} {s : Text}
    (h : StandsOutside ticket c s) : c ∈ s := by
  obtain ⟨pre, post, rfl, -⟩ := h
  simp

/-- A character of two texts stands in the first or in the second. -/
theorem append_eq_append_cons {s t pre post : Text} {c : Char}
    (h : s ++ t = pre ++ c :: post) :
    (∃ b, s = pre ++ c :: b ∧ post = b ++ t) ∨ ∃ mid, pre = s ++ mid ∧ t = mid ++ c :: post := by
  rcases List.append_eq_append_iff.mp h with ⟨mid, hpre, ht⟩ | ⟨b, hs, hb⟩
  · exact Or.inr ⟨mid, hpre, ht⟩
  · cases b with
    | nil => exact Or.inr ⟨[], by simpa using hs.symm, by simpa using hb.symm⟩
    | cons d b =>
      obtain ⟨rfl, rfl⟩ := List.cons.inj hb
      exact Or.inl ⟨b, hs, rfl⟩

theorem inMention_append {id : Text} {before : Option Char} {pre post : Text} {c : Char}
    (front : Text) (h : InMention id (lastRead before front) pre c post) :
    InMention id before (front ++ pre) c post := by
  obtain ⟨u, a, b, v, rfl, hid, hpost, hword⟩ := h
  exact ⟨front ++ u, a, b, v, by simp, hid, hpost, by rwa [lastRead_append]⟩

/-- A space before a text makes no difference to what stands outside. -/
theorem StandsOutside.cons_space {ticket : Option Text} {c : Char} {s : Text}
    (h : StandsOutside ticket c s) (hticket : ∀ id ∈ ticket, IsTicketId id) :
    StandsOutside ticket c (' ' :: s) := by
  obtain ⟨pre, post, rfl, hout⟩ := h
  refine ⟨' ' :: pre, post, rfl, ?_⟩
  rintro t ht ⟨u, a, b, v, heq, hsplit, hpost, hword⟩
  -- the added blank is in no id, so the occurrence lies in what was there before
  cases u with
  | nil =>
    rw [List.nil_append] at heq
    have hspace : ' ' ∈ t := by rw [hsplit, ← heq]; simp
    exact absurd (isBlank_of_mem_id (hticket t ht) hspace) (by decide)
  | cons d u =>
    obtain ⟨rfl, rfl⟩ := List.cons.inj heq
    refine hout t ht ⟨u, a, b, v, rfl, hsplit, hpost, ?_, hword.stop⟩
    have hstart := hword.start
    cases u with
    | nil => exact hstart
    | cons e u =>
      rw [lastRead_cons, lastRead_cons] at hstart
      rwa [lastRead_cons]

/-- Inside of a mention there are the blank characters and the id. -/
theorem exists_append_of_not_inMention {id : Text} {before : Option Char}
    {lead tail rest pre post : Text} {c : Char} (hm : IsMention id before lead tail rest)
    (heq : lead ++ (id ++ (tail ++ rest)) = pre ++ c :: post) (hc : isBlank c = false)
    (hout : ¬InMention id before pre c post) :
    ∃ mid, pre = lead ++ (id ++ tail) ++ mid ∧ rest = mid ++ c :: post := by
  rcases append_eq_append_cons heq with ⟨b, rfl, -⟩ | ⟨pre₁, rfl, heq₁⟩
  · simp [hm.lead_blank c (by simp)] at hc
  rcases append_eq_append_cons heq₁ with ⟨b, hsplit, rfl⟩ | ⟨pre₂, rfl, heq₂⟩
  · exact absurd ⟨lead, pre₁, b, tail ++ rest, rfl, hsplit, rfl, hm.word⟩ hout
  rcases append_eq_append_cons heq₂ with ⟨b, rfl, -⟩ | ⟨pre₃, rfl, heq₃⟩
  · simp [hm.tail_blank c (by simp)] at hc
  exact ⟨pre₃, by simp, heq₃⟩

/-- A part of a mention that reaches its end and is shorter than the id is a part of the id. -/
theorem exists_id_eq_append {id : Text} {before : Option Char} {lead tail rest u more : Text}
    (hm : IsMention id before lead tail rest) (hu : lead ++ (id ++ tail) = u ++ more)
    (hne : more ≠ []) (hmore : ∀ c ∈ more, isBlank c = false) (hlen : more.length < id.length) :
    ∃ w, u = lead ++ w ∧ id = w ++ more := by
  rw [← List.append_assoc] at hu
  -- `more` has no blank and is shorter than the id, so it is the end of the id itself
  rcases List.append_eq_append_iff.mp hu with ⟨x, -, rfl⟩ | ⟨x, hx, rfl⟩
  · obtain ⟨c, t, rfl⟩ := List.exists_cons_of_ne_nil hne
    have hblank := hm.tail_blank c (by simp)
    rw [hmore c List.mem_cons_self] at hblank
    simp at hblank
  · obtain rfl : tail = [] := by
      cases tail with
      | nil => rfl
      | cons c tail =>
        have hblank := hm.tail_blank c List.mem_cons_self
        rw [hmore c (by simp)] at hblank
        simp at hblank
    rw [List.append_nil] at hlen ⊢
    rcases List.append_eq_append_iff.mp hx with ⟨w, hw, hid⟩ | ⟨w, -, rfl⟩
    · exact ⟨w, hw, hid⟩
    · rw [List.length_append] at hlen
      omega

section

variable {id : Text} (hid : IsTicketId id)

include hid

/-- The hyphen is the only character of an id that is no word character, and a digit follows. -/
theorem isDigit_of_not_isWordChar {w t : Text} {x c : Char} (hw : id = w ++ x :: c :: t)
    (hx : isWordChar x = false) : c.isDigit = true := by
  obtain ⟨project, number, -, -, hproject, hnumber, rfl⟩ := hid
  -- capitals and digits are word characters, so the character is the hyphen
  have hxp : x ∉ project := by
    intro hmem
    rw [isWordChar_of_isUpper (hproject x hmem)] at hx
    simp at hx
  have hxn : x ∉ number := by
    intro hmem
    rw [isWordChar_of_isDigit (hnumber x hmem)] at hx
    simp at hx
  rcases append_eq_append_cons hw with ⟨b, rfl, -⟩ | ⟨mid, rfl, hmid⟩
  · exact absurd (by simp) hxp
  · cases mid with
    | nil =>
      have hnum : number = c :: t := (List.cons.inj hmid).2
      exact hnumber c (by simp [hnum])
    | cons d mid =>
      have hnum : number = mid ++ x :: c :: t := (List.cons.inj hmid).2
      exact absurd (by simp [hnum]) hxn

/-- **Mentions do not overlap.**  No mention starts within another one and reaches beyond it: it
would start with the digits of the other. -/
theorem not_overlap {before : Option Char} {lead tail rest u more s v : Text}
    (hm : IsMention id before lead tail rest) (hu : lead ++ (id ++ tail) = u ++ more)
    (hmore : more ≠ []) (hs : id = more ++ s) (hne : s ≠ [])
    (hword : IsWordBetween (lastRead before u) id v) : False := by
  have hnotBlank : ∀ c ∈ more, isBlank c = false := fun c hc =>
    isBlank_of_mem_id hid (by rw [hs]; exact List.mem_append_left s hc)
  have hlen : more.length < id.length := by
    have hpos := List.length_pos_iff.mpr hne
    rw [hs, List.length_append]
    omega
  obtain ⟨w, rfl, hw⟩ := exists_id_eq_append hm hu hmore hnotBlank hlen
  rcases List.eq_nil_or_concat w with rfl | ⟨w, d, rfl⟩
  · rw [hw, List.nil_append] at hlen
    omega
  -- the second mention starts with a capital, but what follows a hyphen in an id is a digit
  obtain ⟨c, t, rfl⟩ := List.exists_cons_of_ne_nil hmore
  have hupper : c.isUpper = true := by
    obtain ⟨e, r, he, hupper⟩ := exists_upper_cons hid
    obtain rfl : e = c := (List.cons.inj (he.symm.trans hs)).1
    exact hupper
  have hd : isWordChar d = false := by
    refine hword.not_isWordChar_before hid d ?_
    rw [lastRead_append, lastRead_of_ne_nil (by simp)]
    simp
  have hdigit : c.isDigit = true := isDigit_of_not_isWordChar hid (by simpa using hw) hd
  rw [isUpper_iff] at hupper
  rw [isDigit_iff] at hdigit
  omega

/-- Past a mention, the mentions are those of what follows it. -/
theorem inMention_append_iff {before : Option Char} {lead tail rest pre post : Text} {c : Char}
    (hm : IsMention id before lead tail rest) :
    InMention id before (lead ++ (id ++ tail) ++ pre) c post ↔
      InMention id (lastRead before (lead ++ (id ++ tail))) pre c post := by
  refine ⟨?_, inMention_append _⟩
  rintro ⟨u, a, b, v, heq, hsplit, hpost, hword⟩
  rcases List.append_eq_append_iff.mp heq with ⟨w, rfl, hpre⟩ | ⟨more, hu, rfl⟩
  · exact ⟨w, a, b, v, hpre, hsplit, hpost, by rwa [← lastRead_append]⟩
  · by_cases hmore : more = []
    · subst hmore
      rw [List.append_nil] at hu
      exact ⟨[], pre, b, v, rfl, by simpa using hsplit, hpost, by rwa [hu]⟩
    · exact (not_overlap hid hm hu hmore (by simpa using hsplit) (by simp) hword).elim

/-- A mention does not reach back to a character that stays. -/
theorem InMention.tail {before : Option Char} {s pre post : Text} {c d : Char}
    (h : InMention id before pre c post) (hnone : mentionAt? id before (d :: s) = none)
    (heq : d :: s = pre ++ c :: post) :
    ∃ pre', pre = d :: pre' ∧ InMention id (some d) pre' c post := by
  obtain ⟨u, a, b, v, rfl, hsplit, rfl, hword⟩ := h
  cases u with
  | nil =>
    have hs : d :: s = id ++ v := by rw [heq, hsplit]; simp
    rw [lastRead_nil] at hword
    rw [hs, mentionAt?_id_append hid hword] at hnone
    simp at hnone
  | cons e u =>
    obtain ⟨rfl, -⟩ := List.cons.inj heq
    rw [lastRead_cons] at hword
    exact ⟨u ++ a, rfl, u, a, b, v, rfl, hsplit, rfl, hword⟩

/-- **What is left when the mentions are blanked.**  Blank characters apart, these are the
characters that stand outside of all mentions. -/
theorem mem_blankAfter_iff {c : Char} (hc : isBlank c = false) (before : Option Char) (s : Text) :
    c ∈ blankAfter id before s ↔
      ∃ pre post, s = pre ++ c :: post ∧ ¬InMention id before pre c post := by
  induction before, s using mention_induction hid with
  | nil before => simp [blankAfter_nil hid]
  | mention before lead tail rest hm ih =>
    -- the space for the mention is none of the characters in question
    have hspace : c ≠ ' ' := by
      rintro rfl
      exact absurd hc (by decide)
    rw [blankAfter_mention hid hm, List.mem_cons, or_iff_right hspace, ih]
    constructor
    · rintro ⟨pre, post, rfl, hout⟩
      refine ⟨lead ++ (id ++ tail) ++ pre, post, by simp, ?_⟩
      rwa [inMention_append_iff hid hm]
    · rintro ⟨pre, post, heq, hout⟩
      obtain ⟨mid, rfl, rfl⟩ := exists_append_of_not_inMention hm heq hc hout
      exact ⟨mid, post, rfl, by rwa [inMention_append_iff hid hm] at hout⟩
  | keep before d s hnone ih =>
    rw [blankAfter_keep hnone, List.mem_cons, ih]
    constructor
    · rintro (rfl | ⟨pre, post, rfl, hout⟩)
      -- no mention covers the character that stays, nor reaches over it
      · refine ⟨[], s, rfl, fun h => ?_⟩
        obtain ⟨pre', heq, -⟩ := h.tail hid hnone rfl
        simp at heq
      · refine ⟨d :: pre, post, rfl, fun h => hout ?_⟩
        obtain ⟨pre', heq, h'⟩ := h.tail hid hnone rfl
        rwa [(List.cons.inj heq).2]
    · rintro ⟨pre, post, heq, hout⟩
      cases pre with
      | nil => exact Or.inl (List.cons.inj heq).1.symm
      | cons e pre =>
        obtain ⟨rfl, rfl⟩ := List.cons.inj heq
        exact Or.inr ⟨pre, post, rfl, fun h => hout (inMention_append [d] h)⟩

theorem mem_blankTicket_iff {c : Char} (hc : isBlank c = false) {s : Text} :
    c ∈ blankTicket id s ↔ StandsOutside (some id) c s := by
  rw [blankTicket_eq, mem_blankAfter_iff hid hc, StandsOutside]
  simp

end

/-! ### Marks -/

/-- A character that neither belongs to mentions nor to the words next to them. -/
structure IsMark (c : Char) : Prop extends IsTicketBreak c where
  not_blank : isBlank c = false
  not_word : isWordChar c = false

theorem isMark_of_mem {c : Char} (h : c ∈ ['(', ')', '!', ':']) : IsMark c := by
  simp only [List.mem_cons, List.not_mem_nil, or_false] at h
  rcases h with rfl | rfl | rfl | rfl
  · exact ⟨⟨by decide, by decide, by decide⟩, by decide, by decide +kernel⟩
  · exact ⟨⟨by decide, by decide, by decide⟩, by decide, by decide +kernel⟩
  · exact ⟨⟨by decide, by decide, by decide⟩, by decide, by decide +kernel⟩
  · exact ⟨⟨by decide, by decide, by decide⟩, by decide, by decide +kernel⟩

section

variable {c : Char} (hc : IsMark c)

include hc

theorem head?_append_mark (before : Option Char) (s t : Text) :
    isWordBoundary before (s ++ c :: t).head? = isWordBoundary before s.head? := by
  cases s with
  | nil => simp [isWordBoundary, hc.not_word]
  | cons d s => rfl

theorem isMention_append_mark {id : Text} {before : Option Char} {lead tail rest : Text}
    (t : Text) :
    IsMention id before lead tail (rest ++ c :: t) ↔ IsMention id before lead tail rest := by
  constructor
  · rintro ⟨hlead, htail, hstop, hstart, hend⟩
    rw [stopsAt_append_cons hc.not_blank] at hstop
    rw [← List.append_assoc, head?_append_mark hc] at hend
    exact ⟨hlead, htail, hstop, hstart, hend⟩
  · rintro ⟨hlead, htail, hstop, hstart, hend⟩
    refine ⟨hlead, htail, ?_, hstart, ?_⟩
    · rwa [stopsAt_append_cons hc.not_blank]
    · rwa [← List.append_assoc, head?_append_mark hc]

end

/-- Only the kind of the character before a mention makes a difference. -/
theorem IsMention.congr {id : Text} {before before' : Option Char} {lead tail rest : Text}
    (hm : IsMention id before lead tail rest)
    (h : before.any isWordChar = before'.any isWordChar) :
    IsMention id before' lead tail rest := by
  refine ⟨hm.lead_blank, hm.tail_blank, hm.rest_stops, ⟨?_, hm.word.stop⟩⟩
  have hstart := hm.word.start
  cases lead with
  | nil =>
    rw [lastRead_nil, isWordBoundary] at hstart ⊢
    rwa [← h]
  | cons d lead => rwa [lastRead_cons] at hstart ⊢

section

variable {id : Text} (hid : IsTicketId id)

include hid

/-- What follows a mark does not belong to a mention at the front. -/
theorem mentionAt?_append_mark {c : Char} (hc : IsMark c) (before : Option Char) (s t : Text) :
    mentionAt? id before (s ++ c :: t) = mentionAt? id before s := by
  refine Option.ext fun n => ?_
  rw [mentionAt?_eq_some_iff hid, mentionAt?_eq_some_iff hid]
  constructor
  · rintro ⟨lead, tail, rest, hm, heq, rfl⟩
    have hfront : (lead ++ (id ++ tail)) ++ rest = s ++ c :: t := by
      rw [heq]
      simp
    -- a mark is none of the characters of a mention
    rcases append_eq_append_cons hfront with ⟨b, hmem, -⟩ | ⟨mid, rfl, rfl⟩
    · have hmem : c ∈ lead ++ (id ++ tail) := by rw [hmem]; simp
      rw [List.mem_append, List.mem_append] at hmem
      rcases hmem with hmem | hmem | hmem
      · exact absurd (hm.lead_blank c hmem) (by simp [hc.not_blank])
      · exact absurd hmem (notMem_of_isTicketBreak hid hc.toIsTicketBreak)
      · exact absurd (hm.tail_blank c hmem) (by simp [hc.not_blank])
    · exact ⟨lead, tail, mid, (isMention_append_mark hc t).mp hm, by simp, rfl⟩
  · rintro ⟨lead, tail, rest, hm, rfl, rfl⟩
    exact ⟨lead, tail, rest ++ c :: t, (isMention_append_mark hc t).mpr hm, by simp, rfl⟩

theorem mentionAt?_congr {before before' : Option Char}
    (h : before.any isWordChar = before'.any isWordChar) (s : Text) :
    mentionAt? id before s = mentionAt? id before' s := by
  refine Option.ext fun n => ?_
  rw [mentionAt?_eq_some_iff hid, mentionAt?_eq_some_iff hid]
  constructor
  · rintro ⟨lead, tail, rest, hm, heq, hn⟩
    exact ⟨lead, tail, rest, hm.congr h, heq, hn⟩
  · rintro ⟨lead, tail, rest, hm, heq, hn⟩
    exact ⟨lead, tail, rest, hm.congr h.symm, heq, hn⟩

theorem blankAfter_congr {before before' : Option Char}
    (h : before.any isWordChar = before'.any isWordChar) (s : Text) :
    blankAfter id before s = blankAfter id before' s := by
  have hat := mentionAt?_congr hid h s
  cases s with
  | nil => rw [blankAfter_nil hid, blankAfter_nil hid]
  | cons d s =>
    cases hd : mentionAt? id before (d :: s) with
    | none => rw [blankAfter_keep hd, blankAfter_keep (hat ▸ hd)]
    | some n =>
      obtain ⟨lead, tail, rest, hm, heq, -⟩ := (mentionAt?_eq_some_iff hid).mp hd
      have hne : lead ++ (id ++ tail) ≠ [] := by simp [isTicketId_ne_nil hid]
      rw [heq, blankAfter_mention hid hm, blankAfter_mention hid (hm.congr h),
        lastRead_of_ne_nil hne, lastRead_of_ne_nil hne]

/-- **The two sides of a mark are blanked on their own.** -/
theorem blankAfter_append_mark {c : Char} (hc : IsMark c) (before : Option Char) (s t : Text) :
    blankAfter id before (s ++ c :: t) = blankAfter id before s ++ c :: blankTicket id t := by
  induction before, s using mention_induction hid with
  | nil before =>
    have hnone : mentionAt? id before (c :: t) = none := by
      rw [← List.nil_append (c :: t), mentionAt?_append_mark hid hc, mentionAt?_nil hid]
    have hcongr : blankAfter id (some c) t = blankTicket id t :=
      blankAfter_congr hid (by simp [hc.not_word]) t
    rw [List.nil_append, blankAfter_keep hnone, blankAfter_nil hid, List.nil_append, hcongr]
  | mention before lead tail rest hm ih =>
    have hassoc : lead ++ (id ++ (tail ++ rest)) ++ c :: t =
        lead ++ (id ++ (tail ++ (rest ++ c :: t))) := by simp
    rw [hassoc, blankAfter_mention hid ((isMention_append_mark hc t).mpr hm),
      blankAfter_mention hid hm, ih, List.cons_append]
  | keep before d s hnone ih =>
    have hnone' : mentionAt? id before (d :: (s ++ c :: t)) = none := by
      rw [← List.cons_append, mentionAt?_append_mark hid hc, hnone]
    rw [List.cons_append, blankAfter_keep hnone', blankAfter_keep hnone, ih, List.cons_append]

theorem blankTicket_append_mark {c : Char} (hc : IsMark c) (s t : Text) :
    blankTicket id (s ++ c :: t) = blankTicket id s ++ c :: blankTicket id t := by
  rw [blankTicket_eq, blankAfter_append_mark hid hc, ← blankTicket_eq]

/-- Without a hyphen there is no mention. -/
theorem blankTicket_of_notMem {s : Text} (h : '-' ∉ s) : blankTicket id s = s := by
  have hafter : ∀ before, blankAfter id before s = s := by
    induction s with
    | nil => exact fun before => blankAfter_nil hid before
    | cons c s ih =>
      intro before
      have hnone : mentionAt? id before (c :: s) = none := by
        refine (mentionAt?_eq_none_iff hid).mpr fun lead tail rest _ heq => ?_
        obtain ⟨project, number, -, -, -, -, rfl⟩ := hid
        exact h (by rw [heq]; simp)
      rw [blankAfter_keep hnone, ih (fun hmem => h (List.mem_cons_of_mem c hmem))]
  exact hafter none

end

end MergeMessage.Commit
