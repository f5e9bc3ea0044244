import MergeMessage.Proofs.TicketSeams

/-!
# Titles of linked tickets

The title of a linked ticket is the text of its link without the id, which is taken out wherever its
characters stand, also where they are a part of a longer id.  So `ECHO-12` loses `ECHO-1` and is no id
any more, and what closes up around a part that is taken out may even be an id, the same or another
one.  As long as no longer id holds the one of the link, the title has all the other ids of the text in
their order and not this one.

## Main definitions

* `StartsNowhere` — no occurrence of a text starts in another one.
* `BringsNoId` — what erasing an id can at most leave.

## Main results

* `erase_append` — erasing goes past a text in which no occurrence starts.
* `bringsNoId` — erasing an id brings no id in.
* `ids_erase_iff` — when erasing an id takes this id away and nothing else.
* `title_mentions_iff` — the mentions in the title of a linked ticket.
-/

namespace MergeMessage

namespace Text

/-! ### Erasing -/

section

variable {pat : Text}

theorem eraseAfter_eq (skip : ℕ) (s : Text) : eraseAfter pat skip s = erase (s.drop skip) pat := by
  induction skip generalizing s with
  | zero => rfl
  | succ skip ih =>
    cases s with
    | nil => rfl
    | cons c s => rw [eraseAfter, ih, List.drop_succ_cons]

theorem erase_cons_of_not_isPrefix {c : Char} {s : Text} (h : ¬pat <+: c :: s) :
    erase (c :: s) pat = c :: erase s pat := by
  have hnot : List.isPrefixOf pat (c :: s) = false :=
    Bool.eq_false_iff.mpr (mt List.isPrefixOf_iff_prefix.mp h)
  rw [erase, eraseAfter, if_pos (by simp [hnot])]
  rfl

/-- An occurrence at the front is taken out. -/
theorem erase_append_left (hne : pat ≠ []) (s : Text) : erase (pat ++ s) pat = erase s pat := by
  obtain ⟨c, t, rfl⟩ := List.exists_cons_of_ne_nil hne
  have hpre : c :: t <+: c :: (t ++ s) := ⟨s, rfl⟩
  rw [List.cons_append, erase, eraseAfter, if_neg (by simp), eraseAfter_eq, List.length_cons,
    Nat.add_sub_cancel, List.drop_left]

/-- No occurrence of `pat` starts in `s` when `t` follows it. -/
def StartsNowhere (pat s t : Text) : Prop := ∀ u, u <:+ s → u ≠ [] → ¬pat <+: u ++ t

/-- Erasing goes past a text in which no occurrence starts. -/
theorem erase_append {s t : Text} (h : StartsNowhere pat s t) :
    erase (s ++ t) pat = s ++ erase t pat := by
  induction s with
  | nil => rfl
  | cons c s ih =>
    have hfront : ¬pat <+: c :: (s ++ t) := h (c :: s) List.suffix_rfl (by simp)
    rw [List.cons_append, erase_cons_of_not_isPrefix hfront,
      ih fun u hu => h u (hu.trans (List.suffix_cons c s)), List.cons_append]

theorem StartsNowhere.not_isInfix {s t : Text} (h : StartsNowhere pat s t) (hne : pat ≠ []) :
    ¬pat <:+: s := by
  rintro ⟨u, v, rfl⟩
  refine h (pat ++ v) ⟨u, by simp⟩ (by simp [hne]) ?_
  rw [List.append_assoc]
  exact List.prefix_append _ _

theorem startsNowhere_of_not_isInfix {s : Text} (h : ¬pat <:+: s) : StartsNowhere pat s [] := by
  intro u hu _ hpre
  rw [List.append_nil] at hpre
  exact h (hpre.isInfix.trans hu.isInfix)

theorem erase_eq_self {s : Text} (h : ¬pat <:+: s) : erase s pat = s := by
  have herase := erase_append (startsNowhere_of_not_isInfix h)
  rwa [List.append_nil, show erase [] pat = [] from rfl, List.append_nil] at herase

/-- The first occurrence in a text, if there is one. -/
theorem isInfix_cases (hne : pat ≠ []) (s : Text) :
    ¬pat <:+: s ∨ ∃ front back, s = front ++ (pat ++ back) ∧
      StartsNowhere pat front (pat ++ back) := by
  induction s with
  | nil => exact Or.inl fun h => hne (List.infix_nil.mp h)
  | cons c s ih =>
    by_cases hpre : pat <+: c :: s
    · obtain ⟨back, hback⟩ := hpre
      exact Or.inr ⟨[], back, hback.symm, fun u hu hu' => absurd (List.suffix_nil.mp hu) hu'⟩
    · refine ih.imp ?_ ?_
      · rintro hnot hsub
        exact (List.infix_cons_iff.mp hsub).elim hpre hnot
      · rintro ⟨front, back, rfl, hstart⟩
        refine ⟨c :: front, back, rfl, fun u hu hu' => ?_⟩
        rcases List.suffix_cons_iff.mp hu with rfl | hu
        · exact hpre
        · exact hstart u hu hu'

end

end Text

namespace Ticket

open Text

/-! ### Erasing an id -/

/-- A text in which the characters of an id stand nowhere does not mention it. -/
theorem filter_ids_of_not_isInfix {s id : Text} (h : ¬id <:+: s) :
    (ids s).filter (· ≠ id) = ids s := by
  refine List.filter_eq_self.mpr fun other hother => ?_
  obtain ⟨-, u, v, rfl, -⟩ := mem_ids_iff.mp hother
  rw [decide_eq_true_eq]
  rintro rfl
  exact h ⟨u, v, by simp⟩

/-- The longer id that is read where `id` stands between two texts, if one is. -/
def longerAt (s id t : Text) : List Text := [readAt s id t].filter (· ≠ id)

theorem longerAt_of_ne {s id t : Text} (h : readAt s id t ≠ id) :
    longerAt s id t = [readAt s id t] := by
  simp [longerAt, h]

theorem longerAt_of_eq {s id t : Text} (h : readAt s id t = id) : longerAt s id t = [] := by
  simp [longerAt, h]

/-- With capitals before it or digits behind it, a longer id is read. -/
theorem length_longerAt {s id t : Text}
    (h : s.rtakeWhile Char.isUpper ≠ [] ∨ t.takeWhile Char.isDigit ≠ []) :
    (longerAt s id t).length = 1 := by
  rw [longerAt_of_ne, List.length_singleton]
  intro heq
  obtain ⟨hstart, hstop⟩ := readAt_eq_iff.mp heq
  rcases h with h | h
  · exact h (rtakeWhile_eq_nil_iff.mpr hstart)
  · exact h (takeWhile_eq_nil_iff.mpr hstop)

/-- What erasing an id leaves has at most as many ids as others were there before, and fewer if digits
come to the front that did not stand there. -/
structure BringsNoId (id s : Text) : Prop where
  /-- There are no more ids than others before. -/
  le : (ids (erase s id)).length ≤ ((ids s).filter (· ≠ id)).length
  /-- New digits at the front are those of an id that is lost. -/
  lt : (erase s id).takeWhile Char.isDigit ≠ s.takeWhile Char.isDigit →
    (ids (erase s id)).length < ((ids s).filter (· ≠ id)).length

/-- What is lost in the rest behind a place of an id: digits that come to the front of the rest are lost
there, or they are those of a longer id at the place. -/
theorem BringsNoId.length_lt {id front back : Text} (h : BringsNoId id back)
    (hdigits : (erase back id).takeWhile Char.isDigit ≠ []) : (ids (erase back id)).length <
      (longerAt front id back).length + ((ids back).filter (· ≠ id)).length := by
  by_cases hnil : back.takeWhile Char.isDigit = []
  · have hfewer := h.lt (by rwa [hnil])
    omega
  · have hle := h.le
    rw [length_longerAt (Or.inr hnil)]
    omega

section

variable {id : Text} (hid : IsTicketId id)

include hid

/-- In an id, what follows a character that is no capital, but not the capitals, is a digit. -/
theorem isDigit_of_isTicketId {u v : Text} {c : Char} (h : id = u ++ c :: v) (hne : u ≠ [])
    (hlast : ∀ d ∈ u.getLast?, d.isUpper = false) : c.isDigit = true := by
  obtain ⟨project, number, -, -, hproject, hnumber, rfl⟩ := hid
  obtain ⟨d, hd⟩ := Option.ne_none_iff_exists'.mp (mt List.getLast?_eq_none_iff.mp hne)
  have hnot : d ∉ project := fun hmem => by simpa [hlast d hd] using hproject d hmem
  rcases List.append_eq_append_iff.mp h with ⟨a, rfl, ha⟩ | ⟨a, rfl, -⟩
  · cases a with
    | nil => exact absurd (List.mem_of_mem_getLast? (by simpa using hd)) hnot
    | cons e a =>
      obtain ⟨-, rfl⟩ := List.cons.inj ha
      exact hnumber c (by simp)
  · exact absurd (List.mem_append_left a (List.mem_of_mem_getLast? hd)) hnot

/-- Between two texts of which neither continues an id of the other, no occurrence starts across. -/
theorem startsNowhere_of_apart {s t : Text} (hs : ¬id <:+: s)
    (hlast : ∀ c ∈ s.getLast?, c.isUpper = false) (ht : StopsAt Char.isDigit t) :
    StartsNowhere id s t := by
  rintro u hu hne ⟨rest, hrest⟩
  rcases List.append_eq_append_iff.mp hrest with ⟨a, rfl, -⟩ | ⟨a, ha, rfl⟩
  · exact hs ((List.prefix_append id a).isInfix.trans hu.isInfix)
  cases a with
  | nil =>
    obtain rfl : id = u := by simpa using ha
    exact hs hu.isInfix
  | cons c a =>
    obtain ⟨front, rfl⟩ := hu
    rw [List.getLast?_append_of_ne_nil _ hne] at hlast
    have hdigit := isDigit_of_isTicketId hid ha hne hlast
    rw [List.cons_append, stopsAt_cons, hdigit] at ht
    simp at ht

/-- The other ids around the first place of an id. -/
theorem filter_ids_append {front back : Text} (h : ¬id <:+: front) :
    (ids (front ++ (id ++ back))).filter (· ≠ id) = ids front ++
      (longerAt front id back ++ (ids back).filter (· ≠ id)) := by
  rw [ids_append_id_append hid, List.filter_append, filter_ids_of_not_isInfix h, longerAt,
    ← List.filter_append, List.singleton_append]

/-- An id has no digits at its front, and it starts before those behind it. -/
theorem takeWhile_isDigit_append_id (front back : Text) :
    (front ++ (id ++ back)).takeWhile Char.isDigit = front.takeWhile Char.isDigit := by
  rw [List.takeWhile_append, takeWhile_eq_nil_iff.mpr (stopsAt_isDigit_id_append hid back)]
  split
  · next hall => rw [List.append_nil, (List.takeWhile_prefix _).eq_of_length hall]
  · rfl

/-- If erasing brings no id into the rest behind the first place, it brings none in. -/
theorem bringsNoId_append {front back : Text} (hstart : StartsNowhere id front (id ++ back))
    (h : BringsNoId id back) : BringsNoId id (front ++ (id ++ back)) := by
  have hne := isTicketId_ne_nil hid
  have hle := h.le
  constructor
  · rw [erase_append hstart, erase_append_left hne,
      filter_ids_append hid (hstart.not_isInfix hne), List.length_append, List.length_append]
    rcases ids_append_seam front (erase back id) with hseam | ⟨other, hother, heq⟩
    · omega
    rw [heq, List.length_append, List.length_cons]
    cases hother with
    | hyphen number hupper =>
      rw [length_longerAt (Or.inl hupper)]
      omega
    | number project hproject hlast hdigits =>
      have hfewer : _ < (longerAt front id back).length + _ := h.length_lt hdigits
      omega
  · intro hfront
    rw [erase_append hstart, erase_append_left hne] at hfront ⊢
    rw [takeWhile_isDigit_append_id hid, List.takeWhile_append] at hfront
    rw [filter_ids_append hid (hstart.not_isInfix hne)]
    split at hfront
    · next hall =>
      -- only digits stand before the first place
      have hall := List.takeWhile_eq_self_iff.mp ((List.takeWhile_prefix _).eq_of_length hall)
      have hnot : ∀ c ∈ front, c.isUpper = false := fun c hc => not_isUpper_of_isDigit (hall c hc)
      rw [List.takeWhile_eq_self_iff.mpr hall] at hfront
      rw [ids_append_of_forall_not_upper hnot, ids_of_forall_not_upper hnot, List.nil_append,
        List.length_append]
      exact h.length_lt fun hnil => hfront (by rw [hnil, List.append_nil])
    · exact absurd rfl hfront

/-- **Erasing an id brings no id in.** -/
theorem bringsNoId (s : Text) : BringsNoId id s := by
  have hne := isTicketId_ne_nil hid
  obtain ⟨n, hn⟩ : ∃ n, s.length = n := ⟨_, rfl⟩
  -- on the length, along the places of the id
  induction n using Nat.strong_induction_on generalizing s with
  | _ n ih =>
    rcases isInfix_cases hne s with hnot | ⟨front, back, rfl, hstart⟩
    · constructor
      · rw [erase_eq_self hnot, filter_ids_of_not_isInfix hnot]
      · rw [erase_eq_self hnot]
        exact fun h => absurd rfl h
    · have hpos := List.length_pos_iff.mpr hne
      simp only [List.length_append] at hn
      exact bringsNoId_append hid hstart (ih back.length (by omega) back rfl)

/-- Where a longer id stands first, erasing does not leave the others as they were. -/
theorem ids_erase_ne {front back : Text} (hstart : StartsNowhere id front (id ++ back))
    (hlonger : readAt front id back ≠ id) : ids (erase (front ++ (id ++ back)) id) ≠
      (ids (front ++ (id ++ back))).filter (· ≠ id) := by
  have hne := isTicketId_ne_nil hid
  obtain ⟨hle, hlt⟩ := bringsNoId hid back
  rw [erase_append hstart, erase_append_left hne, filter_ids_append hid (hstart.not_isInfix hne),
    longerAt_of_ne hlonger, List.singleton_append]
  intro heq
  have hlen := congrArg List.length heq
  rw [List.length_append, List.length_cons] at hlen
  -- so an id comes about at the seam, in the place of the longer one
  rcases ids_append_seam front (erase back id) with hseam | ⟨other, hother, hids⟩
  · omega
  rw [hids] at heq
  obtain ⟨hsame, hrest⟩ := List.cons.inj (List.append_cancel_left heq)
  obtain ⟨project, number, hp, hn, hproject, hnumber, rfl⟩ := hid
  cases hother with
  | hyphen n h =>
    obtain ⟨c, project, rfl⟩ := List.exists_cons_of_ne_nil hp
    have hdash : '-' = c := (List.cons.inj (List.append_cancel_left hsame)).1
    exact absurd (hproject c (by simp)) (by rw [← hdash]; decide)
  | number p hp' hlast h =>
    -- the number is that of the digits behind the place, but the longer id has more of them
    have hdigits : (erase back (project ++ '-' :: number)).takeWhile Char.isDigit =
        back.takeWhile Char.isDigit := by
      by_contra hdiff
      have hfewer := hlt hdiff
      rw [hrest] at hfewer
      exact lt_irrefl _ hfewer
    have hnil : front.rtakeWhile Char.isUpper = [] := by
      rw [rtakeWhile_eq_nil_iff, hlast]
      rintro c ⟨⟩
      decide
    have hdash : ∀ t : Text, StopsAt Char.isUpper ('-' :: t) := fun t => by
      rw [stopsAt_cons]; decide
    have hdrop := congrArg (List.dropWhile Char.isUpper) hsame
    rw [hdigits, readAt, hnil, List.nil_append, List.append_assoc, List.cons_append,
      dropWhile_append_stop hp' (hdash _), dropWhile_append_stop hproject (hdash _)] at hdrop
    have hcount := congrArg List.length hdrop
    simp only [List.length_cons, List.length_append] at hcount
    have hpos := List.length_pos_iff.mpr hn
    omega

/-- **When erasing an id takes this id away and nothing else.**  The ids that are left are the others
in their order exactly if no longer id holds the one that is erased. -/
theorem ids_erase_iff (s : Text) : ids (erase s id) = (ids s).filter (· ≠ id) ↔
    ∀ other ∈ ids s, id <:+: other → other = id := by
  have hne := isTicketId_ne_nil hid
  obtain ⟨n, hn⟩ : ∃ n, s.length = n := ⟨_, rfl⟩
  -- on the length: a place where the id stands whole is cut out of the text
  induction n using Nat.strong_induction_on generalizing s with
  | _ n ih =>
    rcases isInfix_cases hne s with hnot | ⟨front, back, rfl, hstart⟩
    · rw [erase_eq_self hnot, filter_ids_of_not_isInfix hnot]
      refine iff_of_true rfl fun other hother hsub => absurd ?_ hnot
      obtain ⟨-, u, v, rfl, -⟩ := mem_ids_iff.mp hother
      exact hsub.trans ⟨u, v, by simp⟩
    have hfront := hstart.not_isInfix hne
    by_cases hwhole : readAt front id back = id
    · obtain ⟨hlast, hstop⟩ := readAt_eq_iff.mp hwhole
      have hpos := List.length_pos_iff.mpr hne
      have hshort := ih (front ++ back).length (by simp only [← hn, List.length_append]; omega)
        (front ++ back) rfl
      rw [erase_append (startsNowhere_of_apart hid hfront hlast hstop),
        ids_append_of_apart hlast hstop, List.filter_append,
        filter_ids_of_not_isInfix hfront] at hshort
      rw [erase_append hstart, erase_append_left hne, filter_ids_append hid hfront,
        longerAt_of_eq hwhole, List.nil_append, ids_append_id_append hid, hwhole]
      exact hshort.trans (by simp [or_imp, forall_and])
    · refine iff_of_false (ids_erase_ne hid hstart hwhole) fun h => hwhole (h _ ?_ ?_)
      · rw [ids_append_id_append hid]
        simp
      · exact ⟨front.rtakeWhile Char.isUpper, back.takeWhile Char.isDigit, by simp [readAt]⟩

end

/-! ### Links -/

/-- **The mentions in the title of a linked ticket.**  The id is the first one in the address of the
link.  The title mentions the other ids of the link's text in their order, and not this one, exactly
if no longer id in the text holds it; so only then is it the text without its own id and nothing
else. -/
theorem title_mentions_iff {address label : Text} {ticket : Ticket}
    (h : ofLink? address label = some ticket) :
    firstId? address = some ticket.id ∧
    (ids ticket.title = (ids label).filter (· ≠ ticket.id) ↔
      ∀ other ∈ ids label, ticket.id <:+: other → other = ticket.id) ∧
    ((∀ other ∈ ids label, ticket.id <:+: other → other = ticket.id) →
      mentions ticket.title ticket.id = false ∧
        ∀ other, other ≠ ticket.id → mentions label other = true →
          mentions ticket.title other = true) := by
  obtain ⟨id, hid, rfl⟩ := Option.map_eq_some_iff.mp h
  have hids : ids (erase label id).trim = (ids label).filter (· ≠ id) ↔
      ∀ other ∈ ids label, id <:+: other → other = id := by
    rw [ids_trim]
    exact ids_erase_iff (isTicketId_of_firstId? hid) label
  refine ⟨hid, hids, fun hwhole => ?_⟩
  have hkept := hids.mpr hwhole
  refine ⟨?_, fun other hne hother => ?_⟩
  · rw [Bool.eq_false_iff, ne_eq, mentions_iff, hkept]
    simp
  · rw [mentions_iff] at hother ⊢
    rw [hkept]
    simpa [hne] using hother

/-- A longer id is no id any more in the title. -/
theorem title_mentions_shortened :
    ofLink? "https://acme.example/browse/ECHO-1".toList "ECHO-12 Login".toList =
        some ⟨"ECHO-1".toList, "2 Login".toList⟩ ∧
      ids "2 Login".toList ≠ (ids "ECHO-12 Login".toList).filter (· ≠ "ECHO-1".toList) := by
  have hlink : ofLink? "https://acme.example/browse/ECHO-1".toList "ECHO-12 Login".toList =
      some ⟨"ECHO-1".toList, "2 Login".toList⟩ := by decide
  refine ⟨hlink, fun heq => ?_⟩
  have hsame := (title_mentions_iff hlink).2.1.mp heq "ECHO-12".toList (by decide) (by decide)
  exact absurd hsame (by decide)

/-- What closes up may be the id itself. -/
example : ofLink? "/ECHO-1".toList "ECHECHO-1O-1 Login".toList =
    some ⟨"ECHO-1".toList, "ECHO-1 Login".toList⟩ := by decide

end Ticket

end MergeMessage
