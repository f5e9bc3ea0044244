import MergeMessage.Proofs.TicketPlaces

/-!
# The first ticket of a text

A text mentions an id where the id stands whole: it is neither continued to the left by a capital
nor to the right by a digit.  The reader of ids takes what it finds first and goes on behind it, but
this never hides a place: of all the places where any id stands whole, the one that starts first is
found first, and no id is found exactly if there is no such place.

## Main definitions

* `StandsWhole` — a place of an id in a text.
* `IsEarliest` — a place before which no other starts.

## Main results

* `mentions_iff_standsWhole` — what a text mentions.
* `IsEarliest.ids_eq_nil` — no id is read before the earliest place.
* `mentions_where_whole_and_first_is_earliest` — mentions and the first id, in terms of places.
-/

namespace MergeMessage

namespace Ticket

open Text

/-- The text is `pre`, then an id and then `post`, and the id is continued on neither side. -/
structure StandsWhole (s pre id post : Text) : Prop where
  form : IsTicketId id
  split : s = pre ++ (id ++ post)
  whole : IsWholeBetween pre.getLast? post

/-- The id stands whole behind `pre`, and no id stands whole at an earlier place. -/
structure IsEarliest (s pre id post : Text) : Prop extends StandsWhole s pre id post where
  le_length : ∀ pre' id' post', StandsWhole s pre' id' post' → pre.length ≤ pre'.length

/-- **What a text mentions** are the ids that stand whole somewhere in it. -/
theorem mentions_iff_standsWhole {s id : Text} :
    mentions s id = true ↔ ∃ pre post, StandsWhole s pre id post := by
  rw [mentions_iff, mem_ids_iff]
  constructor
  · rintro ⟨hid, pre, post, hs, hwhole⟩
    exact ⟨pre, post, hid, hs, hwhole⟩
  · rintro ⟨pre, post, h⟩
    exact ⟨h.form, pre, post, h.split, h.whole⟩

/-- A place stays one when more text follows that does not start with a digit. -/
theorem StandsWhole.append {s pre id post t : Text} (h : StandsWhole s pre id post)
    (ht : StopsAt Char.isDigit t) : StandsWhole (s ++ t) pre id (post ++ t) where
  form := h.form
  split := by rw [h.split, List.append_assoc, List.append_assoc]
  whole := ⟨h.whole.start, stopsAt_append h.whole.stop ht⟩

/-- If ids stand whole in a text, one of them is the earliest. -/
theorem StandsWhole.exists_isEarliest {s pre id post : Text} (h : StandsWhole s pre id post) :
    ∃ pre' id' post', IsEarliest s pre' id' post' := by
  classical
  -- the least length of a text before an id that stands whole
  have hex : ∃ n, ∃ pre' id' post', StandsWhole s pre' id' post' ∧ pre'.length = n :=
    ⟨pre.length, pre, id, post, h, rfl⟩
  obtain ⟨pre', id', post', hplace, hlen⟩ := Nat.find_spec hex
  refine ⟨pre', id', post', hplace, fun pre'' id'' post'' hother => ?_⟩
  rw [hlen]
  exact Nat.find_min' hex ⟨pre'', id'', post'', hother, rfl⟩

namespace IsEarliest

variable {s pre id post : Text} (h : IsEarliest s pre id post)

include h

/-- No id is read before the earliest place. -/
theorem ids_eq_nil : ids pre = [] := by
  refine List.eq_nil_iff_forall_not_mem.mpr fun other hother => ?_
  -- an id that is read there stands whole in the text as well, for what follows is a capital
  obtain ⟨u, v, hplace⟩ := mentions_iff_standsWhole.mp (mentions_iff.mpr hother)
  have hearlier := hplace.append (stopsAt_isDigit_id_append h.form post)
  rw [← h.split] at hearlier
  have hle := h.le_length _ _ _ hearlier
  have hpos := List.length_pos_iff.mpr (isTicketId_ne_nil hplace.form)
  have hsum := congrArg List.length hplace.split
  simp only [List.length_append] at hsum
  omega

/-- The id at the earliest place is read first. -/
theorem firstId?_eq : firstId? s = some id := by
  rw [firstId?, h.split, ids_append_whole h.form h.whole, h.ids_eq_nil, List.nil_append,
    List.head?_cons]

end IsEarliest

/-- **Mentions and the first id, in terms of places.**  A text mentions exactly the ids that stand
whole somewhere in it.  Its first id is the one at the earliest of all such places, and it has none
exactly if it mentions none. -/
theorem mentions_where_whole_and_first_is_earliest (s : Text) :
    (∀ id, mentions s id = true ↔
      IsTicketId id ∧ ∃ pre post, s = pre ++ (id ++ post) ∧
        (∀ c ∈ pre.getLast?, c.isUpper = false) ∧ ∀ c ∈ post.head?, c.isDigit = false) ∧
    (∀ id, firstId? s = some id ↔ ∃ pre post, IsEarliest s pre id post) ∧
    (firstId? s = none ↔ ∀ id, mentions s id = false) := by
  refine ⟨fun id => ?_, fun id => ⟨fun hfirst => ?_, ?_⟩, ?_⟩
  · rw [mentions_iff_standsWhole]
    constructor
    · rintro ⟨pre, post, h⟩
      exact ⟨h.form, pre, post, h.split, h.whole.start, h.whole.stop⟩
    · rintro ⟨hid, pre, post, hs, hstart, hstop⟩
      exact ⟨pre, post, hid, hs, hstart, hstop⟩
  · have hmem : mentions s id = true := mentions_iff.mpr (List.mem_of_head? hfirst)
    obtain ⟨pre, post, hplace⟩ := mentions_iff_standsWhole.mp hmem
    obtain ⟨pre', id', post', hearliest⟩ := hplace.exists_isEarliest
    -- what stands there is read first, so it is this id
    obtain rfl : id' = id := Option.some.inj (hearliest.firstId?_eq.symm.trans hfirst)
    exact ⟨pre', post', hearliest⟩
  · rintro ⟨pre, post, hearliest⟩
    exact hearliest.firstId?_eq
  · rw [firstId?, List.head?_eq_none_iff, List.eq_nil_iff_forall_not_mem]
    refine forall_congr' fun id => ?_
    rw [← mentions_iff, Bool.not_eq_true]

/-- An id does not hide the one that starts where it ends. -/
example : ids "A-B-1C-2".toList = ["B-1".toList, "C-2".toList] := by decide

end Ticket

end MergeMessage
