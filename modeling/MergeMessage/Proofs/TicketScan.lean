import MergeMessage.Proofs.Texts
import MergeMessage.Ticket

/-!
# Reading ticket ids

A text is read from the left, and an id is taken as soon as one starts and as long as it gets.
Since an id is one run of capitals, a hyphen and one run of digits, a character of any other kind
parts a text into two that are read on their own.

## Main definitions

* `IsTicketBreak` — a character that is in no id.

## Main results

* `idAt?_eq_some_iff` — the id that starts a text.
* `ids_append` — an id that is not followed by a digit is read first.
* `ids_append_break` — the ids on the two sides of a break.
* `isTicketId_of_mem_ids` — what is read has the form of an id.
-/

namespace MergeMessage

/-- No part of a ticket id is this character. -/
structure IsTicketBreak (c : Char) : Prop where
  not_upper : c.isUpper = false
  not_digit : c.isDigit = false
  ne_hyphen : c ≠ '-'

namespace Ticket

open Text

/-! ### The form of an id -/

theorem isTicketId_ne_nil {id : Text} (h : IsTicketId id) : id ≠ [] := by
  obtain ⟨project, number, -, -, -, -, rfl⟩ := h
  simp

/-- An id is made of capitals, digits and a hyphen. -/
theorem notMem_of_isTicketBreak {id : Text} (h : IsTicketId id) {c : Char}
    (hc : IsTicketBreak c) : c ∉ id := by
  obtain ⟨project, number, -, -, hproject, hnumber, rfl⟩ := h
  intro hmem
  rw [List.mem_append, List.mem_cons] at hmem
  rcases hmem with hmem | rfl | hmem
  · exact absurd hc.not_upper (by simp [hproject c hmem])
  · exact hc.ne_hyphen rfl
  · exact absurd hc.not_digit (by simp [hnumber c hmem])

/-! ### The id at the front of a text -/

theorem idAt?_append {id rest : Text} (hid : IsTicketId id) (hrest : StopsAt Char.isDigit rest) :
    idAt? (id ++ rest) = some id := by
  obtain ⟨project, number, hp, hn, hproject, hnumber, rfl⟩ := hid
  have hstop : StopsAt Char.isUpper ('-' :: (number ++ rest)) := by
    rw [stopsAt_cons]; decide
  rw [List.append_assoc, List.cons_append, idAt?, takeWhile_append_stop hproject hstop,
    dropWhile_append_stop hproject hstop]
  cases project with
  | nil => exact absurd rfl hp
  | cons p project =>
    simp only [takeWhile_append_stop hnumber hrest]

/-- **The id that starts a text** is a run of capitals, a hyphen and as many digits as there
are. -/
theorem idAt?_eq_some_iff {s id : Text} :
    idAt? s = some id ↔
      IsTicketId id ∧ ∃ rest, StopsAt Char.isDigit rest ∧ s = id ++ rest := by
  constructor
  · intro h
    have hs := (List.takeWhile_append_dropWhile (p := Char.isUpper) (l := s)).symm
    unfold idAt? at h
    split at h
    · simp at h
    · next rest hdrop hp =>
      split at h
      · simp at h
      · next hn =>
        obtain rfl := Option.some.inj h
        refine ⟨⟨s.takeWhile Char.isUpper, rest.takeWhile Char.isDigit, hp, hn,
          fun c hc => List.mem_takeWhile_imp hc,
          fun c hc => List.mem_takeWhile_imp hc, rfl⟩,
          rest.dropWhile Char.isDigit, stopsAt_dropWhile _ _, ?_⟩
        conv_lhs => rw [hs, hdrop]
        simp
    · simp at h
  · rintro ⟨hid, rest, hrest, rfl⟩
    exact idAt?_append hid hrest

/-- A text that starts with no capital starts with no id. -/
theorem idAt?_of_not_upper {c : Char} (h : c.isUpper = false) (s : Text) :
    idAt? (c :: s) = none := by
  simp [idAt?, h]

/-- What follows a break does not belong to the id at the front. -/
theorem idAt?_append_break {c : Char} (hc : IsTicketBreak c) (s t : Text) :
    idAt? (s ++ c :: t) = idAt? s := by
  refine Option.ext fun id => ?_
  rw [idAt?_eq_some_iff, idAt?_eq_some_iff]
  refine and_congr_right fun hid => ?_
  constructor
  · rintro ⟨rest, hrest, heq⟩
    -- the id ends before the break, for it does not hold the break
    rcases List.append_eq_append_iff.mp heq with ⟨more, rfl, hmore⟩ | ⟨more, rfl, rfl⟩
    · cases more with
      | nil => exact ⟨[], stopsAt_nil _, by simp⟩
      | cons d more =>
        obtain rfl := (List.cons.inj hmore).1
        exact absurd (by simp) (notMem_of_isTicketBreak hid hc)
    · refine ⟨more, ?_, rfl⟩
      cases more with
      | nil => exact stopsAt_nil _
      | cons d more => simpa using hrest
  · rintro ⟨rest, hrest, rfl⟩
    refine ⟨rest ++ c :: t, ?_, by simp⟩
    cases rest with
    | nil => simpa using hc.not_digit
    | cons d rest => simpa using hrest

/-! ### The ids of a text -/

/-- Characters that are already read do not count. -/
theorem idsAfter_eq (skip : ℕ) (s : Text) : idsAfter skip s = ids (s.drop skip) := by
  induction skip generalizing s with
  | zero => rfl
  | succ skip ih =>
    cases s with
    | nil => rfl
    | cons c s => rw [idsAfter, ih, List.drop_succ_cons]

theorem ids_cons_of_none {c : Char} {s : Text} (h : idAt? (c :: s) = none) :
    ids (c :: s) = ids s := by
  rw [ids, idsAfter, h]
  rfl

/-- An id that stands at the front and ends there is read first. -/
theorem ids_append {id rest : Text} (hid : IsTicketId id) (hrest : StopsAt Char.isDigit rest) :
    ids (id ++ rest) = id :: ids rest := by
  cases hcons : id ++ rest with
  | nil => exact absurd (List.append_eq_nil_iff.mp hcons).1 (isTicketId_ne_nil hid)
  | cons c s =>
    have hat : idAt? (c :: s) = some id := by rw [← hcons]; exact idAt?_append hid hrest
    have hdrop : s.drop (id.length - 1) = rest := by
      cases id with
      | nil => exact absurd rfl (isTicketId_ne_nil hid)
      | cons d id =>
        obtain ⟨-, rfl⟩ := List.cons.inj hcons
        simp
    rw [ids, idsAfter, hat]
    simp only [idsAfter_eq, hdrop]

/-- An id holds no other id. -/
theorem ids_of_isTicketId {id : Text} (hid : IsTicketId id) : ids id = [id] := by
  simpa using ids_append hid (stopsAt_nil Char.isDigit)

/-- **Induction along the ids of a text.**  A text is empty, starts with an id that ends before
the rest, or starts with a character that starts no id. -/
theorem ids_induction {P : Text → Prop} (nil : P [])
    (found : ∀ id rest, IsTicketId id → StopsAt Char.isDigit rest → P rest → P (id ++ rest))
    (skip : ∀ c s, idAt? (c :: s) = none → P s → P (c :: s)) (s : Text) : P s := by
  -- on the length: an id is not empty
  obtain ⟨n, hn⟩ : ∃ n, s.length = n := ⟨_, rfl⟩
  induction n using Nat.strong_induction_on generalizing s with
  | _ n ih =>
    cases s with
    | nil => exact nil
    | cons c s =>
      cases hat : idAt? (c :: s) with
      | none => exact skip c s hat (ih s.length (by simp [← hn]) s rfl)
      | some t =>
        obtain ⟨ht, rest, hrest, heq⟩ := idAt?_eq_some_iff.mp hat
        have hlen : rest.length < n := by
          have hpos := List.length_pos_iff.mpr (isTicketId_ne_nil ht)
          have hsum := congrArg List.length heq
          rw [List.length_append] at hsum
          omega
        rw [heq]
        exact found t rest ht hrest (ih rest.length hlen rest rfl)

/-- What is read has the form of an id. -/
theorem isTicketId_of_mem_ids {s id : Text} (h : id ∈ ids s) : IsTicketId id := by
  induction s using ids_induction with
  | nil => simp at h
  | found t rest ht hrest ih =>
    rw [ids_append ht hrest, List.mem_cons] at h
    rcases h with rfl | h
    · exact ht
    · exact ih h
  | skip c s hnone ih => exact ih (by rwa [ids_cons_of_none hnone] at h)

theorem isTicketId_of_firstId? {s id : Text} (h : firstId? s = some id) : IsTicketId id :=
  isTicketId_of_mem_ids (List.mem_of_head? h)

/-- **The two sides of a break are read on their own.** -/
theorem ids_append_break {c : Char} (hc : IsTicketBreak c) (s t : Text) :
    ids (s ++ c :: t) = ids s ++ ids t := by
  induction s using ids_induction with
  | nil => exact ids_cons_of_none (idAt?_of_not_upper hc.not_upper t)
  | found u rest hu hrest ih =>
    have hstop : StopsAt Char.isDigit (rest ++ c :: t) := by
      cases rest with
      | nil => simpa using hc.not_digit
      | cons d rest => simpa using hrest
    rw [List.append_assoc, ids_append hu hstop, ids_append hu hrest, ih, List.cons_append]
  | skip d s hnone ih =>
    -- no id reaches over the break, so none starts here either
    have hnone' : idAt? (d :: (s ++ c :: t)) = none := by
      rw [← hnone, ← idAt?_append_break hc (d :: s) t, List.cons_append]
    rw [List.cons_append, ids_cons_of_none hnone', ids_cons_of_none hnone, ih]

theorem isTicketBreak_newline : IsTicketBreak '\n' := ⟨by decide, by decide, by decide⟩

end Ticket

end MergeMessage
