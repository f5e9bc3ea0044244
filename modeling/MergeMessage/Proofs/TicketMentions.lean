import MergeMessage.Commit.Reply
import MergeMessage.Proofs.TicketScan

/-!
# Mentions of a ticket

A mention of a ticket in a subject is its id as a whole word, together with all the blank characters
around it.  The reader of mentions tries ever fewer blank characters before the id, but an id starts
with none, so only the first try can succeed.

## Main definitions

* `IsWordBetween` — an id that stands as a whole word.
* `IsMention` — an id at the front of a text, with the blank characters around it.
* `blankAfter` — a text with a space for every mention, from any place on.

## Main results

* `mentionAt?_eq_some_iff` — what the reader of mentions takes.
* `blankAfter_mention`, `blankAfter_keep` — how a text is blanked step by step.
* `mention_induction` — induction along the mentions of a text.
-/

namespace MergeMessage.Commit

open Text Ticket

/-! ### Mentions -/

@[simp] theorem lastRead_nil (before : Option Char) : lastRead before [] = before := rfl

theorem lastRead_of_ne_nil {s : Text} (h : s ≠ []) (before : Option Char) :
    lastRead before s = s.getLast? := by
  rw [lastRead, List.getLast?_eq_some_getLast h]

theorem lastRead_cons (before : Option Char) (c : Char) (s : Text) :
    lastRead before (c :: s) = lastRead (some c) s := by
  cases s with
  | nil => rfl
  | cons d s =>
    rw [lastRead_of_ne_nil (by simp), lastRead_of_ne_nil (by simp), List.getLast?_cons_cons]

theorem lastRead_append (before : Option Char) (s t : Text) :
    lastRead before (s ++ t) = lastRead (lastRead before s) t := by
  induction s generalizing before with
  | nil => rfl
  | cons c s ih => rw [List.cons_append, lastRead_cons, ih, lastRead_cons]

/-- Between the character `before` and the text `rest`, the id is a whole word. -/
structure IsWordBetween (before : Option Char) (id rest : Text) : Prop where
  start : isWordBoundary before id.head? = true
  stop : isWordBoundary id.getLast? rest.head? = true

/-- A mention of `id` that follows the character `before`: the id as a whole word, between all the
blank characters around it. -/
structure IsMention (id : Text) (before : Option Char) (lead tail rest : Text) : Prop where
  lead_blank : ∀ c ∈ lead, isBlank c = true
  tail_blank : ∀ c ∈ tail, isBlank c = true
  rest_stops : StopsAt isBlank rest
  word : IsWordBetween (lastRead before lead) id (tail ++ rest)

/-- A mention that starts with a character that is not blank takes no blank characters before it. -/
theorem IsMention.lead_eq_nil {id : Text} {before : Option Char} {lead tail rest : Text}
    (hm : IsMention id before lead tail rest) {c : Char} {s t : Text} (hc : isBlank c = false)
    (heq : c :: s = lead ++ t) : lead = [] := by
  cases lead with
  | nil => rfl
  | cons d lead =>
    obtain rfl : c = d := (List.cons.inj heq).1
    simp [hm.lead_blank c List.mem_cons_self] at hc

section

variable {id : Text} (hid : IsTicketId id)

include hid

/-- An id starts with a capital. -/
theorem exists_upper_cons : ∃ c s, id = c :: s ∧ c.isUpper = true := by
  obtain ⟨project, number, hp, -, hproject, -, rfl⟩ := hid
  obtain ⟨c, s, rfl⟩ := List.exists_cons_of_ne_nil hp
  exact ⟨c, s ++ '-' :: number, rfl, hproject c List.mem_cons_self⟩

/-- An id starts as a word does, so before a whole word stands no word character. -/
theorem IsWordBetween.not_isWordChar_before {before : Option Char} {rest : Text}
    (h : IsWordBetween before id rest) : ∀ c ∈ before, isWordChar c = false := by
  obtain ⟨d, s, rfl, hd⟩ := exists_upper_cons hid
  rintro c rfl
  simpa [isWordBoundary, isWordChar_of_isUpper hd] using h.start

/-- An id ends as a word does, so behind a whole word stands no word character. -/
theorem IsWordBetween.not_isWordChar_after {before : Option Char} {rest : Text}
    (h : IsWordBetween before id rest) : ∀ c ∈ rest.head?, isWordChar c = false := by
  obtain ⟨project, number, -, hn, -, hnumber, rfl⟩ := hid
  obtain ⟨t, d, rfl⟩ := (List.eq_nil_or_concat number).resolve_left hn
  have hd : isWordChar d = true := isWordChar_of_isDigit (hnumber d (by simp))
  have hlast : (project ++ '-' :: t.concat d).getLast? = some d := by
    rw [List.append_cons, List.concat_eq_append, ← List.append_assoc, List.getLast?_concat]
  have hstop := h.stop
  intro c hc
  rw [hlast, Option.mem_def.mp hc] at hstop
  simpa [isWordBoundary, hd] using hstop

theorem isBlank_of_mem_id {c : Char} (hc : c ∈ id) : isBlank c = false := by
  obtain ⟨project, number, -, -, hproject, hnumber, rfl⟩ := hid
  rw [List.mem_append, List.mem_cons] at hc
  rcases hc with hc | rfl | hc
  · exact isBlank_of_isAlphanum (by simp [Char.isAlphanum, Char.isAlpha, hproject c hc])
  · decide
  · exact isBlank_of_isAlphanum (by simp [Char.isAlphanum, hnumber c hc])

theorem stopsAt_id_append (rest : Text) : StopsAt isBlank (id ++ rest) := by
  obtain ⟨c, s, rfl, -⟩ := exists_upper_cons hid
  rw [List.cons_append, stopsAt_cons]
  exact isBlank_of_mem_id hid List.mem_cons_self

theorem mentionAfter?_eq_some_iff {before : Option Char} {lead s : Text} {n : ℕ} :
    mentionAfter? id before lead s = some n ↔
      ∃ rest, s = id ++ rest ∧ IsWordBetween (lastRead before lead) id rest ∧
        n = lead.length + id.length + (rest.takeWhile isBlank).length := by
  have hne := isTicketId_ne_nil hid
  unfold mentionAfter?
  dsimp only
  constructor
  · -- the guards of the reader in its order: how the word starts, the id, how the word stops
    intro h
    split at h
    · simp at h
    · next hstart =>
      split at h
      · simp at h
      · next rest hs =>
        obtain rfl := List.isPrefixOf?_eq_some_iff_append_eq.mp hs
        split at h
        · next hstop =>
          rw [List.head?_append_of_ne_nil _ hne] at hstart
          rw [lastRead_of_ne_nil hne] at hstop
          exact ⟨rest, rfl, ⟨by simpa using hstart, hstop⟩, (Option.some.inj h).symm⟩
        · simp at h
  · rintro ⟨rest, rfl, hword, rfl⟩
    have hpre : id.isPrefixOf? (id ++ rest) = some rest :=
      List.isPrefixOf?_eq_some_iff_append_eq.mpr rfl
    simp only [List.head?_append_of_ne_nil _ hne, hword.start, Bool.not_true, Bool.false_eq_true,
      if_false, hpre, lastRead_of_ne_nil hne, hword.stop, if_true]

/-- With fewer than all blank characters before it, no id is found. -/
theorem mentionWithin?_of_lt {before : Option Char} {lead : Text}
    (hlead : ∀ c ∈ lead, isBlank c = true) (rest : Text) {count : ℕ} (h : count < lead.length) :
    mentionWithin? id before (lead ++ rest) count = none := by
  -- what is left after fewer of them starts blank, and an id does not
  have hnone : ∀ k < lead.length, ∀ front : Text,
      mentionAfter? id before front ((lead ++ rest).drop k) = none := by
    intro k hk front
    rw [Option.eq_none_iff_forall_ne_some]
    intro n hn
    obtain ⟨after, heq, -⟩ := (mentionAfter?_eq_some_iff hid).mp hn
    obtain ⟨c, s, rfl, -⟩ := exists_upper_cons hid
    have hblank : isBlank c = false := isBlank_of_mem_id hid List.mem_cons_self
    rw [List.drop_append_of_le_length (by omega), List.drop_eq_getElem_cons hk,
      List.cons_append] at heq
    rw [← (List.cons.inj heq).1, hlead _ (List.getElem_mem hk)] at hblank
    simp at hblank
  induction count with
  | zero => exact hnone 0 h []
  | succ count ih =>
    rw [mentionWithin?, hnone (count + 1) h]
    exact ih (by omega)

theorem mentionAt?_append {before : Option Char} {lead rest : Text}
    (hlead : ∀ c ∈ lead, isBlank c = true) (hrest : StopsAt isBlank rest) :
    mentionAt? id before (lead ++ rest) = mentionAfter? id before lead rest := by
  rw [mentionAt?, takeWhile_append_stop hlead hrest]
  cases hlen : lead.length with
  | zero =>
    rw [List.length_eq_zero_iff.mp hlen]
    rfl
  | succ k =>
    rw [mentionWithin?, ← hlen, List.take_left, List.drop_left,
      mentionWithin?_of_lt hid hlead rest (by omega)]
    cases mentionAfter? id before lead rest <;> rfl

/-- **The reader of mentions** takes an id that stands as a whole word, and all blank characters
around it. -/
theorem mentionAt?_eq_some_iff {before : Option Char} {s : Text} {n : ℕ} :
    mentionAt? id before s = some n ↔
      ∃ lead tail rest, IsMention id before lead tail rest ∧
        s = lead ++ (id ++ (tail ++ rest)) ∧ n = lead.length + id.length + tail.length := by
  constructor
  · intro h
    have hlead : ∀ c ∈ s.takeWhile isBlank, isBlank c = true := fun c hc =>
      List.mem_takeWhile_imp hc
    rw [← List.takeWhile_append_dropWhile (p := isBlank) (l := s),
      mentionAt?_append hid hlead (stopsAt_dropWhile _ _), mentionAfter?_eq_some_iff hid] at h
    obtain ⟨rest, hs, hword, rfl⟩ := h
    refine ⟨s.takeWhile isBlank, rest.takeWhile isBlank, rest.dropWhile isBlank,
      ⟨hlead, fun c hc => List.mem_takeWhile_imp hc, stopsAt_dropWhile _ _, ?_⟩, ?_, rfl⟩
    · rwa [List.takeWhile_append_dropWhile]
    · rw [List.takeWhile_append_dropWhile, ← hs, List.takeWhile_append_dropWhile]
  · rintro ⟨lead, tail, rest, hm, rfl, rfl⟩
    rw [mentionAt?_append hid hm.lead_blank (stopsAt_id_append hid _),
      mentionAfter?_eq_some_iff hid]
    exact ⟨tail ++ rest, rfl, hm.word, by
      rw [takeWhile_append_stop hm.tail_blank hm.rest_stops]⟩

/-- No mention stands at the front. -/
theorem mentionAt?_eq_none_iff {before : Option Char} {s : Text} :
    mentionAt? id before s = none ↔
      ∀ lead tail rest, IsMention id before lead tail rest → s ≠ lead ++ (id ++ (tail ++ rest)) := by
  rw [Option.eq_none_iff_forall_ne_some]
  constructor
  · intro h lead tail rest hm heq
    exact h _ ((mentionAt?_eq_some_iff hid).mpr ⟨lead, tail, rest, hm, heq, rfl⟩)
  · intro h n hn
    obtain ⟨lead, tail, rest, hm, heq, -⟩ := (mentionAt?_eq_some_iff hid).mp hn
    exact h lead tail rest hm heq

theorem mentionAt?_ne_zero {before : Option Char} {s : Text} : mentionAt? id before s ≠ some 0 := by
  intro h
  obtain ⟨lead, tail, rest, -, -, hlen⟩ := (mentionAt?_eq_some_iff hid).mp h
  have hpos := List.length_pos_iff.mpr (isTicketId_ne_nil hid)
  omega

theorem mentionAt?_nil (before : Option Char) : mentionAt? id before [] = none := by
  refine (mentionAt?_eq_none_iff hid).mpr fun lead tail rest _ heq => ?_
  simp [isTicketId_ne_nil hid] at heq

theorem mentionAt?_id_append {before : Option Char} {rest : Text}
    (h : IsWordBetween before id rest) :
    mentionAt? id before (id ++ rest) = some (id.length + (rest.takeWhile isBlank).length) := by
  have hat : mentionAt? id before ([] ++ (id ++ rest)) = mentionAfter? id before [] (id ++ rest) :=
    mentionAt?_append hid (by simp) (stopsAt_id_append hid rest)
  rw [← List.nil_append (id ++ rest), hat, mentionAfter?_eq_some_iff hid]
  exact ⟨rest, rfl, h, by simp⟩

end

/-! ### Blanking -/

/-- The text with a space for every mention of `id`, when it follows the character `before`. -/
def blankAfter (id : Text) (before : Option Char) (s : Text) : Text :=
  blankTicketFrom id 0 before false s

theorem blankTicket_eq (id s : Text) : blankTicket id s = blankAfter id none s := rfl

theorem blankAfter_keep {id : Text} {before : Option Char} {c : Char} {s : Text}
    (h : mentionAt? id before (c :: s) = none) :
    blankAfter id before (c :: s) = c :: blankAfter id (some c) s := by
  rw [blankAfter, blankTicketFrom, h]
  rfl

section

variable {id : Text} (hid : IsTicketId id)

include hid

/-- A mention is never empty, so it makes no difference whether one ends here. -/
theorem blankTicketFrom_zero (before : Option Char) (touching : Bool) (s : Text) :
    blankTicketFrom id 0 before touching s = blankAfter id before s := by
  unfold blankAfter
  cases s with
  | nil => simp [blankTicketFrom, mentionAt?_nil hid]
  | cons c s =>
    unfold blankTicketFrom
    cases hat : mentionAt? id before (c :: s) with
    | none => rfl
    | some n =>
      cases n with
      | zero => exact absurd hat (mentionAt?_ne_zero hid)
      | succ n => rfl

/-- The rest of a mention is dropped. -/
theorem blankTicketFrom_append (skipped : Text) (before : Option Char) (touching : Bool)
    (s : Text) :
    blankTicketFrom id skipped.length before touching (skipped ++ s) =
      blankAfter id (lastRead before skipped) s := by
  induction skipped generalizing before touching with
  | nil => exact blankTicketFrom_zero hid before touching s
  | cons c skipped ih =>
    rw [List.length_cons, List.cons_append, blankTicketFrom, ih, lastRead_cons]

theorem blankAfter_nil (before : Option Char) : blankAfter id before [] = [] := by
  simp [blankAfter, blankTicketFrom, mentionAt?_nil hid]

theorem blankAfter_mention {before : Option Char} {lead tail rest : Text}
    (hm : IsMention id before lead tail rest) :
    blankAfter id before (lead ++ (id ++ (tail ++ rest))) =
      ' ' :: blankAfter id (lastRead before (lead ++ (id ++ tail))) rest := by
  obtain ⟨c, s, hs⟩ := List.exists_cons_of_ne_nil (l := lead ++ (id ++ tail))
    (by simp [isTicketId_ne_nil hid])
  have hlen : lead.length + id.length + tail.length = s.length + 1 := by
    have hsum := congrArg List.length hs
    simp only [List.length_append, List.length_cons] at hsum
    omega
  have hcons : lead ++ (id ++ (tail ++ rest)) = c :: (s ++ rest) := by
    rw [← List.cons_append, ← hs]
    simp
  have hat : mentionAt? id before (c :: (s ++ rest)) = some (s.length + 1) :=
    (mentionAt?_eq_some_iff hid).mpr ⟨lead, tail, rest, hm, hcons.symm, hlen.symm⟩
  rw [hcons, hs, blankAfter, blankTicketFrom, hat]
  simp only [blankTicketFrom_append hid, lastRead_cons]

/-- **Induction along the mentions of a text.**  A text is empty, starts with a mention, or starts
with a character that stays. -/
theorem mention_induction {P : Option Char → Text → Prop} (nil : ∀ before, P before [])
    (mention : ∀ before lead tail rest, IsMention id before lead tail rest →
      P (lastRead before (lead ++ (id ++ tail))) rest →
        P before (lead ++ (id ++ (tail ++ rest))))
    (keep : ∀ before c s, mentionAt? id before (c :: s) = none → P (some c) s →
      P before (c :: s)) (before : Option Char) (s : Text) : P before s := by
  -- on the length: a mention takes at least its id
  obtain ⟨n, hn⟩ : ∃ n, s.length = n := ⟨_, rfl⟩
  induction n using Nat.strong_induction_on generalizing before s with
  | _ n ih =>
    cases s with
    | nil => exact nil before
    | cons c s =>
      cases hat : mentionAt? id before (c :: s) with
      | none => exact keep before c s hat (ih s.length (by simp [← hn]) _ s rfl)
      | some k =>
        obtain ⟨lead, tail, rest, hm, heq, -⟩ := (mentionAt?_eq_some_iff hid).mp hat
        have hlen : rest.length < n := by
          have hpos := List.length_pos_iff.mpr (isTicketId_ne_nil hid)
          have hsum := congrArg List.length heq
          simp only [List.length_append] at hsum
          omega
        rw [heq]
        exact mention before lead tail rest hm (ih rest.length hlen _ rest rfl)

end

end MergeMessage.Commit
