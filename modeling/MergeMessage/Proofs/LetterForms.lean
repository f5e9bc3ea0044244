import Mathlib.Data.Nat.Bitwise
import MergeMessage.Proofs.Lowercase

/-!
# What becomes of capitals

A lowercase form has no lowercase form of its own, so a text that was brought down once stays; and a
character that has one becomes a letter that is not uppercase.  Both are facts about a table of well
over a thousand capitals.  The tables of the properties are written out as masks, numbers with a bit
for every code point, so that each run of the table is checked with a few shifts.

## Main definitions

* `CodePoints.mask` — a set of code points as a number.
* `LowerRun.Leads` — all characters of a run with one property have forms with another one.
* `IsSettled` — a character that is its own lowercase form, wherever it stands.

## Main results

* `lowerRuns_lead_to_small`, `lowerRuns_keep_words` — the two facts about the table.
* `isSettled_or_isFormOf` — what is not its own lowercase form becomes a letter that is not uppercase.
* `isWordChar_of_mem_lowerCharBetween` — a lowercase form is part of a word as the character was.
* `Text.lower_lower` — bringing a text down once is enough.
-/

namespace MergeMessage

/-! ### Masks -/

/-- The number that has, below `size`, the bits of the code points in the set. -/
def CodePoints.mask (size : ℕ) : CodePoints → ℕ
  | [] => 0
  | change :: changes => ((mask size changes ^^^ (2 ^ size - 1)) >>> change) <<< change

theorem CodePoints.testBit_mask {size n : ℕ} (hn : n < size) (points : CodePoints) :
    (points.mask size).testBit n = points.contains n := by
  induction points with
  | nil => simp [mask]
  | cons change changes ih =>
    rw [mask, contains_cons, Nat.testBit_shiftLeft]
    by_cases h : n < change
    · simp [h]
    · rw [Nat.testBit_shiftRight, Nat.add_sub_of_le (Nat.le_of_not_lt h), Nat.testBit_xor, ih,
        Nat.testBit_two_pow_sub_one]
      simp [h, hn, Nat.le_of_not_lt h]

/-- The number that has the bits `0`, `step`, `2 * step` and so on, `count` of them. -/
def stepMask (step : ℕ) : ℕ → ℕ
  | 0 => 0
  | count + 1 => (stepMask step count <<< step) ||| 1

theorem testBit_stepMask {step count i : ℕ} (hstep : 0 < step) (hmod : i % step = 0)
    (hlt : i / step < count) : (stepMask step count).testBit i = true := by
  induction count generalizing i with
  | zero => exact absurd hlt (Nat.not_lt_zero _)
  | succ count ih =>
    rw [stepMask, Nat.testBit_or, Nat.testBit_shiftLeft, Bool.or_eq_true]
    rcases Nat.lt_or_ge i step with hi | hi
    · rw [Nat.mod_eq_of_lt hi] at hmod
      exact Or.inr (Nat.testBit_one_eq_true_iff_self_eq_zero.mpr hmod)
    · obtain ⟨j, rfl⟩ := Nat.exists_eq_add_of_le hi
      rw [Nat.add_mod_left] at hmod
      rw [Nat.add_div_left j hstep] at hlt
      rw [Nat.add_sub_cancel_left, ih hmod (by omega)]
      simp

namespace LowerRun

/-- The bits of the characters of the run, counted from its first one. -/
def offsets (r : LowerRun) : ℕ := stepMask r.step ((r.last - r.first) / r.step + 1)

/-- The lowercase form of the first character of the run. -/
def firstForm (r : LowerRun) : ℕ := (r.first + r.offset).toNat

/-- All characters of the run with a bit in `source` have lowercase forms with a bit in `target`. -/
def Leads (r : LowerRun) (source target : ℕ) : Prop :=
  0 < r.step ∧ 0 ≤ r.first + r.offset ∧
    source >>> r.first &&& r.offsets &&& target >>> r.firstForm =
      source >>> r.first &&& r.offsets

instance (r : LowerRun) (source target : ℕ) : Decidable (r.Leads source target) :=
  inferInstanceAs (Decidable (_ ∧ _ ∧ _))

theorem testBit_offsets {r : LowerRun} (hstep : 0 < r.step) {n m : ℕ} (h : r.lower? n = some m) :
    r.offsets.testBit (n - r.first) = true := by
  unfold lower? at h
  split at h
  · next hn =>
    simp only [Bool.and_eq_true, decide_eq_true_eq, beq_iff_eq] at hn
    obtain ⟨⟨hfirst, hlast⟩, hmod⟩ := hn
    have hdiv : (n - r.first) / r.step ≤ (r.last - r.first) / r.step :=
      Nat.div_le_div_right (by omega)
    exact testBit_stepMask hstep hmod (by omega)
  · simp at h

theorem Leads.testBit {r : LowerRun} {source target n m : ℕ} (h : r.Leads source target)
    (hm : r.lower? n = some m) (hn : source.testBit n = true) : target.testBit m = true := by
  obtain ⟨hstep, hform, hmask⟩ := h
  obtain ⟨hfirst, -, rfl⟩ := lower?_eq_some hm
  have hbits := congrArg (Nat.testBit · (n - r.first)) hmask
  have hfrom : r.firstForm + (n - r.first) = (n + r.offset).toNat := by
    unfold firstForm
    omega
  simpa [Nat.testBit_shiftRight, Nat.add_sub_of_le hfirst, hfrom, hn, testBit_offsets hstep hm]
    using hbits

end LowerRun

/-! ### The table -/

/-- No character beyond this code point has a lowercase form or is one. -/
def caseLimit : ℕ := 0x1E944

/-- The bits of the characters that the table has lowercase forms of. -/
def loweredMask : ℕ := lowerRuns.foldr (fun r mask => r.offsets <<< r.first ||| mask) 0

/-- The bits of the letters that are neither uppercase nor have a lowercase form. -/
def smallMask : ℕ :=
  alphabeticPoints.mask caseLimit &&&
    ((uppercasePoints.mask caseLimit ||| loweredMask) ^^^ (2 ^ caseLimit - 1))

/-- The bits of the word characters. -/
def wordMask : ℕ :=
  alphabeticPoints.mask caseLimit &&& (newAlphabeticPoints.mask caseLimit ^^^ (2 ^ caseLimit - 1)) |||
    wordMarkPoints.mask caseLimit

/-- **The lowercase forms are letters** that are not uppercase and have no form of their own. -/
theorem lowerRuns_lead_to_small : ∀ r ∈ lowerRuns, r.Leads (2 ^ caseLimit - 1) smallMask := by
  decide +kernel

/-- **A word character has word characters for its lowercase forms.** -/
theorem lowerRuns_keep_words : ∀ r ∈ lowerRuns, r.Leads wordMask wordMask := by
  decide +kernel

theorem lowerRuns_last_lt : ∀ r ∈ lowerRuns, r.last < caseLimit ∧ r.last + r.offset < caseLimit := by
  decide +kernel

theorem testBit_loweredMask {r : LowerRun} (hr : r ∈ lowerRuns) {n m : ℕ}
    (h : r.lower? n = some m) : loweredMask.testBit n = true := by
  have hfold : ∀ runs : List LowerRun, r ∈ runs →
      (runs.foldr (fun (r : LowerRun) mask => r.offsets <<< r.first ||| mask) 0).testBit n = true := by
    intro runs
    induction runs with
    | nil => simp
    | cons q runs ih =>
      intro hmem
      rw [List.foldr_cons, Nat.testBit_or, Bool.or_eq_true]
      rcases List.mem_cons.mp hmem with rfl | hmem
      · have hbit := LowerRun.testBit_offsets (lowerRuns_lead_to_small r hr).1 h
        simp [Nat.testBit_shiftLeft, (lower?_eq_some h).1, hbit]
      · exact Or.inr (ih hmem)
  rw [loweredMask]
  exact hfold lowerRuns hr

theorem testBit_wordMask {c : Char} (hc : c.toNat < caseLimit) :
    wordMask.testBit c.toNat = isWordChar c := by
  simp [wordMask, isWordChar, isAlphabetic, CodePoints.testBit_mask hc, hc]

theorem findSome?_lowerRuns_eq_none {n : ℕ} (h : loweredMask.testBit n = false) :
    lowerRuns.findSome? (·.lower? n) = none := by
  refine List.findSome?_eq_none_iff.mpr fun r hr => ?_
  rw [Option.eq_none_iff_forall_ne_some]
  intro m hm
  rw [testBit_loweredMask hr hm] at h
  simp at h

theorem testBit_smallMask {c : Char} (hc : c.toNat < caseLimit)
    (h : smallMask.testBit c.toNat = true) :
    isAlphabetic c = true ∧ isUppercase c = false ∧
      lowerRuns.findSome? (·.lower? c.toNat) = none := by
  simp only [smallMask, Nat.testBit_and, Nat.testBit_xor, Nat.testBit_or,
    CodePoints.testBit_mask hc, Nat.testBit_two_pow_sub_one, hc, decide_true, Bool.and_eq_true,
    Bool.xor_true, Bool.not_eq_true', Bool.or_eq_false_iff] at h
  exact ⟨h.1, h.2.1, findSome?_lowerRuns_eq_none h.2.2⟩

/-! ### Characters -/

/-- The character is its own lowercase form, wherever it stands. -/
def IsSettled (c : Char) : Prop := ∀ before after, lowerCharBetween before c after = [c]

theorem isSettled_of_not_lowered {c : Char} (hdot : c.toNat ≠ 0x130) (hsigma : c.toNat ≠ 0x3A3)
    (hnone : lowerRuns.findSome? (·.lower? c.toNat) = none) : IsSettled c := by
  intro before after
  rw [lowerCharBetween, if_neg hsigma, lowerChar, if_neg hdot, hnone]

theorem isSettled_of_not_isUppercase {c : Char} (hupper : isUppercase c = false)
    (hnone : lowerRuns.findSome? (·.lower? c.toNat) = none) : IsSettled c := by
  have hne : ∀ n, uppercasePoints.contains n = true → c.toNat ≠ n := by
    rintro n hn rfl
    rw [isUppercase, hn] at hupper
    simp at hupper
  exact isSettled_of_not_lowered (hne 0x130 (by decide +kernel)) (hne 0x3A3 (by decide +kernel)) hnone

/-- Blank characters have no case. -/
theorem isSettled_of_isBlank {c : Char} (h : isBlank c = true) : IsSettled c := by
  have hcodes : ∀ n ∈ blankCodes, n ≠ 0x130 ∧ n ≠ 0x3A3 ∧ loweredMask.testBit n = false := by
    decide +kernel
  obtain ⟨hdot, hsigma, hbit⟩ := hcodes _ (toNat_mem_blankCodes h)
  exact isSettled_of_not_lowered hdot hsigma (findSome?_lowerRuns_eq_none hbit)

/-- A letter that is not uppercase and stays as it is; it is part of words if `c` is. -/
structure IsFormOf (c x : Char) : Prop where
  alphabetic : isAlphabetic x = true
  not_upper : isUppercase x = false
  settled : IsSettled x
  word : isWordChar c = true → isWordChar x = true

/-- What the table has for a character is a small letter. -/
theorem isFormOf_of_lowerRuns {c : Char} {m : ℕ}
    (h : lowerRuns.findSome? (·.lower? c.toNat) = some m) : IsFormOf c (Char.ofNat m) := by
  -- the form of a letter is a scalar value, whichever run it comes from
  have hvalid : m.isValidChar := by
    rcases findSome?_lowerRuns_cases h with ⟨-, hle, rfl⟩ | ⟨-, rfl⟩ | ⟨-, -, -, hvalid, -⟩
    · exact Or.inl (by omega)
    · exact Or.inl (by omega)
    · exact hvalid
  have hm : (Char.ofNat m).toNat = m := by rw [Char.toNat_ofNat, if_pos hvalid]
  obtain ⟨r, hr, hlower⟩ := List.exists_of_findSome?_eq_some h
  obtain ⟨hlast, hform⟩ := lowerRuns_last_lt r hr
  obtain ⟨-, hle, hoffset⟩ := lower?_eq_some hlower
  have hc : c.toNat < caseLimit := by omega
  have hx : (Char.ofNat m).toNat < caseLimit := by omega
  -- all runs lead into the mask of the small letters, which says the rest
  have hsmall : smallMask.testBit (Char.ofNat m).toNat = true := by
    rw [hm]
    refine (lowerRuns_lead_to_small r hr).testBit hlower ?_
    rw [Nat.testBit_two_pow_sub_one, decide_eq_true hc]
  obtain ⟨halpha, hupper, hnone⟩ := testBit_smallMask hx hsmall
  refine ⟨halpha, hupper, isSettled_of_not_isUppercase hupper hnone, fun hword => ?_⟩
  rw [← testBit_wordMask hx, hm]
  exact (lowerRuns_keep_words r hr).testBit hlower (by rwa [testBit_wordMask hc])

/-- **What becomes of a character.**  It is its own lowercase form, or this starts with a small
letter; only the capital I with dot has a form of two characters. -/
theorem isSettled_or_isFormOf (before : Text) (c : Char) (after : Text) :
    IsSettled c ∨ ∃ x, IsFormOf c x ∧ (lowerCharBetween before c after = [x] ∨
      lowerCharBetween before c after = [x, Char.ofNat 0x307]) := by
  have hform : ∀ {d : Char} (x : Char), smallMask.testBit x.toNat = true → x.toNat < caseLimit →
      isWordChar x = true → IsFormOf d x := by
    intro d x hx hlt hword
    obtain ⟨halpha, hupper, hnone⟩ := testBit_smallMask hlt hx
    exact ⟨halpha, hupper, isSettled_of_not_isUppercase hupper hnone, fun _ => hword⟩
  -- the two letters with rules of their own first, then the table
  by_cases hsigma : c.toNat = 0x3A3
  · rw [lowerCharBetween, if_pos hsigma]
    split
    · exact Or.inr ⟨_, hform _ (by decide +kernel) (by decide) (by decide +kernel), Or.inl rfl⟩
    · exact Or.inr ⟨_, hform _ (by decide +kernel) (by decide) (by decide +kernel), Or.inl rfl⟩
  by_cases hdot : c.toNat = 0x130
  · rw [lowerCharBetween, if_neg hsigma, lowerChar, if_pos hdot]
    exact Or.inr ⟨_, hform _ (by decide +kernel) (by decide) (by decide +kernel), Or.inr rfl⟩
  cases hm : lowerRuns.findSome? (·.lower? c.toNat) with
  | none =>
    refine Or.inl fun before after => ?_
    rw [lowerCharBetween, if_neg hsigma, lowerChar, if_neg hdot, hm]
  | some m =>
    refine Or.inr ⟨Char.ofNat m, isFormOf_of_lowerRuns hm, Or.inl ?_⟩
    rw [lowerCharBetween, if_neg hsigma, lowerChar, if_neg hdot, hm]

theorem isSettled_combiningDot : IsSettled (Char.ofNat 0x307) :=
  isSettled_of_not_isUppercase (by decide +kernel) (by decide +kernel)

/-- A lowercase form is made of characters that stay. -/
theorem isSettled_of_mem_lowerCharBetween {before after : Text} {c x : Char}
    (h : x ∈ lowerCharBetween before c after) : IsSettled x := by
  rcases isSettled_or_isFormOf before c after with hc | ⟨y, hy, heq | heq⟩
  · rw [hc before after, List.mem_singleton] at h
    exact h ▸ hc
  · rw [heq, List.mem_singleton] at h
    exact h ▸ hy.settled
  · rw [heq, List.mem_cons, List.mem_singleton] at h
    rcases h with rfl | rfl
    · exact hy.settled
    · exact isSettled_combiningDot

/-- A lowercase form is part of words as the character was. -/
theorem isWordChar_of_mem_lowerCharBetween {before after : Text} {c x : Char}
    (h : x ∈ lowerCharBetween before c after) (hc : isWordChar c = true) : isWordChar x = true := by
  rcases isSettled_or_isFormOf before c after with hsettled | ⟨y, hy, heq | heq⟩
  · rw [hsettled before after, List.mem_singleton] at h
    exact h ▸ hc
  · rw [heq, List.mem_singleton] at h
    exact h ▸ hy.word hc
  · rw [heq, List.mem_cons, List.mem_singleton] at h
    rcases h with rfl | rfl
    · exact hy.word hc
    · decide +kernel

/-! ### Texts -/

namespace Text

theorem isSettled_of_mem_lowerAfter {before s : Text} {x : Char} (h : x ∈ lowerAfter before s) :
    IsSettled x := by
  induction s generalizing before with
  | nil => simp [lowerAfter] at h
  | cons c s ih =>
    rw [lowerAfter, List.mem_append] at h
    exact h.elim isSettled_of_mem_lowerCharBetween ih

theorem lowerAfter_of_isSettled {s : Text} (h : ∀ c ∈ s, IsSettled c) (before : Text) :
    lowerAfter before s = s := by
  induction s generalizing before with
  | nil => rfl
  | cons c s ih =>
    rw [List.forall_mem_cons] at h
    rw [lowerAfter, h.1, ih h.2, List.singleton_append]

/-- **Bringing a text down once is enough.** -/
theorem lower_lower (s : Text) : lower (lower s) = lower s :=
  lowerAfter_of_isSettled (fun _ => isSettled_of_mem_lowerAfter) []

end Text

end MergeMessage
