import MergeMessage.Commit.Subject
import MergeMessage.Proofs.Characters
import MergeMessage.Text.LetterCase

/-!
# Lowercase forms

Far from ASCII there are well over a thousand capitals, but their lowercase forms are far from
ASCII as well.  A capital of ASCII becomes the small letter; the Kelvin sign becomes a plain k, and
the capital I with dot an i with a combining dot.

## Main definitions

* `LowerRun.IsFar` — a run of the table that leads from beyond ASCII to beyond ASCII.
* `LowersTo` — what may stand for a character in a lowercase form.
* `becomesKebab` — a character whose lowercase form can stand in a scope.

## Main results

* `lowerCharBetween_cases` — what a character becomes.
* `Text.forall_isKebab_lower_iff` — when a lowercase form is in kebab case.
-/

namespace MergeMessage

/-! ### The table -/

/-- Neither the characters of the run nor their lowercase forms are ASCII, and no form is blank:
the forms lie between two neighbouring blocks of blank characters. -/
def LowerRun.IsFar (r : LowerRun) : Prop :=
  0xC0 ≤ r.first ∧ 0xDF ≤ r.first + r.offset ∧
    (r.last + r.offset < 0x1680 ∨
      0x1680 < r.first + r.offset ∧ r.last + r.offset < 0x2000 ∨
      0x205F < r.first + r.offset ∧ r.last + r.offset < 0x3000 ∨
      0x3000 < r.first + r.offset ∧ r.last + r.offset < 0xD800 ∨
      0xDFFF < r.first + r.offset ∧ r.last + r.offset < 0x110000)

instance : DecidablePred LowerRun.IsFar := fun _ => inferInstanceAs (Decidable (_ ∧ _ ∧ _))

/-- **The table in short.**  The capitals of ASCII and the Kelvin sign are the only characters with
a lowercase form in ASCII alone. -/
theorem lowerRuns_cases : ∀ r ∈ lowerRuns,
    (r.first = 0x41 ∧ r.last = 0x5A ∧ r.offset = 32) ∨
    (r.first = 0x212A ∧ r.last = 0x212A ∧ r.offset = 0x6B - 0x212A) ∨ r.IsFar := by
  decide +kernel

theorem lower?_eq_some {r : LowerRun} {n m : ℕ} (h : r.lower? n = some m) :
    r.first ≤ n ∧ n ≤ r.last ∧ m = (n + r.offset).toNat := by
  unfold LowerRun.lower? at h
  split at h
  · next hn =>
    simp only [Bool.and_eq_true, decide_eq_true_eq] at hn
    exact ⟨hn.1.1, hn.1.2, (Option.some.inj h).symm⟩
  · simp at h

theorem findSome?_lowerRuns_of_upper {n : ℕ} (h : 0x41 ≤ n ∧ n ≤ 0x5A) :
    lowerRuns.findSome? (·.lower? n) = some (n + 32) := by
  have hruns : lowerRuns = ⟨0x41, 0x5A, 1, 32⟩ :: lowerRuns.drop 1 := rfl
  have hlower : LowerRun.lower? ⟨0x41, 0x5A, 1, 32⟩ n = some (n + 32) := by
    simp [LowerRun.lower?, h, Nat.mod_one]
    omega
  rw [hruns, List.findSome?_cons, hlower]

theorem findSome?_lowerRuns_kelvin : lowerRuns.findSome? (·.lower? 0x212A) = some 0x6B := by
  decide +kernel

/-- What a capital letter, the Kelvin sign and another character with a form of its own become. -/
theorem findSome?_lowerRuns_cases {n m : ℕ} (h : lowerRuns.findSome? (·.lower? n) = some m) :
    (0x41 ≤ n ∧ n ≤ 0x5A ∧ m = n + 32) ∨ (n = 0x212A ∧ m = 0x6B) ∨
      (0xC0 ≤ n ∧ n ≠ 0x212A ∧ 0xDF ≤ m ∧ m.isValidChar ∧ isBlank (Char.ofNat m) = false) := by
  -- the Kelvin sign first: as far as their ends go, other runs might hold it too
  by_cases hkelvin : n = 0x212A
  · rw [hkelvin, findSome?_lowerRuns_kelvin] at h
    exact Or.inr (Or.inl ⟨hkelvin, (Option.some.inj h).symm⟩)
  obtain ⟨r, hr, hm⟩ := List.exists_of_findSome?_eq_some h
  obtain ⟨hfirst, hlast, rfl⟩ := lower?_eq_some hm
  rcases lowerRuns_cases r hr with ⟨hf, hl, ho⟩ | ⟨hf, hl, ho⟩ | hfar
  · exact Or.inl (by omega)
  · omega
  · obtain ⟨hge, hform, hzone⟩ := hfar
    have hvalid : (n + r.offset).toNat.isValidChar := by
      unfold Nat.isValidChar
      omega
    refine Or.inr (Or.inr ⟨by omega, hkelvin, by omega, hvalid, ?_⟩)
    rw [Bool.eq_false_iff, ne_eq, isBlank_iff, Char.toNat_ofNat, if_pos hvalid]
    omega

/-! ### Characters -/

/-- **What a character becomes.**  A capital of ASCII becomes the small letter, the Kelvin sign a k,
and the capital I with dot two characters; any other character stays, or is turned from one
character beyond ASCII into another, which is not blank. -/
theorem lowerCharBetween_cases (before : Text) (c : Char) (after : Text) :
    (c.isUpper = true ∧ lowerCharBetween before c after = [c.toLower]) ∨
    (c.toNat = 0x212A ∧ lowerCharBetween before c after = ['k']) ∨
    (c.toNat = 0x130 ∧ lowerCharBetween before c after = ['i', Char.ofNat 0x307]) ∨
    (c.isUpper = false ∧ c.toNat ≠ 0x212A ∧ ∃ x, lowerCharBetween before c after = [x] ∧
      (x = c ∨ 0xC0 ≤ c.toNat ∧ 0xDF ≤ x.toNat ∧ isBlank x = false)) := by
  have hupper : 0xC0 ≤ c.toNat → c.isUpper = false := by
    intro h
    exact isUpper_eq_false_iff.mpr (by omega)
  unfold lowerCharBetween
  split
  · next hsigma =>
    -- a capital sigma has two forms, and neither is ASCII
    refine Or.inr (Or.inr (Or.inr ⟨hupper (by omega), by omega, ?_⟩))
    split
    · exact ⟨_, rfl, Or.inr ⟨by omega, by decide, by decide⟩⟩
    · exact ⟨_, rfl, Or.inr ⟨by omega, by decide, by decide⟩⟩
  unfold lowerChar
  split
  · next hdot => exact Or.inr (Or.inr (Or.inl ⟨hdot, rfl⟩))
  split
  · next m hm =>
    -- the table has a form
    rcases findSome?_lowerRuns_cases hm with ⟨hge, hle, rfl⟩ | ⟨hk, rfl⟩ | ⟨hge, hk, hm, hv, hb⟩
    · have hc : c.isUpper = true := isUpper_iff.mpr ⟨hge, hle⟩
      exact Or.inl ⟨hc, by rw [Char.toLower_eq_of_isUpper hc]⟩
    · exact Or.inr (Or.inl ⟨hk, rfl⟩)
    · refine Or.inr (Or.inr (Or.inr ⟨hupper hge, hk, _, rfl, Or.inr ⟨hge, ?_, hb⟩⟩))
      rw [Char.toNat_ofNat, if_pos hv]
      exact hm
  · next hnone =>
    -- the table has none, but it has one for the capitals of ASCII and the Kelvin sign
    refine Or.inr (Or.inr (Or.inr ⟨?_, ?_, c, rfl, Or.inl rfl⟩))
    · rw [Bool.eq_false_iff, ne_eq, isUpper_iff]
      intro hc
      rw [findSome?_lowerRuns_of_upper hc] at hnone
      simp at hnone
    · intro hk
      rw [hk, findSome?_lowerRuns_kelvin] at hnone
      simp at hnone

theorem lowerCharBetween_ne_nil (before : Text) (c : Char) (after : Text) :
    lowerCharBetween before c after ≠ [] := by
  rcases lowerCharBetween_cases before c after with ⟨-, h⟩ | ⟨-, h⟩ | ⟨-, h⟩ | ⟨-, -, x, h, -⟩ <;>
    simp [h]

/-- What may stand for `c` in a lowercase form: the character itself, a small letter or a character
beyond ASCII that is not blank. -/
def LowersTo (c x : Char) : Prop :=
  x = c ∨ x.isLower = true ∨ 0xDF ≤ x.toNat ∧ isBlank x = false

theorem LowersTo.not_blank {c x : Char} (h : LowersTo c x) (hc : isBlank c = false) :
    isBlank x = false := by
  rcases h with rfl | hx | ⟨-, hx⟩
  · exact hc
  · exact isBlank_of_isLower hx
  · exact hx

/-- A mark of ASCII stands for itself only. -/
theorem LowersTo.eq_of_mark {c x : Char} (h : LowersTo c x) (hlower : x.isLower = false)
    (hx : x.toNat < 0xDF) : x = c := by
  rcases h with rfl | hx' | ⟨hx', -⟩
  · rfl
  · simp [hx'] at hlower
  · omega

theorem lowersTo_of_mem {before after : Text} {c x : Char}
    (h : x ∈ lowerCharBetween before c after) : LowersTo c x := by
  rcases lowerCharBetween_cases before c after with
    ⟨hc, heq⟩ | ⟨-, heq⟩ | ⟨-, heq⟩ | ⟨-, -, y, heq, hy⟩
  · obtain rfl := List.mem_singleton.mp (heq ▸ h)
    exact Or.inr (Or.inl (by simp [Char.isAlpha, hc]))
  · obtain rfl := List.mem_singleton.mp (heq ▸ h)
    exact Or.inr (Or.inl rfl)
  · rw [heq, List.mem_cons, List.mem_singleton] at h
    rcases h with rfl | rfl
    · exact Or.inr (Or.inl rfl)
    · exact Or.inr (Or.inr ⟨by decide, by decide⟩)
  · obtain rfl := List.mem_singleton.mp (heq ▸ h)
    rcases hy with rfl | ⟨-, hge, hblank⟩
    · exact Or.inl rfl
    · exact Or.inr (Or.inr ⟨hge, hblank⟩)

/-- A lowercase form has no capitals of ASCII. -/
theorem not_isUpper_of_mem_lowerCharBetween {before after : Text} {c x : Char}
    (h : x ∈ lowerCharBetween before c after) : x.isUpper = false := by
  rcases lowerCharBetween_cases before c after with
    ⟨hc, heq⟩ | ⟨-, heq⟩ | ⟨-, heq⟩ | ⟨hc, -, y, heq, hy⟩
  · obtain rfl := List.mem_singleton.mp (heq ▸ h)
    exact isUpper_of_isLower (by simp [Char.isAlpha, hc])
  · obtain rfl := List.mem_singleton.mp (heq ▸ h)
    decide
  · rw [heq, List.mem_cons, List.mem_singleton] at h
    rcases h with rfl | rfl
    · decide
    · decide
  · obtain rfl := List.mem_singleton.mp (heq ▸ h)
    rcases hy with rfl | ⟨-, hge, -⟩
    · exact hc
    · exact isUpper_eq_false_iff.mpr (by omega)

/-- The lowercase form of a character starts with one that stands for it. -/
theorem exists_lowerCharBetween_cons (before : Text) (c : Char) (after : Text) :
    ∃ x t, lowerCharBetween before c after = x :: t ∧ LowersTo c x := by
  obtain ⟨x, t, hx⟩ := List.exists_cons_of_ne_nil (lowerCharBetween_ne_nil before c after)
  exact ⟨x, t, hx, lowersTo_of_mem (by rw [hx]; exact List.mem_cons_self)⟩

/-- At the front of a text, a character becomes what it becomes on its own. -/
theorem lowerCharBetween_nil (c : Char) (after : Text) :
    lowerCharBetween [] c after = lowerChar c := by
  unfold lowerCharBetween
  split
  · next hsigma =>
    have hform : lowerRuns.findSome? (·.lower? 0x3A3) = some 0x3C3 := by decide +kernel
    rw [lowerChar, hsigma, hform]
    rfl
  · rfl

/-- On its own, a character stands between empty texts. -/
theorem lowerChar_eq (c : Char) : lowerChar c = lowerCharBetween [] c [] :=
  (lowerCharBetween_nil c []).symm

/-- On the letters of ASCII, lowercase is what the standard library says it is. -/
theorem lowerCharBetween_of_isAlpha {c : Char} (h : c.isAlpha = true) (before after : Text) :
    lowerCharBetween before c after = [c.toLower] := by
  have hrange : c.toNat < 0x80 := by
    rw [Char.isAlpha, Bool.or_eq_true, isUpper_iff, isLower_iff] at h
    omega
  rcases lowerCharBetween_cases before c after with
    ⟨-, heq⟩ | ⟨hc, -⟩ | ⟨hc, -⟩ | ⟨hc, -, x, heq, rfl | ⟨hge, -⟩⟩
  · exact heq
  · omega
  · omega
  · rw [heq, Char.toLower_eq_of_not_isUpper (by simp [hc])]
  · omega

/-- A character of ASCII that is no capital is its own lowercase form. -/
theorem lowerCharBetween_of_lt {c : Char} (h : c.toNat < 0x80) (hupper : c.isUpper = false)
    (before after : Text) : lowerCharBetween before c after = [c] := by
  rcases lowerCharBetween_cases before c after with
    ⟨hc, -⟩ | ⟨hc, -⟩ | ⟨hc, -⟩ | ⟨-, -, x, heq, rfl | ⟨hge, -⟩⟩
  · simp [hupper] at hc
  · omega
  · omega
  · exact heq
  · omega

theorem isUppercase_of_isLower {c : Char} (h : c.isLower = true) : isUppercase c = false := by
  rw [isLower_iff] at h
  have hpoints : uppercasePoints = 0x41 :: 0x5B :: 0xC0 :: uppercasePoints.drop 3 := rfl
  rw [isUppercase, hpoints, CodePoints.contains_cons, CodePoints.contains_cons,
    CodePoints.contains_of_lt (by omega)]
  simp
  omega

/-! ### Kebab case -/

open Commit

/-- Is the lowercase form of the character made of characters that can stand in a scope?  The
Kelvin sign is a form of the letter k. -/
def becomesKebab (c : Char) : Bool := isKebab c || c.isUpper || c.toNat == 0x212A

/-- Characters in kebab case are ASCII. -/
theorem isKebab_of_ge {c : Char} (h : 0x80 ≤ c.toNat) : isKebab c = false := by
  have hlower : c.isLower = false := by
    rw [Bool.eq_false_iff, ne_eq, isLower_iff]
    omega
  have hdigit : c.isDigit = false := by
    rw [Bool.eq_false_iff, ne_eq, isDigit_iff]
    omega
  have hne : c ≠ '-' := by
    rintro rfl
    simp at h
  simp [isKebab, hlower, hdigit, hne]

theorem forall_isKebab_lowerCharBetween_iff {before after : Text} {c : Char} :
    (∀ x ∈ lowerCharBetween before c after, isKebab x = true) ↔ becomesKebab c = true := by
  rcases lowerCharBetween_cases before c after with
    ⟨hc, heq⟩ | ⟨hc, heq⟩ | ⟨hc, heq⟩ | ⟨hc, hk, x, heq, rfl | ⟨hge, hx, -⟩⟩
  · simp [heq, becomesKebab, hc, isKebab, Char.isAlpha]
  · have hkebab : isKebab 'k' = true := by decide
    simp [heq, becomesKebab, hc, hkebab]
  · have hupper : c.isUpper = false := isUpper_eq_false_iff.mpr (by omega)
    have hdot : isKebab (Char.ofNat 0x307) = false := by decide
    simp [heq, becomesKebab, hc, hupper, isKebab_of_ge (c := c) (by omega), hdot]
  · simp [heq, becomesKebab, hc, hk]
  · simp [heq, becomesKebab, hc, hk, isKebab_of_ge (c := c) (by omega),
      isKebab_of_ge (c := x) (by omega)]

/-! ### Texts -/

namespace Text

theorem exists_lowersTo_of_mem_lowerAfter {before s : Text} {x : Char}
    (h : x ∈ lowerAfter before s) : ∃ c ∈ s, LowersTo c x := by
  induction s generalizing before with
  | nil => simp [lowerAfter] at h
  | cons c s ih =>
    rw [lowerAfter, List.mem_append] at h
    rcases h with h | h
    · exact ⟨c, List.mem_cons_self, lowersTo_of_mem h⟩
    · obtain ⟨d, hd, hx⟩ := ih h
      exact ⟨d, List.mem_cons_of_mem c hd, hx⟩

theorem not_isUpper_of_mem_lowerAfter {before s : Text} {x : Char} (h : x ∈ lowerAfter before s) :
    x.isUpper = false := by
  induction s generalizing before with
  | nil => simp [lowerAfter] at h
  | cons c s ih =>
    rw [lowerAfter, List.mem_append] at h
    exact h.elim not_isUpper_of_mem_lowerCharBetween ih

/-- Every character of a text is stood for in the lowercase form. -/
theorem exists_mem_lowerAfter {s : Text} {c : Char} (h : c ∈ s) (before : Text) :
    ∃ x ∈ lowerAfter before s, LowersTo c x := by
  induction s generalizing before with
  | nil => simp at h
  | cons d s ih =>
    rw [lowerAfter]
    rcases List.mem_cons.mp h with rfl | h
    · obtain ⟨x, t, hx, hlow⟩ := exists_lowerCharBetween_cons before c s
      exact ⟨x, by simp [hx], hlow⟩
    · obtain ⟨x, hx, hlow⟩ := ih h (d :: before)
      exact ⟨x, List.mem_append_right _ hx, hlow⟩

theorem lowerAfter_eq_map {s : Text} (h : ∀ c ∈ s, c.isAlpha = true) (before : Text) :
    lowerAfter before s = s.map Char.toLower := by
  induction s generalizing before with
  | nil => rfl
  | cons c s ih =>
    rw [lowerAfter, lowerCharBetween_of_isAlpha (h c List.mem_cons_self),
      ih fun d hd => h d (List.mem_cons_of_mem c hd)]
    rfl

theorem lowerAfter_eq_self {s : Text} (h : ∀ c ∈ s, c.toNat < 0x80 ∧ c.isUpper = false)
    (before : Text) : lowerAfter before s = s := by
  induction s generalizing before with
  | nil => rfl
  | cons c s ih =>
    rw [List.forall_mem_cons] at h
    rw [lowerAfter, lowerCharBetween_of_lt h.1.1 h.1.2, ih h.2, List.singleton_append]

theorem lower_eq_nil_iff {s : Text} : lower s = [] ↔ s = [] := by
  cases s with
  | nil => simp [lower, lowerAfter]
  | cons c s => simp [lower, lowerAfter, lowerCharBetween_ne_nil]

theorem forall_isKebab_lowerAfter_iff {before s : Text} :
    (∀ x ∈ lowerAfter before s, isKebab x = true) ↔ ∀ c ∈ s, becomesKebab c = true := by
  induction s generalizing before with
  | nil => simp [lowerAfter]
  | cons c s ih =>
    rw [lowerAfter, List.forall_mem_append, forall_isKebab_lowerCharBetween_iff, ih,
      List.forall_mem_cons]

/-- **When a lowercase form is in kebab case.**  Every character must have a form in kebab case on
its own; what stands around it makes no difference. -/
theorem forall_isKebab_lower_iff {s : Text} :
    (∀ x ∈ lower s, isKebab x = true) ↔ ∀ c ∈ s, becomesKebab c = true :=
  forall_isKebab_lowerAfter_iff

end Text

end MergeMessage
