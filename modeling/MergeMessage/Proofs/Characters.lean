import Mathlib
import MergeMessage.Text.Alphabetic
import MergeMessage.Text.Blank

/-!
# Classes of characters

The classes that the readers look at, as ranges of code points.  With the ranges at hand, that
one class lies in another or apart from it is arithmetic.

## Main results

* `isUpper_iff`, `isLower_iff`, `isDigit_iff`, `isBlank_iff` — the ranges.
* `isWordChar_of_isUpper`, `isWordChar_of_isDigit` — ticket ids start and end as words do.
-/

namespace MergeMessage

/-! ### ASCII letters and digits -/

/-- What holds of the first characters one by one holds of each of them. -/
@[elab_as_elim]
theorem forall_of_toNat_lt {motive : Char → Prop} {b : Nat} (h : ∀ n < b, motive (Char.ofNat n))
    (c : Char) (hc : c.toNat < b) : motive c := by
  have hmotive := h c.toNat hc
  rwa [Char.ofNat_toNat] at hmotive

theorem isUpper_iff {c : Char} : c.isUpper = true ↔ 65 ≤ c.toNat ∧ c.toNat ≤ 90 := by
  simp [Char.isUpper, UInt32.le_iff_toNat_le, ← Char.toNat_val]

theorem isUpper_eq_false_iff {c : Char} : c.isUpper = false ↔ c.toNat < 65 ∨ 90 < c.toNat := by
  rw [Bool.eq_false_iff, ne_eq, isUpper_iff]
  omega

theorem isLower_iff {c : Char} : c.isLower = true ↔ 97 ≤ c.toNat ∧ c.toNat ≤ 122 := by
  simp [Char.isLower, UInt32.le_iff_toNat_le, ← Char.toNat_val]

theorem isDigit_iff {c : Char} : c.isDigit = true ↔ 48 ≤ c.toNat ∧ c.toNat ≤ 57 := by
  simp [Char.isDigit, UInt32.le_iff_toNat_le, ← Char.toNat_val]

theorem isUpper_of_isLower {c : Char} (h : c.isLower = true) : c.isUpper = false :=
  Bool.eq_false_iff.mpr (Char.not_isUpper_of_isLower h)

/-! ### Blank characters -/

theorem isBlank_iff {c : Char} :
    isBlank c = true ↔ 9 ≤ c.toNat ∧ c.toNat ≤ 13 ∨ c.toNat = 32 ∨ c.toNat = 0x85 ∨
      c.toNat = 0xA0 ∨ c.toNat = 0x1680 ∨ 0x2000 ≤ c.toNat ∧ c.toNat ≤ 0x200A ∨
      c.toNat = 0x2028 ∨ c.toNat = 0x2029 ∨ c.toNat = 0x202F ∨ c.toNat = 0x205F ∨
      c.toNat = 0x3000 := by
  unfold isBlank blankPoints
  simp only [CodePoints.contains_cons, CodePoints.contains_nil, Bool.and_eq_true,
    Bool.not_eq_true', decide_eq_false_iff_not, decide_eq_true_eq, Bool.and_eq_false_iff,
    Bool.not_eq_false', Bool.not_false, Bool.true_eq_false, or_false]
  omega

/-- The code points of the blank characters, one by one. -/
def blankCodes : List ℕ :=
  List.range' 9 5 ++ List.range' 0x2000 11 ++
    [0x20, 0x85, 0xA0, 0x1680, 0x2028, 0x2029, 0x202F, 0x205F, 0x3000]

theorem toNat_mem_blankCodes {c : Char} (h : isBlank c = true) : c.toNat ∈ blankCodes := by
  rw [isBlank_iff] at h
  simp [blankCodes]
  omega

/-- A letter or a digit is not blank. -/
theorem isBlank_of_isAlphanum {c : Char} (h : c.isAlphanum = true) : isBlank c = false := by
  rw [Char.isAlphanum, Char.isAlpha, Bool.or_eq_true, Bool.or_eq_true, isUpper_iff, isLower_iff,
    isDigit_iff] at h
  rw [Bool.eq_false_iff, ne_eq, isBlank_iff]
  omega

theorem isBlank_of_isLower {c : Char} (h : c.isLower = true) : isBlank c = false :=
  isBlank_of_isAlphanum (by simp [Char.isAlphanum, Char.isAlpha, h])

/-- A letter is not blank. -/
theorem isBlank_of_isAlphabetic {c : Char} (h : isAlphabetic c = true) : isBlank c = false := by
  have hcodes : ∀ n ∈ blankCodes, alphabeticPoints.contains n = false := by decide +kernel
  rw [Bool.eq_false_iff]
  intro hblank
  rw [isAlphabetic, hcodes _ (toNat_mem_blankCodes hblank)] at h
  simp at h

/-! ### Letters of any script -/

theorem isAlphabetic_of_isLower {c : Char} (h : c.isLower = true) : isAlphabetic c = true := by
  rw [isLower_iff] at h
  have hpoints : alphabeticPoints = 0x41 :: 0x5B :: 0x61 :: 0x7B :: alphabeticPoints.drop 4 := rfl
  rw [isAlphabetic, hpoints, CodePoints.contains_cons, CodePoints.contains_cons,
    CodePoints.contains_cons, CodePoints.contains_of_lt (by omega)]
  simp
  omega

/-! ### Word characters -/

theorem isWordChar_of_isUpper {c : Char} (h : c.isUpper = true) : isWordChar c = true := by
  rw [isUpper_iff] at h
  have halpha : alphabeticPoints = 0x41 :: 0x5B :: alphabeticPoints.drop 2 := rfl
  have hnew : newAlphabeticPoints = 0x88F :: newAlphabeticPoints.drop 1 := rfl
  refine isWordChar_of_isAlphabetic ?_ ?_
  · rw [isAlphabetic, halpha, CodePoints.contains_cons, CodePoints.contains_of_lt (by omega)]
    simp
    omega
  · rw [hnew, CodePoints.contains_of_lt (by omega)]

theorem isWordChar_of_isDigit {c : Char} (h : c.isDigit = true) : isWordChar c = true := by
  rw [isDigit_iff] at h
  have hmark : wordMarkPoints = 0x30 :: 0x3A :: wordMarkPoints.drop 2 := rfl
  rw [isWordChar, hmark, CodePoints.contains_cons, CodePoints.contains_of_lt (by omega)]
  simp
  omega

end MergeMessage
