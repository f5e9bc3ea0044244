import Mathlib.Data.Nat.Notation
import MergeMessage.Text.Utf8

/-!
# Texts in files

A text that is written to a file is found there again: the octets of a character are read as that
character, whatever octets follow.  And the octets of a text complete nothing that was cut off before
them, as they start with an octet that continues no character.

## Main definitions

* `IsFresh` — octets that do not start within a character.

## Main results

* `text?_encode_append` — the octets of one character before others.
* `text?_octets` — the octets of a text stand for that text.
* `text?_octets_append`, `text?_append_octets` — the octets of a text before and behind others.
-/

namespace MergeMessage.Octets

/-! ### Octets that continue a character -/

theorem isContinuation_ofNat (n : ℕ) : isContinuation (UInt8.ofNat (n % 64 + 128)) = true := by
  simp only [isContinuation, Bool.and_eq_true, decide_eq_true_eq, UInt8.le_iff_toNat_le,
    UInt8.lt_iff_toNat_lt, UInt8.toNat_ofNat', UInt8.toNat_ofNat]
  omega

theorem continuation_ofNat (n : ℕ) : continuation (UInt8.ofNat (n % 64 + 128)) = n % 64 := by
  rw [continuation, UInt8.toNat_ofNat']
  omega

/-! ### Octets that start a character -/

theorem pair?_of_le {a : UInt8} (h : 0xE0 ≤ a.toNat) (b : UInt8) : pair? a b = none := by
  rw [pair?, if_neg]
  simp only [Bool.and_eq_true, decide_eq_true_eq, UInt8.lt_iff_toNat_lt, UInt8.toNat_ofNat]
  omega

theorem triple?_of_le {a : UInt8} (h : 0xF0 ≤ a.toNat) (b c : UInt8) : triple? a b c = none := by
  rw [triple?, if_neg]
  simp only [Bool.and_eq_true, decide_eq_true_eq, UInt8.lt_iff_toNat_lt, UInt8.toNat_ofNat]
  omega

theorem pair?_ofNat {n : ℕ} (hlow : 0x80 ≤ n) (hhigh : n < 0x800) :
    pair? (UInt8.ofNat (n / 64 % 32 + 192)) (UInt8.ofNat (n % 64 + 128)) =
      some (Char.ofNat n) := by
  rw [pair?, isContinuation_ofNat, continuation_ofNat, UInt8.toNat_ofNat', if_pos]
  · congr 2
    omega
  · simp only [Bool.and_true, Bool.and_eq_true, decide_eq_true_eq, UInt8.le_iff_toNat_le,
      UInt8.lt_iff_toNat_lt, UInt8.toNat_ofNat', UInt8.toNat_ofNat]
    omega

theorem triple?_ofNat {n : ℕ} (hlow : 0x800 ≤ n) (hhigh : n < 0x10000)
    (hscalar : n < 0xD800 ∨ 0xDFFF < n) :
    triple? (UInt8.ofNat (n / 4096 % 16 + 224)) (UInt8.ofNat (n / 64 % 64 + 128))
      (UInt8.ofNat (n % 64 + 128)) = some (Char.ofNat n) := by
  rw [triple?, isContinuation_ofNat, isContinuation_ofNat, continuation_ofNat, continuation_ofNat,
    UInt8.toNat_ofNat', if_pos]
  · have hn : ((n / 4096 % 16 + 224) % 2 ^ 8 - 0xE0) * 0x40 * 0x40 + n / 64 % 64 * 0x40 + n % 64 =
        n := by omega
    dsimp only
    rw [Nat.add_mul, hn, if_neg]
    simp only [Bool.or_eq_true, Bool.and_eq_true, decide_eq_true_eq]
    omega
  · simp only [Bool.and_true, Bool.and_eq_true, decide_eq_true_eq, UInt8.le_iff_toNat_le,
      UInt8.lt_iff_toNat_lt, UInt8.toNat_ofNat', UInt8.toNat_ofNat]
    omega

theorem quadruple?_ofNat {n : ℕ} (hlow : 0x10000 ≤ n) (hhigh : n < 0x110000) :
    quadruple? (UInt8.ofNat (n / 262144 % 8 + 240)) (UInt8.ofNat (n / 4096 % 64 + 128))
      (UInt8.ofNat (n / 64 % 64 + 128)) (UInt8.ofNat (n % 64 + 128)) = some (Char.ofNat n) := by
  rw [quadruple?, isContinuation_ofNat, isContinuation_ofNat, isContinuation_ofNat,
    continuation_ofNat, continuation_ofNat, continuation_ofNat, UInt8.toNat_ofNat', if_pos]
  · have hn : (((n / 262144 % 8 + 240) % 2 ^ 8 - 0xF0) * 0x40 * 0x40 + n / 4096 % 64 * 0x40) * 0x40
        + n / 64 % 64 * 0x40 + n % 64 = n := by omega
    dsimp only
    rw [Nat.add_mul, Nat.add_mul _ _ 0x40, hn, if_neg]
    simp only [Bool.or_eq_true, decide_eq_true_eq]
    omega
  · simp only [Bool.and_true, Bool.and_eq_true, decide_eq_true_eq, UInt8.le_iff_toNat_le,
      UInt8.lt_iff_toNat_lt, UInt8.toNat_ofNat', UInt8.toNat_ofNat]
    omega

/-! ### Texts -/

section

variable {a b c d : UInt8} {x : Char} (s : Octets)

theorem not_lt_of_le (h : 0x80 ≤ a.toNat) : ¬a < 0x80 := by
  have hlimit : (0x80 : UInt8).toNat = 0x80 := rfl
  rw [UInt8.lt_iff_toNat_lt, hlimit]
  omega

theorem text?_single (h : a.toNat < 0x80) :
    text? (a :: s) = (text? s).map (Char.ofNat a.toNat :: ·) := by
  have hlt : a < 0x80 := UInt8.lt_iff_toNat_lt.mpr h
  rw [text?.eq_def]
  simp only [hlt, if_true]

theorem text?_pair (h : 0x80 ≤ a.toNat) (hx : pair? a b = some x) :
    text? (a :: b :: s) = (text? s).map (x :: ·) := by
  rw [text?.eq_def]
  simp only [not_lt_of_le h, if_false, hx]

theorem text?_triple (h : 0xE0 ≤ a.toNat) (hx : triple? a b c = some x) :
    text? (a :: b :: c :: s) = (text? s).map (x :: ·) := by
  rw [text?.eq_def]
  simp only [not_lt_of_le (Nat.le_trans (by decide) h), if_false, pair?_of_le h, hx]

theorem text?_quadruple (h : 0xF0 ≤ a.toNat) (hx : quadruple? a b c d = some x) :
    text? (a :: b :: c :: d :: s) = (text? s).map (x :: ·) := by
  rw [text?.eq_def]
  simp only [not_lt_of_le (Nat.le_trans (by decide) h), if_false,
    pair?_of_le (Nat.le_trans (by decide) h), triple?_of_le h, hx]

end

/-- The octets of one character before others. -/
theorem text?_encode_append (x : Char) (s : Octets) :
    text? (String.utf8EncodeChar x ++ s) = (text? s).map (x :: ·) := by
  have hchar : Char.ofNat x.val.toNat = x := Char.ofNat_toNat x
  have hscalar : x.val.toNat < 0xD800 ∨ 0xDFFF < x.val.toNat ∧ x.val.toNat < 0x110000 := x.valid
  have hlead (n : ℕ) : (UInt8.ofNat n).toNat = n % 2 ^ 8 := UInt8.toNat_ofNat'
  -- one case for each number of octets
  unfold String.utf8EncodeChar
  dsimp only
  split
  · have heq : (UInt8.ofNat x.val.toNat).toNat = x.val.toNat := by
      rw [hlead]
      omega
    have hread := text?_single (a := UInt8.ofNat x.val.toNat) s (by omega)
    rwa [heq, hchar] at hread
  split
  · have hread := pair?_ofNat (n := x.val.toNat) (by omega) (by omega)
    rw [hchar] at hread
    exact text?_pair s (by rw [hlead]; omega) hread
  split
  · have hread := triple?_ofNat (n := x.val.toNat) (by omega) (by omega) (by omega)
    rw [hchar] at hread
    exact text?_triple s (by rw [hlead]; omega) hread
  · have hread := quadruple?_ofNat (n := x.val.toNat) (by omega) (by omega)
    rw [hchar] at hread
    exact text?_quadruple s (by rw [hlead]; omega) hread

/-- The octets of a text before others. -/
theorem text?_octets_append (t : Text) (s : Octets) :
    text? (Text.octets t ++ s) = (text? s).map (t ++ ·) := by
  induction t with
  | nil => simp [Text.octets]
  | cons c t ih =>
    rw [Text.octets, List.flatMap_cons, List.append_assoc, text?_encode_append, ← Text.octets, ih,
      Option.map_map]
    rfl

/-- **Texts in files.**  The octets of a text stand for that text. -/
theorem text?_octets (s : Text) : text? (Text.octets s) = some s := by
  simpa using text?_octets_append s []

/-! ### Characters that are cut off -/

/-- The octets do not start within a character. -/
def IsFresh (s : Octets) : Prop := ∀ b ∈ s.head?, isContinuation b = false

section

variable {a b c d : UInt8}

/-- A continuation octet is too small to start a sequence of several octets. -/
theorem lt_of_isContinuation (h : isContinuation a = true) : 0x80 ≤ a.toNat ∧ a.toNat < 0xC0 := by
  simpa [isContinuation, UInt8.le_iff_toNat_le, UInt8.lt_iff_toNat_lt] using h

theorem pair?_eq_none (h : isContinuation a = true ∨ isContinuation b = false) :
    pair? a b = none := by
  rw [pair?, if_neg]
  rcases h with h | h
  · have hlt := lt_of_isContinuation h
    simp only [Bool.and_eq_true, decide_eq_true_eq, UInt8.le_iff_toNat_le, UInt8.toNat_ofNat]
    omega
  · simp [h]

theorem triple?_eq_none
    (h : isContinuation a = true ∨ isContinuation b = false ∨ isContinuation c = false) :
    triple? a b c = none := by
  rw [triple?, if_neg]
  rcases h with h | h | h
  · have hlt := lt_of_isContinuation h
    simp only [Bool.and_eq_true, decide_eq_true_eq, UInt8.le_iff_toNat_le, UInt8.toNat_ofNat]
    omega
  · simp [h]
  · simp [h]

theorem quadruple?_eq_none
    (h : isContinuation a = true ∨ isContinuation b = false ∨ isContinuation c = false ∨
      isContinuation d = false) : quadruple? a b c d = none := by
  rw [quadruple?, if_neg]
  rcases h with h | h | h | h
  · have hlt := lt_of_isContinuation h
    simp only [Bool.and_eq_true, decide_eq_true_eq, UInt8.le_iff_toNat_le, UInt8.toNat_ofNat]
    omega
  · simp [h]
  · simp [h]
  · simp [h]

/-- Well formed octets do not start within a character. -/
theorem isFresh_of_text? {s : Octets} {t : Text} (h : text? s = some t) : IsFresh s := by
  intro a hhead
  obtain ⟨s, rfl⟩ := List.head?_eq_some_iff.mp hhead
  rw [Bool.eq_false_iff]
  intro hcont
  have ha : ¬a < 0x80 := not_lt_of_le (lt_of_isContinuation hcont).1
  rw [text?.eq_def] at h
  rcases s with - | ⟨b, - | ⟨c, - | ⟨d, s⟩⟩⟩ <;>
    simp [ha, pair?_eq_none, triple?_eq_none, quadruple?_eq_none, hcont] at h

variable {s : Octets}

theorem text?_cut_one (ha : ¬a < 0x80) (hs : IsFresh s) : text? (a :: s) = none := by
  rw [text?.eq_def]
  rcases s with - | ⟨b, - | ⟨c, - | ⟨d, s⟩⟩⟩
  · simp [ha]
  all_goals
    have hb : isContinuation b = false := hs b rfl
    simp [ha, pair?_eq_none, triple?_eq_none, quadruple?_eq_none, hb]

theorem text?_cut_two (ha : ¬a < 0x80) (hpair : pair? a b = none) (hs : IsFresh s) :
    text? (a :: b :: s) = none := by
  rw [text?.eq_def]
  rcases s with - | ⟨c, - | ⟨d, s⟩⟩
  · simp [ha, hpair]
  all_goals
    have hc : isContinuation c = false := hs c rfl
    simp [ha, hpair, triple?_eq_none, quadruple?_eq_none, hc]

theorem text?_cut_three (ha : ¬a < 0x80) (hpair : pair? a b = none) (htriple : triple? a b c = none)
    (hs : IsFresh s) : text? (a :: b :: c :: s) = none := by
  rw [text?.eq_def]
  rcases s with - | ⟨d, s⟩
  · simp [ha, hpair, htriple]
  · have hd : isContinuation d = false := hs d rfl
    simp [ha, hpair, htriple, quadruple?_eq_none, hd]

end

/-- **Well formed octets complete nothing**: behind others they add their text, if there is one. -/
theorem text?_append {tail : Octets} {t : Text} (h : text? tail = some t) (s : Octets) :
    text? (s ++ tail) = (text? s).map (· ++ t) := by
  have hfresh := isFresh_of_text? h
  have hmap (o : Option Text) (x : Char) :
      (o.map (· ++ t)).map (x :: ·) = (o.map (x :: ·)).map (· ++ t) := by
    simp [Option.map_map, Function.comp_def]
  -- along the characters; in the cases of one to three octets, one is cut off
  fun_induction text? s with
  | case1 => simpa using h
  | case2 a s ha ih => rw [List.cons_append, text?_single _ (UInt8.lt_iff_toNat_lt.mp ha), ih, hmap]
  | case3 a ha => exact text?_cut_one ha hfresh
  | case4 a ha b s x hx ih =>
    rw [List.cons_append, List.cons_append, text?.eq_def]
    simp only [ha, if_false, hx, ih, hmap]
  | case5 a ha b hpair => exact text?_cut_two ha hpair hfresh
  | case6 a ha b hpair c s x hx ih =>
    rw [List.cons_append, List.cons_append, List.cons_append, text?.eq_def]
    simp only [ha, if_false, hpair, hx, ih, hmap]
  | case7 a ha b hpair c htriple => exact text?_cut_three ha hpair htriple hfresh
  | case8 a ha b hpair c htriple d s x hx ih =>
    rw [List.cons_append, List.cons_append, List.cons_append, List.cons_append, text?.eq_def]
    simp only [ha, if_false, hpair, htriple, hx, ih, hmap]
  | case9 a ha b hpair c htriple d s hquadruple =>
    rw [List.cons_append, List.cons_append, List.cons_append, List.cons_append, text?.eq_def]
    simp only [ha, if_false, hpair, htriple, hquadruple, Option.map_none]

/-- The octets of a text behind others. -/
theorem text?_append_octets (s : Octets) (t : Text) :
    text? (s ++ Text.octets t) = (text? s).map (· ++ t) :=
  text?_append (text?_octets t) s

end MergeMessage.Octets
