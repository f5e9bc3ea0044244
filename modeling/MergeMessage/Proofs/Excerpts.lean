import MergeMessage.Proofs.Characters
import MergeMessage.Proofs.Octets
import MergeMessage.Text.Excerpt

/-!
# What an excerpt tells

A long text is cut behind a number of characters.  In octets, this is where the next character
starts, so no character is split.  The note behind the cut speaks of characters but tells the number
of octets that are missing, and these are as many only if the missing characters are all of ASCII.

## Main definitions

* `offset?` — the place of a character, counted in octets.
* `cutNote` — the note that something is left out.
* `characterExcerpt` — a text, or its start with a note that counts characters.

## Main results

* `octetCount_eq_length_iff` — when there are as many octets as characters.
* `excerpt_eq_self_iff` — when an excerpt is the text itself.
* `excerpt_counts_characters_iff` — what an excerpt is, and when its note counts characters.
-/

namespace MergeMessage.Text

/-! ### Octets and characters -/

theorem octets_append (s t : Text) : octets (s ++ t) = octets s ++ octets t :=
  List.flatMap_append

theorem octets_take_append_drop (n : ℕ) (s : Text) :
    octets (s.take n) ++ octets (s.drop n) = octets s := by
  rw [← octets_append, List.take_append_drop]

theorem length_octets (s : Text) : (octets s).length = octetCount s := by
  induction s with
  | nil => rfl
  | cons c s ih =>
    rw [octets, List.flatMap_cons, List.length_append, String.length_utf8EncodeChar, ← octets, ih,
      octetCount_cons]

/-- A character takes at least one octet. -/
theorem length_le_octetCount (s : Text) : s.length ≤ octetCount s := by
  induction s with
  | nil => exact Nat.le_refl 0
  | cons c s ih =>
    have hpos : 0 < c.utf8Size := c.utf8Size_pos
    rw [List.length_cons, octetCount_cons]
    omega

/-- A character takes at most four octets. -/
theorem octetCount_le (s : Text) : octetCount s ≤ 4 * s.length := by
  induction s with
  | nil => exact Nat.le_refl 0
  | cons c s ih =>
    have hfour : c.utf8Size ≤ 4 := c.utf8Size_le_four
    rw [List.length_cons, octetCount_cons]
    omega

theorem utf8Size_eq_one_iff {c : Char} : c.utf8Size = 1 ↔ c.toNat < 0x80 := by
  rw [Char.utf8Size_eq_one_iff, UInt32.le_iff_toNat_le, Char.toNat_val]
  exact Nat.lt_succ_iff.symm

/-- **There are as many octets as characters** exactly if all characters are of ASCII. -/
theorem octetCount_eq_length_iff {s : Text} :
    octetCount s = s.length ↔ ∀ c ∈ s, c.toNat < 0x80 := by
  induction s with
  | nil => simp
  | cons c s ih =>
    -- neither the character nor the rest makes up for the other, as no character takes less than one
    have hpos : 0 < c.utf8Size := c.utf8Size_pos
    have hle : s.length ≤ octetCount s := length_le_octetCount s
    rw [List.forall_mem_cons, ← ih, ← utf8Size_eq_one_iff, octetCount_cons, List.length_cons]
    omega

/-! ### Where a character starts -/

/-- The number of octets before the character at the place `n`, if there is one. -/
def offset? : ℕ → Text → Option ℕ
  | _, [] => none
  | 0, _ :: _ => some 0
  | n + 1, c :: s => (offset? n s).map (c.utf8Size + ·)

theorem offset?_eq (n : ℕ) (s : Text) :
    offset? n s = if n < s.length then some (octetCount (s.take n)) else none := by
  fun_induction offset? n s with
  | case1 => simp
  | case2 => simp
  | case3 n c s ih =>
    rw [ih]
    by_cases h : n < s.length <;> simp [h]

/-- The octets before a character are those of the characters before it. -/
theorem take_octets (n : ℕ) (s : Text) :
    (octets s).take (octetCount (s.take n)) = octets (s.take n) := by
  rw [← octets_take_append_drop n s, List.take_left' (length_octets _)]

theorem drop_octets (n : ℕ) (s : Text) :
    (octets s).drop (octetCount (s.take n)) = octets (s.drop n) := by
  rw [← octets_take_append_drop n s, List.drop_left' (length_octets _)]

/-! ### The note -/

/-- The note that something is left out, which tells a number. -/
def cutNote (count : ℕ) : Text :=
  "...\n[truncated ".toList ++ ofNat count ++ " chars]".toList

theorem ofNat_injective : Function.Injective ofNat := by
  intro m n h
  calc
    m = Nat.ofDigitChars 10 (ofNat m) 0 := Nat.ofDigitChars_ten_toDigits.symm
    _ = Nat.ofDigitChars 10 (ofNat n) 0 := by rw [h]
    _ = n := Nat.ofDigitChars_ten_toDigits

/-- The number can be read off the note. -/
theorem cutNote_injective : Function.Injective cutNote := by
  intro m n h
  unfold cutNote at h
  rw [List.append_left_inj, List.append_right_inj] at h
  exact ofNat_injective h

theorem toNat_lt_of_mem_cutNote {count : ℕ} {c : Char} (h : c ∈ cutNote count) :
    c.toNat < 0x80 := by
  have hbefore : ∀ c ∈ "...\n[truncated ".toList, c.toNat < 0x80 := by simp
  have hbehind : ∀ c ∈ " chars]".toList, c.toNat < 0x80 := by simp
  unfold cutNote at h
  rcases List.mem_append.mp h with h | h
  · rcases List.mem_append.mp h with h | h
    · exact hbefore c h
    · have hdigit : c.isDigit = true := Nat.isDigit_of_mem_toDigits (by decide) (by decide) h
      exact Nat.lt_of_le_of_lt (isDigit_iff.mp hdigit).2 (by decide)
  · exact hbehind c h

theorem octetCount_cutNote (count : ℕ) :
    octetCount (cutNote count) = 22 + (ofNat count).length := by
  have hascii : ∀ c ∈ cutNote count, c.toNat < 0x80 := fun c hc => toNat_lt_of_mem_cutNote hc
  have hends : "...\n[truncated ".toList.length = 15 ∧ " chars]".toList.length = 7 := by decide
  rw [octetCount_eq_length_iff.mpr hascii]
  unfold cutNote
  rw [List.length_append, List.length_append, hends.1, hends.2]
  omega

/-- One note tells the number of its own octets. -/
theorem octetCount_cutNote_eq_iff {count : ℕ} :
    octetCount (cutNote count) = count ↔ count = 24 := by
  rw [octetCount_cutNote]
  constructor
  · intro hcount
    have hpos : 0 < (ofNat count).length := Nat.length_toDigits_pos
    have hlt : count < 10 ^ (ofNat count).length :=
      (Nat.length_toDigits_le_iff (by decide) hpos).mp (Nat.le_refl _)
    -- with one digit the note is too long for its number, with more than two it is too short
    generalize hdigits : (ofNat count).length = digits at hcount hpos hlt
    match digits with
    | 1 => omega
    | 2 => omega
    | digits + 3 =>
      have hmany : 10 ^ (digits + 2) ≤ count := by
        refine Nat.not_lt.mp fun h => ?_
        have hfew : (ofNat count).length ≤ digits + 2 :=
          (Nat.length_toDigits_le_iff (by decide) (by omega)).mpr h
        omega
      have hpow : digits < 10 ^ digits := Nat.lt_pow_self (by decide)
      rw [Nat.pow_add] at hmany
      omega
  · rintro rfl
    rfl

/-! ### Excerpts -/

theorem excerpt_of_le {limit : ℕ} {s : Text} (h : s.length ≤ limit) : excerpt limit s = s := by
  rw [excerpt, List.drop_eq_nil_of_le h]

theorem excerpt_of_lt {limit : ℕ} {s : Text} (h : limit < s.length) :
    excerpt limit s = s.take limit ++ cutNote (octetCount (s.drop limit)) := by
  have hrest : s.drop limit ≠ [] := mt List.drop_eq_nil_iff.mp (Nat.not_le.mpr h)
  obtain ⟨c, rest, hrest⟩ := List.exists_cons_of_ne_nil hrest
  unfold excerpt cutNote
  rw [hrest]
  simp only [List.append_assoc]

/-- **An excerpt is the text itself** if nothing is left out, and else only if what is left out is
the note that tells the number of its own octets. -/
theorem excerpt_eq_self_iff {limit : ℕ} {s : Text} :
    excerpt limit s = s ↔ s.length ≤ limit ∨ s.drop limit = cutNote 24 := by
  rcases Nat.lt_or_ge limit s.length with h | h
  · have hself : excerpt limit s = s.take limit ++ s.drop limit ↔
        cutNote (octetCount (s.drop limit)) = s.drop limit := by
      rw [excerpt_of_lt h, List.append_right_inj]
    rw [List.take_append_drop] at hself
    rw [hself, or_iff_right (Nat.not_le.mpr h)]
    constructor
    · intro hrest
      have hcount : octetCount (s.drop limit) = 24 :=
        octetCount_cutNote_eq_iff.mp (congrArg octetCount hrest)
      exact hrest.symm.trans (congrArg cutNote hcount)
    · intro hrest
      rw [hrest, octetCount_cutNote_eq_iff.mpr rfl]
  · exact iff_of_true (excerpt_of_le h) (.inl h)

/-- No excerpt can be told from a text that ends in this note. -/
example : excerpt 1 "a...\n[truncated 24 chars]".toList = "a...\n[truncated 24 chars]".toList := by
  decide

/-- The text if it has at most `limit` characters; else its first `limit` characters and a note with
the number of characters that are left out. -/
def characterExcerpt (limit : ℕ) (s : Text) : Text :=
  if s.length ≤ limit then s else s.take limit ++ cutNote (s.length - limit)

theorem excerpt_eq_characterExcerpt_iff {limit : ℕ} {s : Text} :
    excerpt limit s = characterExcerpt limit s ↔ ∀ c ∈ s.drop limit, c.toNat < 0x80 := by
  rcases Nat.lt_or_ge limit s.length with h | h
  · rw [excerpt_of_lt h, characterExcerpt, if_neg (Nat.not_le.mpr h), List.append_right_inj,
      cutNote_injective.eq_iff, ← List.length_drop, octetCount_eq_length_iff]
  · rw [excerpt_of_le h, characterExcerpt, if_pos h, List.drop_eq_nil_of_le h]
    simp

/-- **What an excerpt tells.**  A text with more characters than the limit is cut where the next one
starts: the octets on either side are whole characters, and the note tells how many octets there are
behind the cut.  They are at least as many as the characters there and at most four times as many,
and the note counts characters exactly if these are all of ASCII.  Any other text stays, and so does
one that ends behind the limit in the note that tells the number of its own octets. -/
theorem excerpt_counts_characters_iff (limit : ℕ) (s : Text) :
    (excerpt limit s = s ↔ s.length ≤ limit ∨ s.drop limit = cutNote 24) ∧
    (limit < s.length → ∃ cut count,
      offset? limit s = some cut ∧ cut + count = (octets s).length ∧
      Octets.text? ((octets s).take cut) = some (s.take limit) ∧
      Octets.text? ((octets s).drop cut) = some (s.drop limit) ∧
      excerpt limit s = s.take limit ++ cutNote count ∧
      s.length - limit ≤ count ∧ count ≤ 4 * (s.length - limit)) ∧
    (excerpt limit s = characterExcerpt limit s ↔ ∀ c ∈ s.drop limit, c.toNat < 0x80) := by
  refine ⟨excerpt_eq_self_iff, ?_, excerpt_eq_characterExcerpt_iff⟩
  intro h
  have hoffset : offset? limit s = some (octetCount (s.take limit)) := by
    rw [offset?_eq, if_pos h]
  refine ⟨_, octetCount (s.drop limit), hoffset, ?_, ?_, ?_, excerpt_of_lt h, ?_, ?_⟩
  · rw [← octets_take_append_drop limit s, List.length_append, length_octets, length_octets]
  · rw [take_octets, Octets.text?_octets]
  · rw [drop_octets, Octets.text?_octets]
  · rw [← List.length_drop]
    exact length_le_octetCount _
  · rw [← List.length_drop]
    exact octetCount_le _

/-- A letter with an accent is one character, and the note counts it twice. -/
theorem excerpt_counts_accent_twice :
    1 < "héllo".toList.length ∧
    excerpt 1 "héllo".toList = "h...\n[truncated 5 chars]".toList ∧
    characterExcerpt 1 "héllo".toList = "h...\n[truncated 4 chars]".toList ∧
    excerpt 1 "héllo".toList ≠ characterExcerpt 1 "héllo".toList := by
  have hlt : 1 < "héllo".toList.length := by decide
  have hoctets : (octets "héllo".toList).length = 6 := by decide
  have haccent : ¬∀ c ∈ "héllo".toList.drop 1, c.toNat < 0x80 := by simp
  obtain ⟨-, hcut, hcharacters⟩ := excerpt_counts_characters_iff 1 "héllo".toList
  obtain ⟨cut, count, hoffset, hsum, -, -, hexcerpt, -⟩ := hcut hlt
  obtain rfl : 1 = cut := Option.some.inj hoffset
  obtain rfl : count = 5 := by omega
  exact ⟨hlt, hexcerpt.trans (by decide), by decide, mt hcharacters.mp haccent⟩

end MergeMessage.Text
