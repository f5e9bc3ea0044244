import MergeMessage.Proofs.JsonRecords

/-!
# Strings and numbers in JSON

The reader of JSON goes through a text character by character.  What it is meant to read is said
here without it: the ways to write a string with all its escapes, and the parts of a number.  Every
such text is read whole.

## Main definitions

* `Spells` — the literals that stand for a text.
* `IsLiteral` — all string literals; they may also hold lone halves of surrogate pairs.
* `IsNumber` — the numbers.

## Main results

* `spells_escaped` — a text is printed as a literal that spells it.
* `string?_of_spells` — a literal is read as the text that it spells.
* `IsLiteral.exists_string?` — every literal is read whole.
* `IsNumber.strictNumber?_append` — a number is read whole.
-/

namespace MergeMessage.Json

open Text

/-! ### Escapes -/

/-- The character is the digit of a number below sixteen, in upper or lower case. -/
def IsHexDigitOf (c : Char) (n : ℕ) : Prop :=
  n < 16 ∧ (c = n.digitChar ∨ c = n.digitChar.toUpper)

/-- The escape of a 16 bit unit. -/
inductive IsUnitEscape : Text → ℕ → Prop
  /-- Four hexadecimal digits, the highest one first. -/
  | digits {a b c d : Char} {i j k l : ℕ} (ha : IsHexDigitOf a i) (hb : IsHexDigitOf b j)
      (hc : IsHexDigitOf c k) (hd : IsHexDigitOf d l) :
      IsUnitEscape ['\\', 'u', a, b, c, d] (i * 0x1000 + j * 0x100 + k * 0x10 + l)

/-- The letters of the short escapes, each with the character that it stands for. -/
def shortEscapes : List (Char × Char) :=
  [('"', '"'), ('\\', '\\'), ('/', '/'), ('b', '\x08'), ('f', '\x0c'), ('n', '\n'), ('r', '\r'),
    ('t', '\t')]

/-- The character stands for itself in a string literal. -/
structure IsPlain (c : Char) : Prop where
  no_control : 0x20 ≤ c.toNat
  no_quote : c ≠ '"'
  no_backslash : c ≠ '\\'

instance : DecidablePred IsPlain := fun c =>
  decidable_of_iff (0x20 ≤ c.toNat ∧ c ≠ '"' ∧ c ≠ '\\')
    ⟨fun h => ⟨h.1, h.2.1, h.2.2⟩, fun h => ⟨h.no_control, h.no_quote, h.no_backslash⟩⟩

/-- The ways to write one character in a string literal. -/
inductive SpellsChar : Text → Char → Prop
  /-- The character itself. -/
  | plain {c : Char} (h : IsPlain c) : SpellsChar [c] c
  /-- A backslash and a letter. -/
  | short {e c : Char} (h : (e, c) ∈ shortEscapes) : SpellsChar ['\\', e] c
  /-- The escape of its code point. -/
  | unit {w : Text} {c : Char} (h : IsUnitEscape w c.toNat) : SpellsChar w c
  /-- The escapes of the two halves of its surrogate pair. -/
  | pair {v w : Text} {c : Char} {high low : ℕ} (hv : IsUnitEscape v (0xD800 + high))
      (hw : IsUnitEscape w (0xDC00 + low)) (hhigh : high < 0x400) (hlow : low < 0x400)
      (hc : c.toNat = 0x10000 + high * 0x400 + low) : SpellsChar (v ++ w) c

/-- What stands between the quotes of a string literal spells a text, one character after the
other. -/
inductive Spells : Text → Text → Prop
  /-- Nothing is spelled by nothing. -/
  | nil : Spells [] []
  /-- The first character has any of its spellings. -/
  | cons {v w s : Text} {c : Char} (hc : SpellsChar v c) (h : Spells w s) :
      Spells (v ++ w) (c :: s)

/-- What may stand between the quotes of a string literal, also if it spells no text. -/
inductive IsLiteral : Text → Prop
  /-- Nothing. -/
  | nil : IsLiteral []
  /-- First a spelling of a character. -/
  | char {v w : Text} {c : Char} (hc : SpellsChar v c) (h : IsLiteral w) : IsLiteral (v ++ w)
  /-- First the escape of a unit, which may be half of a surrogate pair. -/
  | unit {v w : Text} {n : ℕ} (hv : IsUnitEscape v n) (h : IsLiteral w) : IsLiteral (v ++ w)

theorem Spells.isLiteral {w s : Text} (h : Spells w s) : IsLiteral w := by
  induction h with
  | nil => exact .nil
  | cons hc _ ih => exact .char hc ih

/-- Characters that stand for themselves spell themselves. -/
theorem spells_of_isPlain {s : Text} (h : ∀ c ∈ s, IsPlain c) : Spells s s := by
  induction s with
  | nil => exact .nil
  | cons c s ih =>
    rw [List.forall_mem_cons] at h
    exact .cons (.plain h.1) (ih h.2)

theorem isHexDigitOf_digitChar {n : ℕ} (h : n < 16) : IsHexDigitOf n.digitChar n :=
  ⟨h, Or.inl rfl⟩

/-- A control character is printed as a short escape or as the escape of a number of two digits. -/
theorem spellsChar_escapeChar_of_control {c : Char} (hc : c.toNat < 0x20) :
    SpellsChar (escapeChar c) c := by
  have hprinted : ∀ n < 0x20, (∃ p ∈ shortEscapes, p.2 = Char.ofNat n ∧
      escapeChar (Char.ofNat n) = ['\\', p.1]) ∨ escapeChar (Char.ofNat n) =
        ['\\', 'u', '0', '0', (n / 16).digitChar, (n % 16).digitChar] := by decide
  -- the thirty-two control characters are checked one by one: a short escape or four digits
  have hprinted := hprinted c.toNat hc
  rw [Char.ofNat_toNat] at hprinted
  rcases hprinted with ⟨⟨e, d⟩, hmem, rfl, heq⟩ | heq
  · rw [heq]
    exact .short hmem
  · have hzero : IsHexDigitOf '0' 0 := isHexDigitOf_digitChar (by decide)
    have hescape := IsUnitEscape.digits hzero hzero
      (isHexDigitOf_digitChar (show c.toNat / 16 < 16 by omega))
      (isHexDigitOf_digitChar (show c.toNat % 16 < 16 by omega))
    have hvalue : 0 * 0x1000 + 0 * 0x100 + c.toNat / 16 * 0x10 + c.toNat % 16 = c.toNat := by
      omega
    rw [hvalue] at hescape
    rw [heq]
    exact .unit hescape

theorem escapeChar_of_isPlain {c : Char} (h : IsPlain c) : escapeChar c = [c] := by
  have hcontrol : ¬c.toNat < 0x20 := Nat.not_lt.mpr h.no_control
  have hne : ∀ d ∈ ['\n', '\r', '\t', '\x08', '\x0c'], c ≠ d := by
    intro d hd hcd
    have hall : ['\n', '\r', '\t', '\x08', '\x0c'].all (·.toNat < 0x20) = true := by decide
    exact hcontrol (hcd ▸ by simpa using List.all_eq_true.mp hall d hd)
  simp only [List.forall_mem_cons, List.not_mem_nil, false_imp_iff, implies_true, and_true] at hne
  simp [escapeChar, h.no_quote, h.no_backslash, hne, hcontrol]

/-- A character is printed as one of its spellings. -/
theorem spellsChar_escapeChar (c : Char) : SpellsChar (escapeChar c) c := by
  by_cases hcontrol : c.toNat < 0x20
  · exact spellsChar_escapeChar_of_control hcontrol
  · by_cases hshort : c = '"' ∨ c = '\\'
    · have hmem : (c, c) ∈ shortEscapes := by
        obtain rfl | rfl := hshort <;> decide
      rw [escapeChar, if_pos (by simpa using hshort)]
      exact .short hmem
    · rw [not_or] at hshort
      have hplain : IsPlain c := ⟨Nat.not_lt.mp hcontrol, hshort.1, hshort.2⟩
      rw [escapeChar_of_isPlain hplain]
      exact .plain hplain

/-- **A text is printed as a literal that spells it.** -/
theorem spells_escaped (s : Text) : Spells (s.flatMap escapeChar) s := by
  induction s with
  | nil => exact .nil
  | cons c s ih => exact .cons (spellsChar_escapeChar c) ih

/-! ### Reading strings -/

theorem IsHexDigitOf.hexDigit? {c : Char} {n : ℕ} (h : IsHexDigitOf c n) :
    hexDigit? c = some n := by
  have hdigits : ∀ n < 16, MergeMessage.hexDigit? n.digitChar = some n ∧
      MergeMessage.hexDigit? n.digitChar.toUpper = some n := by decide
  obtain ⟨hlt, rfl | rfl⟩ := h
  · exact (hdigits n hlt).1
  · exact (hdigits n hlt).2

/-- The escape of a unit is one piece. -/
theorem IsUnitEscape.pieces?_append {v : Text} {n : ℕ} (h : IsUnitEscape v n) (s : Text) :
    pieces? (v ++ s) = (pieces? s).map fun (ps, rest) => (.ofUnit n :: ps, rest) := by
  cases h with
  | @digits a b c d i j k l ha hb hc hd =>
    have hunit : hex4? a b c d = some (i * 0x1000 + j * 0x100 + k * 0x10 + l) := by
      simp only [hex4?, ha.hexDigit?, hb.hexDigit?, hc.hexDigit?, hd.hexDigit?, Option.bind_eq_bind,
        Option.bind_some, Option.pure_def, Option.some.injEq]
      omega
    simp only [List.cons_append, List.nil_append, pieces?, hunit]

theorem IsPlain.pieces?_cons {c : Char} (h : IsPlain c) (s : Text) :
    pieces? (c :: s) = (pieces? s).map fun (ps, rest) => (.char c :: ps, rest) := by
  rw [pieces?]
  · simp [h.no_backslash, h.no_control]
  · exact fun heq => h.no_quote heq
  · rintro a b c' d s' rfl
    exact absurd rfl h.no_backslash
  · rintro e s' rfl
    exact absurd rfl h.no_backslash

/-- A short escape is one piece. -/
theorem pieces?_short {e c : Char} (h : (e, c) ∈ shortEscapes) (s : Text) :
    pieces? ('\\' :: e :: s) = (pieces? s).map fun (ps, rest) => (.char c :: ps, rest) := by
  have hescapes : ∀ p ∈ shortEscapes, escaped? p.1 = some p.2 ∧ p.1 ≠ 'u' := by decide
  obtain ⟨hescaped, hne⟩ := hescapes (e, c) h
  rw [pieces?]
  · rw [hescaped]
  · rintro a b c' d s' rfl
    exact absurd rfl hne

theorem ofUnit_toNat (c : Char) : Piece.ofUnit c.toNat = .char c := by
  have hvalid := c.valid
  rw [Piece.ofUnit, if_neg, Char.ofNat_toNat]
  simp only [Bool.and_eq_true, decide_eq_true_eq]
  simp only [UInt32.isValidChar, Nat.isValidChar, Char.toNat_val] at hvalid
  omega

theorem ofUnit_surrogate {n : ℕ} (hlow : 0xD800 ≤ n) (hhigh : n < 0xE000) :
    Piece.ofUnit n = .surrogate n := by
  rw [Piece.ofUnit, if_pos]
  simp only [Bool.and_eq_true, decide_eq_true_eq]
  omega

theorem pair?_eq_some {c : Char} {high low : ℕ} (hhigh : high < 0x400)
    (hc : c.toNat = 0x10000 + high * 0x400 + low) :
    pair? (0xD800 + high) (0xDC00 + low) = some c := by
  rw [pair?, if_pos, Nat.add_sub_cancel_left, Nat.add_sub_cancel_left, ← hc, Char.ofNat_toNat]
  simp only [Bool.and_eq_true, decide_eq_true_eq]
  omega

/-- The pieces of a spelling, which stand for its character. -/
theorem SpellsChar.exists_pieces {v : Text} {c : Char} (h : SpellsChar v c) :
    ∃ ps, (∀ s, pieces? (v ++ s) = (pieces? s).map fun (qs, rest) => (ps ++ qs, rest)) ∧
      ∀ qs, assemble? (ps ++ qs) = (assemble? qs).map (c :: ·) := by
  cases h with
  | plain h => exact ⟨[.char c], fun s => h.pieces?_cons s, fun qs => rfl⟩
  | short h => exact ⟨[.char c], fun s => pieces?_short h s, fun qs => rfl⟩
  | unit h =>
    have hread := h.pieces?_append
    rw [ofUnit_toNat] at hread
    exact ⟨[.char c], hread, fun qs => rfl⟩
  | @pair v w c high low hv hw hhigh hlow hc =>
    refine ⟨[.surrogate (0xD800 + high), .surrogate (0xDC00 + low)], fun s => ?_, fun qs => ?_⟩
    · rw [List.append_assoc, hv.pieces?_append, hw.pieces?_append,
        ofUnit_surrogate (by omega) (by omega), ofUnit_surrogate (by omega) (by omega),
        Option.map_map]
      rfl
    · rw [List.cons_append, List.cons_append, List.nil_append, assemble?, pair?_eq_some hhigh hc]

/-- **A literal is read as the text that it spells.** -/
theorem string?_of_spells {w s : Text} (h : Spells w s) (rest : Text) :
    string? (w ++ '"' :: rest) = some (some s, rest) := by
  have hpieces : ∃ ps, pieces? (w ++ '"' :: rest) = some (ps, rest) ∧ assemble? ps = some s := by
    induction h with
    | nil => exact ⟨[], rfl, rfl⟩
    | cons hc _ ih =>
      obtain ⟨qs, hread, htext⟩ := ih
      obtain ⟨ps, hfirst, hchar⟩ := hc.exists_pieces
      refine ⟨ps ++ qs, ?_, ?_⟩
      · rw [List.append_assoc, hfirst, hread]
        rfl
      · rw [hchar, htext]
        rfl
  obtain ⟨ps, hread, htext⟩ := hpieces
  rw [string?, hread, ← htext, Option.map_some]

/-- Every literal is read whole. -/
theorem IsLiteral.exists_string? {w : Text} (h : IsLiteral w) :
    ∃ key, ∀ rest, string? (w ++ '"' :: rest) = some (key, rest) := by
  have hpieces : ∃ ps, ∀ rest, pieces? (w ++ '"' :: rest) = some (ps, rest) := by
    -- which pieces are read does not depend on the text behind the closing quote
    induction h with
    | nil => exact ⟨[], fun rest => rfl⟩
    | char hc _ ih =>
      obtain ⟨qs, hread⟩ := ih
      obtain ⟨ps, hfirst, -⟩ := hc.exists_pieces
      refine ⟨ps ++ qs, fun rest => ?_⟩
      rw [List.append_assoc, hfirst, hread, Option.map_some]
    | @unit v w n hv _ ih =>
      obtain ⟨qs, hread⟩ := ih
      refine ⟨.ofUnit n :: qs, fun rest => ?_⟩
      rw [List.append_assoc, hv.pieces?_append, hread, Option.map_some]
  obtain ⟨ps, hread⟩ := hpieces
  refine ⟨assemble? ps, fun rest => ?_⟩
  rw [string?, hread, Option.map_some]

/-! ### Numbers -/

/-- At least one digit. -/
structure IsDigits (s : Text) : Prop where
  ne_nil : s ≠ []
  digits : ∀ c ∈ s, c.isDigit = true

/-- The fraction of a number, which may be left out. -/
inductive IsFraction : Text → Prop
  /-- No fraction. -/
  | none : IsFraction []
  /-- A point and digits. -/
  | point {ds : Text} (h : IsDigits ds) : IsFraction ('.' :: ds)

/-- The exponent of a number, which may be left out. -/
inductive IsExponent : Text → Prop
  /-- No exponent. -/
  | none : IsExponent []
  /-- A letter, digits and what may stand between them: a sign. -/
  | power {e : Char} {sign ds : Text} (he : e ∈ ['e', 'E']) (hsign : sign ∈ [[], ['+'], ['-']])
      (h : IsDigits ds) : IsExponent (e :: sign ++ ds)

/-- A number, with the parts of its text. -/
inductive IsNumber : Text → Prop
  /-- An optional sign, a numeral, a fraction and an exponent. -/
  | parts {sign whole fraction exponent : Text} (hsign : sign ∈ [[], ['-']])
      (hwhole : IsNumeral whole) (hfraction : IsFraction fraction)
      (hexponent : IsExponent exponent) : IsNumber (sign ++ whole ++ fraction ++ exponent)

/-- Is the character one with which a number may go on? -/
def isNumberChar (c : Char) : Bool := c.isDigit || c == '.' || c == 'e' || c == 'E'

theorem isNumberChar_eq_false_iff {c : Char} : isNumberChar c = false ↔
    c.isDigit = false ∧ c ≠ '.' ∧ c ≠ 'e' ∧ c ≠ 'E' := by
  simp [isNumberChar, and_assoc]

theorem IsDigits.digits_append {ds : Text} (h : IsDigits ds) {rest : Text}
    (hrest : StopsAt Char.isDigit rest) : Json.digits (ds ++ rest) = (ds, rest) := by
  rw [Json.digits, takeWhile_append_stop h.digits hrest, dropWhile_append_stop h.digits hrest]

/-- A run of digits starts with a digit, and so with no sign. -/
theorem IsDigits.optionalSign_append {signs sign ds : Text} (h : IsDigits ds)
    (hsigns : ∀ c ∈ signs, c.isDigit = false) (hsign : sign = [] ∨ ∃ c ∈ signs, sign = [c])
    (rest : Text) : optionalSign signs (sign ++ (ds ++ rest)) = (sign, ds ++ rest) := by
  obtain rfl | ⟨c, hc, rfl⟩ := hsign
  · obtain ⟨d, ds, rfl⟩ := List.exists_cons_of_ne_nil h.ne_nil
    have hd : d ∉ signs := by
      intro hmem
      simpa [hsigns d hmem] using h.digits d
    rw [List.nil_append, List.cons_append, optionalSign, if_neg]
    simpa using hd
  · rw [List.cons_append, List.nil_append, optionalSign, if_pos]
    simpa using hc

theorem wholePart?_append {whole rest : Text} (h : IsNumeral whole)
    (hrest : StopsAt Char.isDigit rest) : wholePart? (whole ++ rest) = some (whole, rest) := by
  have hdigits := IsDigits.digits_append ⟨h.ne_nil, h.digits⟩ hrest
  unfold wholePart?
  rw [hdigits]
  split
  · next heq => exact absurd (Prod.mk.inj heq).1 h.ne_nil
  · next heq => exact absurd (Prod.mk.inj heq).1 (h.no_leading_zero _ _)
  · next heq =>
    obtain ⟨rfl, rfl⟩ := Prod.mk.inj heq
    rfl

theorem IsFraction.fraction?_append {fraction rest : Text} (h : IsFraction fraction)
    (hrest : StopsAt (fun c => c.isDigit || c == '.') rest) :
    fraction? (fraction ++ rest) = some (fraction, rest) := by
  cases h with
  | none =>
    cases rest with
    | nil => rfl
    | cons c rest =>
      have hc : c ≠ '.' := by
        rintro rfl
        simp at hrest
      simp [fraction?, hc]
  | point h =>
    have hdigits := h.digits_append (hrest.imp fun c hc => (Bool.or_eq_false_iff.mp hc).1)
    unfold fraction?
    rw [List.cons_append]
    simp only [hdigits]
    split
    · next heq => exact absurd (Prod.mk.inj heq).1 h.ne_nil
    · next heq =>
      obtain ⟨rfl, rfl⟩ := Prod.mk.inj heq
      rfl

theorem IsExponent.exponent?_append {exponent rest : Text} (h : IsExponent exponent)
    (hrest : StopsAt isNumberChar rest) :
    exponent? (exponent ++ rest) = some (exponent, rest) := by
  cases h with
  | none =>
    cases rest with
    | nil => rfl
    | cons c rest =>
      have hchar := isNumberChar_eq_false_iff.mp ((stopsAt_cons _ _ _).mp hrest)
      have hc : ¬((c == 'e' || c == 'E') = true) := by simp [hchar.2.2]
      rw [List.nil_append, exponent?, if_neg hc]
  | @power e sign ds he hsign h =>
    have hletter : (e == 'e' || e == 'E') = true := by simpa using he
    have hsigned : optionalSign ['+', '-'] (sign ++ (ds ++ rest)) = (sign, ds ++ rest) :=
      h.optionalSign_append (by simp) (by simpa [or_assoc] using hsign) rest
    have hdigits := h.digits_append (hrest.imp fun c hc => (isNumberChar_eq_false_iff.mp hc).1)
    rw [List.cons_append, List.cons_append, List.append_assoc, exponent?, if_pos hletter]
    simp only [hsigned, hdigits]
    split
    · next heq => exact absurd (Prod.mk.inj heq).1 h.ne_nil
    · next heq =>
      obtain ⟨rfl, rfl⟩ := Prod.mk.inj heq
      rfl

/-- An exponent does not start like a fraction. -/
theorem IsExponent.stopsAt_append {exponent rest : Text} (h : IsExponent exponent)
    (hrest : StopsAt isNumberChar rest) :
    StopsAt (fun c => c.isDigit || c == '.') (exponent ++ rest) := by
  cases h with
  | none =>
    refine hrest.imp fun c hc => ?_
    obtain ⟨hdigit, hpoint, -⟩ := isNumberChar_eq_false_iff.mp hc
    simp [hdigit, hpoint]
  | @power e sign ds he hsign h =>
    obtain rfl | rfl : e = 'e' ∨ e = 'E' := by simpa using he
    · simp
    · simp

/-- **A number is read whole**, unless what follows it could be a part of it. -/
theorem IsNumber.strictNumber?_append {w : Text} (h : IsNumber w) {rest : Text}
    (hrest : StopsAt isNumberChar rest) : strictNumber? (w ++ rest) = some (w, rest) := by
  cases h with
  | @parts sign whole fraction exponent hsign hwhole hfraction hexponent =>
    -- each part is read up to the next one, so what follows it has to stop it
    have hbehind := hexponent.stopsAt_append hrest
    have hexp := hexponent.exponent?_append hrest
    have hfrac := hfraction.fraction?_append hbehind
    have hnumeral : wholePart? (whole ++ (fraction ++ (exponent ++ rest))) =
        some (whole, fraction ++ (exponent ++ rest)) := by
      refine wholePart?_append hwhole ?_
      cases hfraction with
      | none => exact hbehind.imp fun c hc => (Bool.or_eq_false_iff.mp hc).1
      | point h => simp
    have hsigned : optionalSign ['-'] (sign ++ (whole ++ (fraction ++ (exponent ++ rest)))) =
        (sign, whole ++ (fraction ++ (exponent ++ rest))) :=
      IsDigits.optionalSign_append ⟨hwhole.ne_nil, hwhole.digits⟩ (by simp) (by simpa using hsign) _
    simp only [List.append_assoc, strictNumber?, hsigned, hnumeral, hfrac, hexp,
      Option.bind_eq_bind, Option.bind_some, Option.pure_def]

end MergeMessage.Json
