import MergeMessage.Proofs.JsonScalars

/-!
# The texts of JSON

A value is written with gaps anywhere between its parts, and holds other values to any depth.  What
such a text is does not depend on how it is read: it is a word, a number, a string, or a list of
items or members between brackets.  Every text of a value is read whole, whatever follows it.

## Main definitions

* `Gap`, `Padded`, `PaddedMember` — a gap, an item of an array and a member of an object.
* `IsValue` — the texts of values.
* `Reads` — what a text is read as, whatever follows it.

## Main results

* `reads_arrayText`, `reads_objectText` — a list between brackets is read item by item.
* `IsValue.exists_reads` — the text of a value is read whole.
* `Reads.ofStrict?_padded` — gaps around the text of a value do not matter.
-/

namespace MergeMessage.Json

open Text

/-! ### Gaps -/

/-- What may stand between two parts of a JSON text. -/
structure Gap where
  /-- Its characters. -/
  text : Text
  /-- They are blank ones. -/
  gaps : ∀ c ∈ text, isGap c = true

namespace Gap

/-- No gap. -/
def none : Gap := ⟨[], by simp⟩

theorem dropWhile_append_cons (gap : Gap) {c : Char} (hc : isGap c = false) (s : Text) :
    (gap.text ++ c :: s).dropWhile isGap = c :: s :=
  dropWhile_append_stop gap.gaps ((stopsAt_cons _ c s).mpr hc)

/-- A number ends at a gap. -/
theorem stopsAt_append (gap : Gap) {s : Text} (h : StopsAt isNumberChar s) :
    StopsAt isNumberChar (gap.text ++ s) := by
  refine Text.stopsAt_append (fun c hc => ?_) h
  have hgap := gap.gaps c (List.mem_of_mem_head? hc)
  simp only [isGap, Bool.or_eq_true, beq_iff_eq] at hgap
  obtain ((rfl | rfl) | rfl) | rfl := hgap <;> rfl

end Gap

/-! ### Values -/

/-- A part of a JSON text with the gaps around it. -/
structure Padded where
  /-- The gap before it. -/
  before : Gap
  /-- The part itself. -/
  body : Text
  /-- The gap behind it. -/
  after : Gap

/-- The text of a part and its gaps. -/
def Padded.text (p : Padded) : Text := p.before.text ++ (p.body ++ p.after.text)

/-- The literal with this between its quotes. -/
def literalText (w : Text) : Text := '"' :: w ++ ['"']

/-- A member of an object with the gaps around its parts. -/
structure PaddedMember where
  /-- The gap before its name. -/
  before : Gap
  /-- What stands between the quotes of its name. -/
  name : Text
  /-- The gap behind its name. -/
  after : Gap
  /-- Its value. -/
  value : Padded

/-- The text of a member and its gaps. -/
def PaddedMember.text (m : PaddedMember) : Text :=
  m.before.text ++ (literalText m.name ++ (m.after.text ++ ':' :: m.value.text))

/-- The text of an array with these items; the gap is all there is if it has none. -/
def arrayText (gap : Gap) (items : List Padded) : Text :=
  '[' :: gap.text ++ join [','] (items.map Padded.text) ++ [']']

/-- The text of an object with these members; the gap is all there is if it has none. -/
def objectText (gap : Gap) (members : List PaddedMember) : Text :=
  '{' :: gap.text ++ join [','] (members.map PaddedMember.text) ++ ['}']

/-- The texts of values. -/
inductive IsValue : Text → Prop
  /-- The null value. -/
  | null : IsValue "null".toList
  /-- The truth value of what holds. -/
  | yes : IsValue "true".toList
  /-- The truth value of what does not hold. -/
  | no : IsValue "false".toList
  /-- A number. -/
  | number {w : Text} (h : IsNumber w) : IsValue w
  /-- A string, which need not stand for a text. -/
  | string {w : Text} (h : IsLiteral w) : IsValue (literalText w)
  /-- An array of values. -/
  | array {items : List Padded} (gap : Gap) (h : ∀ item ∈ items, IsValue item.body) :
      IsValue (arrayText gap items)
  /-- An object with values under any names. -/
  | object {members : List PaddedMember} (gap : Gap) (hnames : ∀ m ∈ members, IsLiteral m.name)
      (hvalues : ∀ m ∈ members, IsValue m.value.body) : IsValue (objectText gap members)

/-! ### Reading -/

/-- The text starts with a character of its own, where a list with this closing bracket may go on
with an item. -/
def StartsItem (closing : Char) (w : Text) : Prop :=
  ∃ c s, w = c :: s ∧ isGap c = false ∧ c ≠ closing

theorem StartsItem.length_pos {closing : Char} {w : Text} (h : StartsItem closing w) :
    0 < w.length := by
  obtain ⟨c, s, rfl, -⟩ := h
  exact Nat.succ_pos _

/-- The text is read as this value, whatever follows it and however much fuel is left over; only a
number must end where the text does. -/
structure Reads (w : Text) (j : Json) : Prop where
  /-- It may be an item. -/
  starts : StartsItem ']' w
  /-- It is read whole. -/
  reads : ∀ fuel rest, 2 * w.length ≤ fuel → StopsAt isNumberChar rest →
    value? .strict fuel (w ++ rest) = some (j, rest)

theorem value?_gap (d : Dialect) (fuel : ℕ) (gap : Gap) (s : Text) :
    value? d fuel (gap.text ++ s) = value? d fuel s := by
  cases fuel with
  | zero => rfl
  | succ fuel => rw [value?, value?, List.dropWhile_append_of_pos gap.gaps]

section

variable {closing : Char} {w : Text}

theorem next?_close (hclosing : isGap closing = false) (first : Bool) (gap : Gap) (rest : Text) :
    next? .strict closing first (gap.text ++ closing :: rest) = some (.close rest) := by
  rw [next?, gap.dropWhile_append_cons hclosing]
  simp

theorem next?_first (h : StartsItem closing w) (gap gap' : Gap) (t : Text) :
    next? .strict closing true (gap.text ++ (gap'.text ++ (w ++ t))) = some (.item (w ++ t)) := by
  obtain ⟨c, s, rfl, hc, hne⟩ := h
  rw [List.cons_append, next?, List.dropWhile_append_of_pos gap.gaps,
    gap'.dropWhile_append_cons hc]
  simp [hne]

/-- Between two items there is one comma. -/
theorem next?_comma (hclosing : closing ≠ ',') (h : StartsItem closing w) (gap gap' : Gap)
    (t : Text) : next? .strict closing false (gap.text ++ ',' :: (gap'.text ++ (w ++ t))) =
      some (.item (w ++ t)) := by
  obtain ⟨c, s, rfl, hc, hne⟩ := h
  rw [List.cons_append, next?, gap.dropWhile_append_cons (by decide)]
  simp [Dialect.strict, hclosing.symm, gap'.dropWhile_append_cons hc, hne]

end

/-! ### Words, numbers and strings -/

/-- What is neither an array nor an object is read on its own. -/
theorem reads_of_scalar {w : Text} {j : Json} {c : Char} {s : Text} (hw : w = c :: s)
    (hgap : isGap c = false) (hbracket : c ∉ ['[', ']', '{'])
    (h : ∀ rest, StopsAt isNumberChar rest → scalar? .strict (w ++ rest) = some (j, rest)) :
    Reads w j := by
  simp only [List.mem_cons, List.not_mem_nil, or_false, not_or] at hbracket
  refine ⟨⟨c, s, hw, hgap, hbracket.2.1⟩, fun fuel rest hfuel hrest => ?_⟩
  cases fuel with
  | zero => simp [hw] at hfuel
  | succ fuel =>
    rw [← h rest hrest, hw, List.cons_append, value?, List.dropWhile_cons_of_neg (by simp [hgap])]
    split
    · next heq => exact absurd (List.cons.inj heq).1 hbracket.1
    · next heq => exact absurd (List.cons.inj heq).1 hbracket.2.2
    · rfl

theorem reads_null : Reads "null".toList .null :=
  reads_of_scalar rfl (by decide) (by decide) fun _ _ => rfl

theorem reads_true : Reads "true".toList (.bool true) :=
  reads_of_scalar rfl (by decide) (by decide) fun _ _ => rfl

theorem reads_false : Reads "false".toList (.bool false) :=
  reads_of_scalar rfl (by decide) (by decide) fun _ _ => rfl

/-- What starts like no word is a string or a number. -/
theorem scalar?_cons (d : Dialect) {c : Char} (hc : c ∉ ['n', 't', 'f']) (s : Text) :
    scalar? d (c :: s) = match stringAt? d (c :: s) with
      | some (value, rest) => some (.string value, rest)
      | none => (d.number? (c :: s)).map fun (literal, rest) => (.number literal, rest) := by
  simp only [List.mem_cons, List.not_mem_nil, or_false, not_or] at hc
  have hword {a : Char} {word : Text} (h : c ≠ a) : (a :: word).isPrefixOf? (c :: s) = none := by
    simp [List.isPrefixOf?, h.symm]
  have hnull : "null".toList.isPrefixOf? (c :: s) = none := hword hc.1
  have htrue : "true".toList.isPrefixOf? (c :: s) = none := hword hc.2.1
  have hfalse : "false".toList.isPrefixOf? (c :: s) = none := hword hc.2.2
  cases hstring : stringAt? d (c :: s) with
  | none => simp only [scalar?, hnull, htrue, hfalse, hstring]
  | some read => simp only [scalar?, hnull, htrue, hfalse, hstring]

/-- A number starts with a sign or a digit. -/
theorem IsNumber.exists_cons {w : Text} (h : IsNumber w) :
    ∃ c s, w = c :: s ∧
      c ∉ [' ', '\t', '\n', '\r', '[', ']', '{', '"', 'n', 't', 'f'] := by
  cases h with
  | @parts sign whole fraction exponent hsign hwhole hfraction hexponent =>
    obtain ⟨d, ds, rfl⟩ := List.exists_cons_of_ne_nil hwhole.ne_nil
    obtain rfl | rfl : sign = [] ∨ sign = ['-'] := by simpa using hsign
    · refine ⟨d, _, rfl, fun hmem => ?_⟩
      have hothers : ∀ c ∈ [' ', '\t', '\n', '\r', '[', ']', '{', '"', 'n', 't', 'f'],
          c.isDigit = false := by simp
      simpa [hothers d hmem] using hwhole.digits d
    · exact ⟨'-', _, rfl, by decide⟩

theorem reads_number {w : Text} (h : IsNumber w) : Reads w (.number w) := by
  obtain ⟨c, s, hw, hc⟩ := h.exists_cons
  simp only [List.mem_cons, List.not_mem_nil, or_false, not_or] at hc
  refine reads_of_scalar hw (by simp [isGap, hc]) (by simp [hc]) fun rest hrest => ?_
  have hnumber := h.strictNumber?_append hrest
  rw [hw, List.cons_append] at hnumber ⊢
  rw [scalar?_cons _ (by simp [hc])]
  simp [stringAt?, hc, Dialect.strict, hnumber]

/-- A string literal is read as the string whose pieces stand between its quotes. -/
theorem stringAt?_literalText {w : Text} {key : Option Text}
    (h : ∀ rest, string? (w ++ '"' :: rest) = some (key, rest)) (rest : Text) :
    stringAt? .strict (literalText w ++ rest) = some (key, rest) := by
  rw [literalText, List.cons_append, List.cons_append, List.append_assoc, List.cons_append,
    List.nil_append, stringAt?, h]
  cases key with
  | none => rfl
  | some s => rfl

theorem reads_literalText {w : Text} {key : Option Text}
    (h : ∀ rest, string? (w ++ '"' :: rest) = some (key, rest)) :
    Reads (literalText w) (.string key) := by
  refine reads_of_scalar rfl (by decide) (by decide) fun rest _ => ?_
  have hstring := stringAt?_literalText h rest
  rw [literalText, List.cons_append, List.cons_append] at hstring ⊢
  rw [scalar?_cons _ (by decide), hstring]

/-! ### Arrays and objects -/

/-- What stands between the first part of a list and what follows the list: the other parts, each
after a comma, and the closing bracket. -/
def behind (closing : Char) (parts : List Text) (rest : Text) : Text :=
  parts.flatMap ([','] ++ ·) ++ closing :: rest

@[simp] theorem behind_nil (closing : Char) (rest : Text) :
    behind closing [] rest = closing :: rest := rfl

@[simp] theorem behind_cons (closing : Char) (part : Text) (parts : List Text) (rest : Text) :
    behind closing (part :: parts) rest = ',' :: (part ++ behind closing parts rest) := by
  simp [behind]

theorem stopsAt_behind {closing : Char} (h : isNumberChar closing = false) (parts : List Text)
    (rest : Text) : StopsAt isNumberChar (behind closing parts rest) := by
  cases parts with
  | nil => simpa using h
  | cons part parts =>
    rw [behind_cons, stopsAt_cons]
    rfl

theorem join_append_closing (closing : Char) (part : Text) (parts : List Text) (rest : Text) :
    join [','] (part :: parts) ++ closing :: rest = part ++ behind closing parts rest := by
  rw [join_cons_eq_flatMap, List.append_assoc, behind]

theorem length_behind_pos (closing : Char) (parts : List Text) (rest : Text) :
    0 < (behind closing parts rest).length := by
  rw [behind, List.length_append, List.length_cons]
  omega

/-- An item is read, and then the items behind it. -/
theorem items?_item {fuel : ℕ} {first : Bool} {s w t : Text} {j : Json} (h : Reads w j)
    (hnext : next? .strict ']' first s = some (.item (w ++ t))) (hfuel : 2 * w.length ≤ fuel)
    (ht : StopsAt isNumberChar t) :
    items? .strict (fuel + 1) first s =
      (items? .strict fuel false t).map fun (items, rest) => (j :: items, rest) := by
  rw [items?, hnext]
  simp only [h.reads fuel t hfuel ht]

/-- The items behind the first one are read one by one. -/
theorem items?_behind {items : List Padded} {values : List Json}
    (h : List.Forall₂ (fun item j => Reads item.body j) items values) (gap : Gap) (rest : Text)
    {fuel : ℕ} (hfuel : 2 * (behind ']' (items.map Padded.text) []).length ≤ fuel) :
    items? .strict fuel false (gap.text ++ behind ']' (items.map Padded.text) rest) =
      some (values, rest) := by
  induction h generalizing gap fuel with
  | nil =>
    obtain ⟨fuel, rfl⟩ : ∃ n, fuel = n + 1 := Nat.exists_eq_add_of_le' (le_trans (by simp) hfuel)
    rw [items?, List.map_nil, behind_nil, next?_close (by decide)]
  | @cons item j items values hitem _ ih =>
    simp only [List.map_cons, behind_cons, List.length_cons, List.length_append, Padded.text,
      List.append_assoc] at hfuel ⊢
    obtain ⟨fuel, rfl⟩ : ∃ n, fuel = n + 1 := Nat.exists_eq_add_of_le' (by omega)
    have hnext := next?_comma (by decide) hitem.starts gap item.before
      (item.after.text ++ behind ']' (items.map Padded.text) rest)
    rw [items?_item hitem hnext (by omega)
      (item.after.stopsAt_append (stopsAt_behind (by decide) _ _)), ih item.after (by omega)]
    rfl

/-- The items of an array are read one by one. -/
theorem items?_join {items : List Padded} {values : List Json}
    (h : List.Forall₂ (fun item j => Reads item.body j) items values) (gap : Gap) (rest : Text)
    {fuel : ℕ} (hfuel : 2 * (join [','] (items.map Padded.text) ++ [']']).length ≤ fuel) :
    items? .strict fuel true (gap.text ++ (join [','] (items.map Padded.text) ++ ']' :: rest)) =
      some (values, rest) := by
  -- there is a closing bracket at least, hence a first step to take
  obtain ⟨fuel, rfl⟩ : ∃ n, fuel = n + 1 := by
    refine Nat.exists_eq_add_of_le' (le_trans ?_ hfuel)
    rw [List.length_append, List.length_singleton]
    omega
  cases h with
  | nil => rw [items?, List.map_nil, join, List.intercalate_nil, List.nil_append,
      next?_close (by decide)]
  | @cons item j items values hitem hitems =>
    simp only [List.map_cons, join_append_closing, List.length_append, Padded.text,
      List.append_assoc] at hfuel ⊢
    have hnext := next?_first hitem.starts gap item.before
      (item.after.text ++ behind ']' (items.map Padded.text) rest)
    -- the item takes fuel for its own characters and leaves the rest for what stands behind it
    have hbody := hitem.starts.length_pos
    have htail := length_behind_pos ']' (items.map Padded.text) []
    rw [items?_item hitem hnext (by omega)
      (item.after.stopsAt_append (stopsAt_behind (by decide) _ _)),
      items?_behind hitems item.after rest (by omega)]
    rfl

/-- **An array is read item by item.** -/
theorem reads_arrayText {items : List Padded} {values : List Json}
    (h : List.Forall₂ (fun item j => Reads item.body j) items values) (gap : Gap) :
    Reads (arrayText gap items) (.array values) := by
  refine ⟨⟨'[', _, rfl, by decide, by decide⟩, fun fuel rest hfuel _ => ?_⟩
  rw [arrayText, List.cons_append, List.cons_append, List.length_cons, List.append_assoc,
    List.length_append] at hfuel
  obtain ⟨fuel, rfl⟩ : ∃ n, fuel = n + 1 := Nat.exists_eq_add_of_le' (by omega)
  have hitems := items?_join h gap rest (show _ ≤ fuel by omega)
  simp only [arrayText, List.cons_append, List.append_assoc, List.nil_append]
  rw [value?, List.dropWhile_cons_of_neg (by decide)]
  simp only [hitems, Option.map_some]

/-- What a member is read as. -/
structure PaddedMember.Reads (m : PaddedMember) (member : Option Text × Json) : Prop where
  /-- Its name. -/
  name : ∀ rest, string? (m.name ++ '"' :: rest) = some (member.1, rest)
  /-- Its value. -/
  value : Json.Reads m.value.body member.2

theorem PaddedMember.exists_reads {m : PaddedMember} (hname : IsLiteral m.name)
    (hvalue : ∃ j, Json.Reads m.value.body j) : ∃ member, m.Reads member := by
  obtain ⟨key, hkey⟩ := hname.exists_string?
  obtain ⟨j, hj⟩ := hvalue
  exact ⟨(key, j), hkey, hj⟩

theorem PaddedMember.Reads.fst_eq {m : PaddedMember} {member : Option Text × Json} {key : Text}
    (h : m.Reads member) (hname : Spells m.name key) : member.1 = some key := by
  have hkey := (h.name []).symm.trans (string?_of_spells hname [])
  exact (Prod.mk.inj (Option.some.inj hkey)).1

theorem startsItem_literalText (w : Text) : StartsItem '}' (literalText w) :=
  ⟨'"', _, rfl, by decide, by decide⟩

theorem Padded.length_body_le (p : Padded) : p.body.length ≤ p.text.length := by
  simp only [Padded.text, List.length_append]
  omega

/-- The name of a member is read up to the colon. -/
theorem keyAt?_literalText {w : Text} {key : Option Text}
    (h : ∀ rest, string? (w ++ '"' :: rest) = some (key, rest)) (gap : Gap) (t : Text) :
    keyAt? .strict (literalText w ++ (gap.text ++ ':' :: t)) = some (key, t) := by
  have hcolon : (gap.text ++ ':' :: t).dropWhile isGap = ':' :: t :=
    gap.dropWhile_append_cons (by decide) t
  simp only [keyAt?, stringAt?_literalText h, hcolon]

theorem Reads.value?_padded {p : Padded} {j : Json} (h : Reads p.body j) {t : Text}
    (ht : StopsAt isNumberChar t) {fuel : ℕ} (hfuel : 2 * p.body.length ≤ fuel) :
    value? .strict fuel (p.text ++ t) = some (j, p.after.text ++ t) := by
  rw [Padded.text, List.append_assoc, List.append_assoc, value?_gap,
    h.reads fuel _ hfuel (p.after.stopsAt_append ht)]

/-- A member is read, and then the members behind it. -/
theorem members?_member {fuel : ℕ} {first : Bool} {s t : Text} {m : PaddedMember}
    {member : Option Text × Json} (h : m.Reads member)
    (hnext : next? .strict '}' first s =
      some (.item (literalText m.name ++ (m.after.text ++ ':' :: (m.value.text ++ t)))))
    (hfuel : 2 * m.value.body.length ≤ fuel) (ht : StopsAt isNumberChar t) :
    members? .strict (fuel + 1) first s =
      (members? .strict fuel false (m.value.after.text ++ t)).map
        fun (members, rest) => (member :: members, rest) := by
  rw [members?, hnext]
  simp only [keyAt?_literalText h.name, h.value.value?_padded ht hfuel]

/-- The members behind the first one are read one by one. -/
theorem members?_behind {ms : List PaddedMember} {members : List (Option Text × Json)}
    (h : List.Forall₂ PaddedMember.Reads ms members) (gap : Gap) (rest : Text)
    {fuel : ℕ} (hfuel : 2 * (behind '}' (ms.map PaddedMember.text) []).length ≤ fuel) :
    members? .strict fuel false (gap.text ++ behind '}' (ms.map PaddedMember.text) rest) =
      some (members, rest) := by
  induction h generalizing gap fuel with
  | nil =>
    obtain ⟨fuel, rfl⟩ : ∃ n, fuel = n + 1 := Nat.exists_eq_add_of_le' (le_trans (by simp) hfuel)
    rw [members?, List.map_nil, behind_nil, next?_close (by decide)]
  | @cons m member ms members hm _ ih =>
    simp only [List.map_cons, behind_cons, List.length_cons, List.length_append,
      PaddedMember.text, List.append_assoc, List.cons_append] at hfuel ⊢
    obtain ⟨fuel, rfl⟩ : ∃ n, fuel = n + 1 := Nat.exists_eq_add_of_le' (by omega)
    have hnext := next?_comma (by decide) (startsItem_literalText m.name) gap m.before
      (m.after.text ++ ':' :: (m.value.text ++ behind '}' (ms.map PaddedMember.text) rest))
    have hbody := m.value.length_body_le
    rw [members?_member hm hnext (by omega) (stopsAt_behind (by decide) _ _),
      ih m.value.after (by omega)]
    rfl

/-- The members of an object are read one by one. -/
theorem members?_join {ms : List PaddedMember} {members : List (Option Text × Json)}
    (h : List.Forall₂ PaddedMember.Reads ms members) (gap : Gap) (rest : Text)
    {fuel : ℕ} (hfuel : 2 * (join [','] (ms.map PaddedMember.text) ++ ['}']).length ≤ fuel) :
    members? .strict fuel true
      (gap.text ++ (join [','] (ms.map PaddedMember.text) ++ '}' :: rest)) =
      some (members, rest) := by
  -- as for the items, with the name in front of each value
  obtain ⟨fuel, rfl⟩ : ∃ n, fuel = n + 1 := by
    refine Nat.exists_eq_add_of_le' (le_trans ?_ hfuel)
    rw [List.length_append, List.length_singleton]
    omega
  cases h with
  | nil => rw [members?, List.map_nil, join, List.intercalate_nil, List.nil_append,
      next?_close (by decide)]
  | @cons m member ms members hm hms =>
    simp only [List.map_cons, join_append_closing, List.length_append, List.length_cons,
      PaddedMember.text, List.append_assoc, List.cons_append] at hfuel ⊢
    have hnext := next?_first (startsItem_literalText m.name) gap m.before
      (m.after.text ++ ':' :: (m.value.text ++ behind '}' (ms.map PaddedMember.text) rest))
    have hbody := m.value.length_body_le
    rw [members?_member hm hnext (by omega) (stopsAt_behind (by decide) _ _),
      members?_behind hms m.value.after rest (by omega)]
    rfl

/-- **An object is read member by member.** -/
theorem reads_objectText {ms : List PaddedMember} {members : List (Option Text × Json)}
    (h : List.Forall₂ PaddedMember.Reads ms members) (gap : Gap) :
    Reads (objectText gap ms) (.object members) := by
  refine ⟨⟨'{', _, rfl, by decide, by decide⟩, fun fuel rest hfuel _ => ?_⟩
  rw [objectText, List.cons_append, List.cons_append, List.length_cons, List.append_assoc,
    List.length_append] at hfuel
  obtain ⟨fuel, rfl⟩ : ∃ n, fuel = n + 1 := Nat.exists_eq_add_of_le' (by omega)
  have hmembers := members?_join h gap rest (show _ ≤ fuel by omega)
  simp only [objectText, List.cons_append, List.append_assoc, List.nil_append]
  rw [value?, List.dropWhile_cons_of_neg (by decide)]
  simp only [hmembers, Option.map_some]

/-! ### All values -/

/-- A list is related to another one if everything in it is related to something. -/
theorem exists_forall₂_iff {α β : Type} {R : α → β → Prop} {items : List α} :
    (∃ values, List.Forall₂ R items values) ↔ ∀ a ∈ items, ∃ b, R a b := by
  constructor
  · rintro ⟨values, h⟩
    induction h with
    | nil => simp
    | cons hb _ ih => exact List.forall_mem_cons.mpr ⟨⟨_, hb⟩, ih⟩
  · intro h
    induction items with
    | nil => exact ⟨[], .nil⟩
    | cons a items ih =>
      rw [List.forall_mem_cons] at h
      obtain ⟨⟨b, hb⟩, hitems⟩ := h
      obtain ⟨values, hvalues⟩ := ih hitems
      exact ⟨b :: values, .cons hb hvalues⟩

/-- **The text of a value is read whole**, whatever follows it. -/
theorem IsValue.exists_reads {w : Text} (h : IsValue w) : ∃ j, Reads w j := by
  -- an array and an object are read when each of their values is
  induction h with
  | null => exact ⟨_, reads_null⟩
  | yes => exact ⟨_, reads_true⟩
  | no => exact ⟨_, reads_false⟩
  | number h => exact ⟨_, reads_number h⟩
  | string h =>
    obtain ⟨key, hkey⟩ := h.exists_string?
    exact ⟨_, reads_literalText hkey⟩
  | array gap _ ih =>
    obtain ⟨values, hvalues⟩ := exists_forall₂_iff.mpr ih
    exact ⟨_, reads_arrayText hvalues gap⟩
  | @object ms gap hnames _ ih =>
    obtain ⟨members, hmembers⟩ := exists_forall₂_iff.mpr fun m hm =>
      PaddedMember.exists_reads (hnames m hm) (ih m hm)
    exact ⟨_, reads_objectText hmembers gap⟩

/-- Gaps around the text of a value do not matter. -/
theorem Reads.ofStrict?_padded {p : Padded} {j : Json} (h : Reads p.body j) :
    ofStrict? p.text = some j := by
  have hfuel : 2 * p.body.length ≤ fuelFor p.text := by
    have hbody := p.length_body_le
    rw [fuelFor]
    omega
  have hread := h.value?_padded (stopsAt_nil _) hfuel
  rw [List.append_nil, List.append_nil] at hread
  simp only [ofStrict?, hread, List.all_eq_true.mpr p.after.gaps, if_true]

end MergeMessage.Json
