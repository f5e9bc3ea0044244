import MergeMessage.Json.Record
import MergeMessage.Proofs.Characters
import MergeMessage.Proofs.Texts

/-!
# Values that are records

The readers of records go through the members of an object one field at a time, and through the
items of an array in their order.  What they take can be said without them: which values are
records, what stands in a field, and which numbers are whole ones of a given size.

## Main definitions

* `IsMember` — what an object has under a key.
* `IsRecord` — a value with the fields of a record, as an object or as an array.
* `IsOptional` — a field that may be null or left out.

## Main results

* `record?_eq_some_iff` — what the reader of records takes.
* `Slot.optional?_eq_some_iff` — what is read from a field that may be left out.
* `natBelow?_eq_some_iff` — the one spelling of a whole number.
-/

namespace MergeMessage.Json

open Text

/-! ### Lists of readings -/

/-- If all items of a list are read, their readings stand in the same order. -/
theorem mapM_eq_some_iff {α β : Type} {f : α → Option β} {items : List α} {values : List β} :
    items.mapM f = some values ↔ List.Forall₂ (fun a b => f a = some b) items values := by
  induction items generalizing values with
  | nil => simp [eq_comm]
  | cons a items ih =>
    simp only [List.mapM_cons, Option.bind_eq_bind, Option.pure_def, Option.bind_eq_some_iff,
      Option.some.injEq, List.forall₂_cons_left_iff]
    constructor
    · rintro ⟨b, hb, rest, hrest, rfl⟩
      exact ⟨b, rest, hb, ih.mp hrest, rfl⟩
    · rintro ⟨b, rest, hb, hrest, rfl⟩
      exact ⟨b, hb, rest, ih.mpr hrest, rfl⟩

/-! ### Records -/

/-- What the members of an object have under a key: nothing, or one value. -/
inductive IsMember (members : List (Option Text × Json)) (key : Text) : Slot → Prop
  /-- No member has the key. -/
  | missing (h : ∀ j, (some key, j) ∉ members) : IsMember members key .missing
  /-- One member has the key, and no other one has. -/
  | value (front back : List (Option Text × Json)) (j : Json)
      (h : members = front ++ (some key, j) :: back)
      (hunique : ∀ j', (some key, j') ∉ front ++ back) : IsMember members key (.value j)

/-- A value with the fields of a record.  In an object all keys are texts, and no field is given
twice; members under other keys do not matter.  An array has the fields in their order and may end
early. -/
inductive IsRecord (keys : List Text) : Json → List Slot → Prop
  /-- The record is an object. -/
  | object (members : List (Option Text × Json)) (slots : List Slot)
      (hkeys : ∀ member ∈ members, member.1 ≠ none)
      (hslots : List.Forall₂ (IsMember members) keys slots) : IsRecord keys (.object members) slots
  /-- The record is an array. -/
  | array (items : List Json) (left : ℕ) (h : items.length + left = keys.length) :
      IsRecord keys (.array items) (items.map .value ++ List.replicate left .ended)

theorem valuesOf_eq_nil_iff {key : Text} {members : List (Option Text × Json)} :
    valuesOf key members = [] ↔ ∀ j, (some key, j) ∉ members := by
  rw [valuesOf, List.filterMap_eq_nil_iff]
  constructor
  · intro h j hmem
    simpa using h _ hmem
  · rintro h ⟨k, j⟩ hmem
    have hk : k ≠ some key := by
      rintro rfl
      exact h j hmem
    simp [hk]

/-- A key stands for one value if exactly one member has it. -/
theorem valuesOf_eq_singleton_iff {key : Text} {members : List (Option Text × Json)} {j : Json} :
    valuesOf key members = [j] ↔ ∃ front back, members = front ++ (some key, j) :: back ∧
      ∀ j', (some key, j') ∉ front ++ back := by
  have hvalue : valuesOf key [(some key, j)] = [j] := by simp [valuesOf]
  have hsplit : ∀ front back, valuesOf key (front ++ back) =
      valuesOf key front ++ valuesOf key back := fun front back => List.filterMap_append ..
  constructor
  · intro h
    obtain ⟨front, ⟨k, j'⟩, back, rfl, hfront, hj, hback⟩ := List.filterMap_eq_cons_iff.mp h
    obtain ⟨rfl, rfl⟩ : k = some key ∧ j' = j := by simpa using hj
    refine ⟨front, back, rfl, valuesOf_eq_nil_iff.mp ?_⟩
    rw [hsplit, valuesOf, List.filterMap_eq_nil_iff.mpr hfront, List.nil_append]
    exact hback
  · rintro ⟨front, back, rfl, hunique⟩
    rw [← valuesOf_eq_nil_iff, hsplit, List.append_eq_nil_iff] at hunique
    rw [List.append_cons, hsplit, hsplit, hunique.1, hunique.2, hvalue]
    rfl

theorem memberSlot?_eq_some_iff {members : List (Option Text × Json)} {key : Text} {slot : Slot} :
    memberSlot? members key = some slot ↔ IsMember members key slot := by
  unfold memberSlot?
  constructor
  · intro h
    -- no member, one member or more than one
    split at h
    · next hnone =>
      obtain rfl := Option.some.inj h
      exact .missing (valuesOf_eq_nil_iff.mp hnone)
    · next j hone =>
      obtain rfl := Option.some.inj h
      obtain ⟨front, back, hmembers, hunique⟩ := valuesOf_eq_singleton_iff.mp hone
      exact .value front back j hmembers hunique
    · simp at h
  · intro h
    cases h with
    | missing h => rw [valuesOf_eq_nil_iff.mpr h]
    | value front back j h hunique =>
      rw [valuesOf_eq_singleton_iff.mpr ⟨front, back, h, hunique⟩]

/-- The items of an array are the first fields, and it has no others. -/
theorem itemSlots?_eq_some_iff {count : ℕ} {items : List Json} {slots : List Slot} :
    itemSlots? count items = some slots ↔ ∃ left, items.length + left = count ∧
      slots = items.map .value ++ List.replicate left .ended := by
  -- the slots are taken off the items one by one
  induction count generalizing items slots with
  | zero =>
    cases items with
    | nil => simp [itemSlots?, eq_comm]
    | cons item items => simp [itemSlots?]
  | succ count ih =>
    cases items with
    | nil => simp [itemSlots?, eq_comm]
    | cons item items =>
      simp only [itemSlots?, Option.map_eq_some_iff, ih, List.length_cons, List.map_cons,
        List.cons_append]
      constructor
      · rintro ⟨rest, ⟨left, hlen, rfl⟩, rfl⟩
        exact ⟨left, by omega, rfl⟩
      · rintro ⟨left, hlen, rfl⟩
        exact ⟨_, ⟨left, by omega, rfl⟩, rfl⟩

/-- **The reader of records** takes exactly the values that are records. -/
theorem record?_eq_some_iff {keys : List Text} {j : Json} {slots : List Slot} :
    record? keys j = some slots ↔ IsRecord keys j slots := by
  constructor
  · intro h
    unfold record? at h
    split at h
    · next members =>
      -- an object has members under names only, and an array has its items in order
      split at h
      · simp at h
      · next hkeys =>
        refine .object members slots ?_ ?_
        · intro member hmem hnone
          exact hkeys (List.any_eq_true.mpr ⟨member, hmem, by simp [hnone]⟩)
        · exact (mapM_eq_some_iff.mp h).imp fun key slot => memberSlot?_eq_some_iff.mp
    · next items =>
      obtain ⟨left, hlen, rfl⟩ := itemSlots?_eq_some_iff.mp h
      exact .array items left hlen
    · simp at h
  · intro h
    cases h with
    | object members slots hkeys hslots =>
      have hnone : ¬(members.any (·.1.isNone)) = true := by
        rw [List.any_eq_true]
        rintro ⟨member, hmem, hmember⟩
        exact hkeys member hmem (Option.isNone_iff_eq_none.mp hmember)
      rw [record?, if_neg hnone, mapM_eq_some_iff]
      exact hslots.imp fun key slot => memberSlot?_eq_some_iff.mpr
    | array items left h => exact itemSlots?_eq_some_iff.mpr ⟨left, h, rfl⟩

/-! ### Fields -/

/-- A field that may be null and that an object may leave out; a value in it is of the kind `P`. -/
inductive IsOptional {α : Type} (P : Json → α → Prop) : Slot → Option α → Prop
  /-- The field is left out. -/
  | missing : IsOptional P .missing none
  /-- The field is null. -/
  | null : IsOptional P (.value .null) none
  /-- The field has a value. -/
  | value (j : Json) (a : α) (hne : j ≠ .null) (h : P j a) : IsOptional P (.value j) (some a)

section

variable {α : Type} {read : Json → Option α} {slot : Slot}

theorem Slot.required?_eq_some_iff {a : α} :
    slot.required? read = some a ↔ ∃ j, slot = .value j ∧ read j = some a := by
  cases slot with
  | missing => simp [required?]
  | ended => simp [required?]
  | value j => simp [required?]

theorem Slot.optional?_eq_some_iff {P : Json → α → Prop} (hread : ∀ j a, read j = some a ↔ P j a)
    {a? : Option α} : slot.optional? read = some a? ↔ IsOptional P slot a? := by
  constructor
  · intro h
    unfold optional? at h
    -- null, another value, no member, or an array that ended before
    split at h
    · obtain rfl := Option.some.inj h
      exact .null
    · next j hne =>
      obtain ⟨a, ha, rfl⟩ := Option.map_eq_some_iff.mp h
      exact .value j a hne ((hread j a).mp ha)
    · obtain rfl := Option.some.inj h
      exact .missing
    · simp at h
  · intro h
    cases h with
    | missing => rfl
    | null => rfl
    | value j a hne h =>
      have hsome := (hread j a).mpr h
      cases j with
      | null => exact absurd rfl hne
      | _ => simp [optional?, hsome]

end

theorem text?_eq_some_iff {j : Json} {s : Text} : j.text? = some s ↔ j = .text s := by
  cases j <;> simp [text?, text]

theorem items_eq_some_iff {j : Json} {items : List Json} :
    j.items = some items ↔ j = .array items := by
  cases j <;> simp [Json.items]

/-! ### Whole numbers -/

/-- The decimal digits of a number: at least one, and no zero before another one. -/
structure IsNumeral (s : Text) : Prop where
  ne_nil : s ≠ []
  digits : ∀ c ∈ s, c.isDigit = true
  no_leading_zero : ∀ c t, s ≠ '0' :: c :: t

theorem wholePart?_eq_some_iff {s whole : Text} :
    wholePart? s = some (whole, []) ↔ whole = s ∧ IsNumeral s := by
  constructor
  · intro h
    unfold wholePart? at h
    split at h
    · simp at h
    · simp at h
    · next run rest hne hzero hrun =>
      obtain ⟨rfl, rfl⟩ := Prod.mk.inj (Option.some.inj h)
      obtain ⟨htake, hdrop⟩ := Prod.mk.inj hrun
      -- the digits are all of the text
      have hs : s = run := by
        rw [← List.takeWhile_append_dropWhile (p := Char.isDigit) (l := s), htake, hdrop,
          List.append_nil]
      subst hs
      refine ⟨rfl, hne, fun c hc => ?_, hzero⟩
      rw [← htake] at hc
      exact List.mem_takeWhile_imp hc
  · rintro ⟨rfl, h⟩
    have hrun : digits whole = (whole, []) := by
      rw [digits, List.takeWhile_eq_self_iff.mpr h.digits, List.dropWhile_eq_nil_iff.mpr h.digits]
    unfold wholePart?
    rw [hrun]
    split
    · next heq => exact absurd (Prod.mk.inj heq).1 h.ne_nil
    · next heq => exact absurd (Prod.mk.inj heq).1 (h.no_leading_zero _ _)
    · next heq =>
      obtain ⟨rfl, rfl⟩ := Prod.mk.inj heq
      rfl

theorem isNumeral_ofNat (n : ℕ) : IsNumeral (ofNat n) := by
  have hne : ∀ n, ofNat n ≠ [] := fun n => Nat.toDigits_ne_nil
  refine ⟨hne n, fun c => Nat.isDigit_of_mem_toDigits (by decide) (by decide), ?_⟩
  induction n using Nat.strong_induction_on with
  | _ n ih =>
    intro c t heq
    rcases Nat.lt_or_ge n 10 with hlt | hge
    · rw [ofNat, Nat.toDigits_of_lt_base hlt] at heq
      simp at heq
    · -- the last digit stands behind those of the tenth part
      rw [ofNat, Nat.toDigits_of_base_le (by decide) hge] at heq
      obtain ⟨d, u, hd⟩ := List.exists_cons_of_ne_nil (hne (n / 10))
      rw [ofNat] at hd
      rw [hd, List.cons_append] at heq
      obtain ⟨rfl, -⟩ := List.cons.inj heq
      cases u with
      | nil =>
        have hzero : n / 10 = 0 := by
          rw [← Nat.ofDigitChars_ten_toDigits (n := n / 10), hd]
          rfl
        omega
      | cons e u => exact ih (n / 10) (by omega) e u hd

/-- A digit is the one of its value. -/
theorem toDigits_of_isDigit {c : Char} (hc : c.isDigit = true) :
    c.toNat - 48 < 10 ∧ Nat.toDigits 10 (c.toNat - 48) = [c] := by
  obtain ⟨hlow, hhigh⟩ := isDigit_iff.mp hc
  have hlt : c.toNat - 48 < 10 := by omega
  have hc : (c.toNat - 48).digitChar = c := by
    rw [← Char.toNat_inj, Nat.toNat_digitChar_of_lt_ten hlt]
    omega
  exact ⟨hlt, by rw [Nat.toDigits_of_lt_base hlt, hc]⟩

/-- **A numeral is the one spelling of its value.** -/
theorem IsNumeral.ofNat_ofDigitChars {s : Text} (h : IsNumeral s) :
    ofNat (Nat.ofDigitChars 10 s 0) = s := by
  -- the last digit is the one that a number gives off first
  induction s using List.reverseRecOn with
  | nil => exact absurd rfl h.ne_nil
  | append_singleton s c ih =>
    obtain ⟨hlt, hdigit⟩ := toDigits_of_isDigit (h.digits c (by simp))
    have hvalue : Nat.ofDigitChars 10 (s ++ [c]) 0 =
        10 * Nat.ofDigitChars 10 s 0 + (c.toNat - 48) := by
      rw [Nat.ofDigitChars_append, Nat.ofDigitChars_cons, Nat.ofDigitChars_nil]
      rfl
    rw [hvalue]
    cases s with
    | nil => simpa [ofNat] using hdigit
    | cons d s =>
      have hfront : IsNumeral (d :: s) := by
        refine ⟨by simp, fun e he => h.digits e (List.mem_append_left _ he), fun e t heq => ?_⟩
        rw [heq] at h
        exact h.no_leading_zero e (t ++ [c]) rfl
      -- there are more digits, and the first one is no zero
      have hpos : 0 < Nat.ofDigitChars 10 (d :: s) 0 := by
        rw [Nat.pos_iff_ne_zero]
        intro hzero
        have hsame := ih hfront
        rw [hzero] at hsame
        rw [← hsame] at h
        exact h.no_leading_zero c [] rfl
      rw [ofNat, ← Nat.toDigits_append_toDigits (by decide) hpos hlt, hdigit]
      exact congrArg (· ++ [c]) (ih hfront)

/-- **The one spelling of a whole number** has its decimal digits. -/
theorem natBelow?_eq_some_iff {bound n : ℕ} {j : Json} :
    natBelow? bound j = some n ↔ j = .number (ofNat n) ∧ n < bound := by
  -- the reader adds digits up from the left, as the library does
  have hvalue : ∀ s : Text, s.foldl (fun n c => n * 10 + (c.toNat - 48)) 0 =
      Nat.ofDigitChars 10 s 0 := by
    intro s
    rw [Nat.ofDigitChars_eq_foldl]
    simp only [Nat.mul_comm 10]
    rfl
  constructor
  · intro h
    unfold natBelow? at h
    split at h
    · next literal =>
      split at h
      · next whole hwhole =>
        obtain ⟨rfl, hnumeral⟩ := wholePart?_eq_some_iff.mp hwhole
        dsimp only at h
        rw [hvalue] at h
        split at h
        · next hlt =>
          obtain rfl := Option.some.inj h
          exact ⟨by rw [hnumeral.ofNat_ofDigitChars], hlt⟩
        · simp at h
      · simp at h
    · simp at h
  · rintro ⟨rfl, hlt⟩
    have hwhole := wholePart?_eq_some_iff.mpr ⟨rfl, isNumeral_ofNat n⟩
    have hdigits : Nat.ofDigitChars 10 (ofNat n) 0 = n := Nat.ofDigitChars_ten_toDigits
    simp only [natBelow?, hwhole, hvalue, hdigits, hlt, if_true]

end MergeMessage.Json
