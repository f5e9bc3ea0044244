import MergeMessage.Proofs.BaseAddresses
import MergeMessage.Proofs.Octets

/-!
# Hosts that stand as they are

A host is decoded, mapped, composed and cut into labels, and each label may be encoded again.
Nothing of this changes labels of small ASCII letters with dots between them, and no such host is
taken for a number.

## Main definitions

* `Url.PlainHost` — labels of small letters.

## Main results

* `Url.host?_text` — the host is read as it is.
-/

namespace MergeMessage

/-! ### Texts of ASCII -/

/-- Characters of ASCII are taken apart into themselves. -/
theorem decomposeChar_of_lt {c : Char} (h : c.toNat < 0xC0) (depth : Nat) :
    decomposeChar depth c = [c] := by
  cases depth with
  | zero => rfl
  | succ depth => simp [decomposeChar, parts?_of_lt h]

/-- Only marks have a class. -/
theorem combiningClass_of_lt {c : Char} (h : c.toNat < 0x300) : combiningClass c = 0 :=
  if_pos h

theorem inMarkOrder_of_lt {s : Text} (h : ∀ c ∈ s, c.toNat < 0x300) : inMarkOrder s = s := by
  induction s with
  | nil => rfl
  | cons c s ih =>
    rw [List.forall_mem_cons] at h
    rw [inMarkOrder, ih h.2, insertMark_of_class_zero (combiningClass_of_lt h.1)]

theorem composeAfter_of_lt {s : Text} (h : ∀ c ∈ s, c.toNat < 0x300) (starter : Char) :
    composeAfter starter [] s = starter :: s := by
  induction s generalizing starter with
  | nil => rfl
  | cons c s ih =>
    rw [List.forall_mem_cons] at h
    simp [composeAfter, composite?_of_lt starter h.1, combiningClass_of_lt h.1, ih h.2]

/-- A text of ASCII is its own composed form. -/
theorem Text.composed_of_lt {s : Text} (h : ∀ c ∈ s, c.toNat < 0x80) : composed s = s := by
  have hmark : ∀ c ∈ s, c.toNat < 0x300 := fun c hc => Nat.lt_trans (h c hc) (by decide)
  have hapart : s.flatMap (decomposeChar 4) = s.flatMap fun c => [c] :=
    List.flatMap_congr fun c hc => decomposeChar_of_lt (Nat.lt_trans (h c hc) (by decide)) 4
  rw [composed, decomposed, hapart, List.flatMap_singleton', inMarkOrder_of_lt hmark]
  cases s with
  | nil => rfl
  | cons c s =>
    rw [List.forall_mem_cons] at hmark
    rw [compose, if_pos (combiningClass_of_lt hmark.1), composeAfter_of_lt hmark.2]

namespace Url

/-- Without percent signs nothing is decoded. -/
theorem percentDecode_of_notMem {s : Text} (h : '%' ∉ s) : percentDecode s = Text.octets s := by
  induction s with
  | nil => simp [percentDecode, Text.octets]
  | cons c s ih =>
    rw [List.mem_cons, not_or] at h
    rw [percentDecode, ih h.2, Text.octets, Text.octets, List.flatMap_cons]
    exact fun _ _ _ heq => absurd heq.symm h.1

theorem mapHostChars?_of_forall {s : Text} (h : ∀ c ∈ s, mapHostChar? c = some [c]) :
    mapHostChars? s = some s := by
  induction s with
  | nil => rfl
  | cons c s ih =>
    rw [List.forall_mem_cons] at h
    simp [mapHostChars?, h.1, ih h.2]

/-- Directions are those of writing beyond ASCII. -/
theorem isRightToLeft_of_lt {c : Char} (h : c.toNat < 0x80) :
    (Direction.ofChar c).isRightToLeft = false := by
  rw [Direction.ofChar, if_pos h]
  split
  · rfl
  · split <;> rfl

/-! ### Characters and labels -/

/-- A character that stands in a host as it is. -/
structure IsHostChar (c : Char) : Prop where
  ascii : c.toNat < 0x80
  mapped : mapHostChar? c = some [c]
  allowed : isForbiddenInDomain c = false

instance : DecidablePred IsHostChar := fun c =>
  decidable_of_iff (c.toNat < 0x80 ∧ mapHostChar? c = some [c] ∧ isForbiddenInDomain c = false)
    ⟨fun ⟨ascii, mapped, allowed⟩ => ⟨ascii, mapped, allowed⟩,
      fun ⟨ascii, mapped, allowed⟩ => ⟨ascii, mapped, allowed⟩⟩

namespace IsHostChar

variable {c d : Char}

theorem of_isLower (h : c.isLower = true) : IsHostChar c := by
  have hascii : c.toNat < 0x80 := Nat.lt_of_le_of_lt (isLower_iff.mp h).2 (by decide)
  revert h
  refine forall_of_toNat_lt ?_ c hascii
  decide

theorem ne (h : IsHostChar c) (hd : isForbiddenInDomain d = true) : c ≠ d := by
  rintro rfl
  exact Bool.false_ne_true (h.allowed.symm.trans hd)

theorem visible (h : IsHostChar c) : 0x20 < c.toNat := by
  have hallowed := h.allowed
  simp only [isForbiddenInDomain, Bool.or_eq_false_iff, decide_eq_false_iff_not] at hallowed
  omega

theorem noSlash (h : IsHostChar c) : SchemeKind.web.isSlash c = false := by
  simp [SchemeKind.isSlash, h.ne (d := '/') (by decide), h.ne (d := '\\') (by decide)]

/-- The host goes on where the character stands. -/
theorem noEnd (h : IsHostChar c) : endsAuthority .web c = false := by
  simp [endsAuthority, endsPath, h.noSlash, h.ne (d := '?') (by decide),
    h.ne (d := '#') (by decide)]

end IsHostChar

theorem labelText?_of_isLower {label : Text} (h : ∀ c ∈ label, c.isLower = true) :
    labelText? label = some label := by
  have hunmarked : encodedMark.isPrefixOf? label = none := by
    refine Option.eq_none_iff_forall_not_mem.mpr fun rest hrest => ?_
    -- the mark of encoded labels ends in two dashes
    have hdash : '-' ∈ label := by
      rw [← List.isPrefixOf?_eq_some_iff_append_eq.mp hrest]
      exact List.mem_append_left rest (by decide)
    exact absurd (h _ hdash) (by decide)
  have hascii : (label.all fun c => decide (c.toNat < 0x80)) = true :=
    List.all_eq_true.mpr fun c hc => decide_eq_true (IsHostChar.of_isLower (h c hc)).ascii
  simp only [labelText?, hunmarked, hascii, Bool.true_or, if_true]

theorem encodeLabel_of_isLower {label : Text} (h : ∀ c ∈ label, c.isLower = true) :
    encodeLabel label = label :=
  if_pos (List.all_eq_true.mpr fun c hc => decide_eq_true (IsHostChar.of_isLower (h c hc)).ascii)

/-- A small letter is no decimal digit. -/
theorem digitsValue?_of_isLower {c : Char} (h : c.isLower = true) (s : Text) :
    digitsValue? 10 (c :: s) = none := by
  have hdigit :
      (hexDigit? c).bind (fun d => if d < 10 then some (0 * 10 + d) else none) = none := by
    have hascii := (IsHostChar.of_isLower h).ascii
    revert h
    refine forall_of_toNat_lt ?_ c hascii
    decide
  rw [digitsValue?, List.foldlM_cons, hdigit]
  rfl

theorem ipv4Number?_of_isLower {c : Char} (h : c.isLower = true) (s : Text) :
    ipv4Number? (c :: s) = none := by
  have hzero : c ≠ '0' := by
    rintro rfl
    exact absurd h (by decide)
  unfold ipv4Number?
  split
  · rfl
  · next heq => exact absurd (List.cons.inj heq).1 hzero
  · next heq => exact absurd (List.cons.inj heq).1 hzero
  · next heq => exact absurd (List.cons.inj heq).1 hzero
  · exact digitsValue?_of_isLower h s

theorem mapM_labelText?_of_isLower {labels : List Text}
    (h : ∀ label ∈ labels, ∀ c ∈ label, c.isLower = true) :
    labels.mapM labelText? = some labels := by
  induction labels with
  | nil => rfl
  | cons label labels ih =>
    rw [List.forall_mem_cons] at h
    simp [List.mapM_cons, labelText?_of_isLower h.1, ih h.2]

/-! ### Hosts -/

/-- A host of labels of small letters. -/
structure PlainHost where
  /-- The labels between the dots. -/
  labels : List Text
  /-- There is one, and none is empty. -/
  labels_ne_nil : labels ≠ []
  label_ne_nil : ∀ label ∈ labels, label ≠ []
  /-- Their characters are small letters of ASCII. -/
  lower : ∀ label ∈ labels, ∀ c ∈ label, c.isLower = true

namespace PlainHost

variable (host : PlainHost)

/-- The host as it is written. -/
def text : Text := Text.join ['.'] host.labels

theorem isHostChar : ∀ c ∈ host.text, IsHostChar c := by
  intro c hc
  rcases Text.mem_join hc with hc | ⟨label, hlabel, hc⟩
  · obtain rfl := List.mem_singleton.mp hc
    decide
  · exact .of_isLower (host.lower label hlabel c hc)

theorem pieces_text : Text.pieces '.' host.text = host.labels :=
  Text.pieces_join host.labels_ne_nil fun label hlabel hdot =>
    absurd (host.lower label hlabel '.' hdot) (by decide)

theorem notMem {d : Char} (hd : isForbiddenInDomain d = true) : d ∉ host.text :=
  fun hmem => (host.isHostChar d hmem).ne hd rfl

theorem text_ne_nil : host.text ≠ [] := by
  intro hnil
  have hlabels := host.pieces_text
  rw [hnil] at hlabels
  exact host.label_ne_nil [] (by rw [← hlabels]; exact List.mem_singleton_self _) rfl

/-- Each step that makes the plain form of a domain name leaves the host as it is. -/
theorem domain?_text : domain? host.text = some host.text := by
  -- lowercase ASCII passes every step of the host rules as it is
  have hchars := host.isHostChar
  have hmapped : mapHostChars? host.text = some host.text :=
    mapHostChars?_of_forall fun c hc => (hchars c hc).mapped
  have hcomposed : Text.composed host.text = host.text :=
    Text.composed_of_lt fun c hc => (hchars c hc).ascii
  have hallowed : host.text.any isForbiddenInDomain = false :=
    List.any_eq_false.mpr fun c hc => by simp [(hchars c hc).allowed]
  have hdirection : labelsKeepDirection host.labels = true :=
    labelsKeepDirection_of_none fun label hlabel c hc =>
      isRightToLeft_of_lt (IsHostChar.of_isLower (host.lower label hlabel c hc)).ascii
  have hencoded : host.labels.map encodeLabel = host.labels := by
    rw [List.map_congr_left fun label hlabel => encodeLabel_of_isLower (host.lower label hlabel)]
    exact List.map_id' _
  simp only [domain?, hmapped, hcomposed, hallowed, host.pieces_text,
    mapM_labelText?_of_isLower host.lower, hdirection, hencoded,
    Option.bind_eq_bind, Option.bind_some, Bool.false_eq_true, if_false, if_true]
  rfl

/-- The last label starts with a letter. -/
theorem endsInNumber_text : endsInNumber host.text = false := by
  obtain ⟨labels, last, hlabels⟩ : ∃ labels last, host.labels = labels ++ [last] := by
    simpa using List.eq_nil_or_concat host.labels |>.resolve_left host.labels_ne_nil
  have hmem : last ∈ host.labels := by simp [hlabels]
  obtain ⟨c, word, rfl⟩ := List.exists_cons_of_ne_nil (host.label_ne_nil last hmem)
  have hlower : c.isLower = true := host.lower _ hmem c List.mem_cons_self
  have hdigit : c.isDigit = false := by
    have hrange := isLower_iff.mp hlower
    rw [Bool.eq_false_iff, ne_eq, isDigit_iff]
    omega
  have hparts : dottedParts host.text = labels ++ [c :: word] := by
    simp [dottedParts, host.pieces_text, hlabels]
  simp [endsInNumber, hparts, hdigit, ipv4Number?_of_isLower hlower]

/-- **Hosts of small letters.**  The host is read as it is. -/
theorem host?_text : host? host.text = some host.text := by
  have hbracket : bracketed? host.text = none := by
    unfold bracketed?
    split
    · next rest heq => exact absurd (heq ▸ List.mem_cons_self) (host.notMem (d := '[') (by decide))
    · rfl
  rw [host?, hbracket, percentDecode_of_notMem (host.notMem (by decide)), Octets.text?_octets]
  simp [host.domain?_text, host.text_ne_nil, host.endsInNumber_text]

end PlainHost

end Url

end MergeMessage
