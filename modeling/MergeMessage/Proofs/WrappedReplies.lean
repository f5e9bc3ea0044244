import MergeMessage.Proofs.CleanMessages

/-!
# Wrapped messages

A model may put a label before a message, quotes around that, and a code fence around it all.  The
wrappers are taken off from the outside in, each if it is there, and a step must not take a part of
the message for a wrapper.  For a message that neither starts nor ends like one, any choice of
wrappers is undone exactly, and blank characters around the whole make no difference.

## Main definitions

* `Wrapping`, `Wrapping.wrap` — a choice of wrappers, and a text in them.
* `IsBare` — a message that does not look wrapped.
* `unfenced` — a reply without the fence and the blank characters around it.

## Main results

* `unfenced_fenced` — a fence with a language is taken off.
* `dropLabel_headed` — so is the label, in any letter case.
* `unwrap_wrap` — unwrapping undoes wrapping.
* `messageOfReply_wrap` — a wrapped message becomes what the bare one becomes.
-/

namespace MergeMessage.Commit

open Text

/-! ### Wrappers -/

/-- The label in some letter case. -/
def IsLabel (s : Text) : Prop := s.map foldCase = label

instance : DecidablePred IsLabel := fun s => inferInstanceAs (Decidable (s.map foldCase = label))

/-- The heading is missing, or it is the label and blank characters. -/
def IsHeading (heading : Option (Text × Text)) : Prop :=
  ∀ h ∈ heading, IsLabel h.1 ∧ ∀ c ∈ h.2, isBlank c = true

/-- The wrappers that stand around a message, of which any may be missing. -/
structure Wrapping where
  /-- What follows the marks of the opening fence on their line. -/
  info : Option Text
  /-- The quote mark on both sides. -/
  quote : Option Char
  /-- The label, and the blank characters behind it. -/
  heading : Option (Text × Text)
  /-- What follows the marks of the fence has no line feed, no space and no colon. -/
  info_word : ∀ t ∈ info, ∀ c ∈ t, c ≠ '\n' ∧ c ≠ ' ' ∧ c ≠ ':'
  /-- The quote mark is a straight quote. -/
  quote_mark : ∀ q ∈ quote, isQuoteMark q = true
  /-- The heading is the label and blank characters. -/
  heading_label : IsHeading heading

/-- The text between two fences. -/
def fenced : Option Text → Text → Text
  | none, s => s
  | some info, s => fence ++ (info ++ '\n' :: (s ++ '\n' :: fence))

/-- The text between two quote marks. -/
def quoted : Option Char → Text → Text
  | none, s => s
  | some q, s => q :: (s ++ [q])

/-- The text behind a label. -/
def headed : Option (Text × Text) → Text → Text
  | none, s => s
  | some (l, blanks), s => l ++ (blanks ++ s)

/-- The text in its wrappers: the fence outside of the quotes outside of the label. -/
def Wrapping.wrap (w : Wrapping) (s : Text) : Text :=
  fenced w.info (quoted w.quote (headed w.heading s))

/-- A trimmed message that neither starts nor ends with a fence or a quote, and does not start with
the label. -/
structure IsBare (m : Text) : Prop where
  trimmed : m.trim = m
  no_opening_fence : ¬fence <+: m
  no_closing_fence : ¬fence <:+ m
  no_opening_quote : ∀ c ∈ m.head?, isQuoteMark c = false
  no_closing_quote : ∀ c ∈ m.getLast?, isQuoteMark c = false
  no_label : ¬label <+: m.map foldCase

/-! ### Edges -/

/-- A character that belongs to no fence and to no quotes. -/
structure IsEdge (c : Char) : Prop where
  not_fence : c ≠ '\x60'
  not_quote : isQuoteMark c = false

theorem isQuoteMark_iff {c : Char} : isQuoteMark c = true ↔ c = '"' ∨ c = '\'' := by
  simp [isQuoteMark]

theorem isEdge_of_isBlank {c : Char} (h : isBlank c = true) : IsEdge c := by
  constructor
  · rintro rfl
    exact absurd h (by decide)
  · rw [Bool.eq_false_iff, ne_eq, isQuoteMark_iff]
    rintro (rfl | rfl)
    · exact absurd h (by decide)
    · exact absurd h (by decide)

/-- Only letters have a letter case. -/
theorem foldCase_eq_self {c : Char} (h : (foldCase c).isLower = false) : foldCase c = c := by
  unfold foldCase at h ⊢
  split
  · next hlong => simp [hlong] at h
  split
  · next hlong hkelvin => simp [hkelvin] at h
  · next hlong hkelvin =>
    rw [if_neg hlong, if_neg hkelvin] at h
    refine Char.toLower_eq_of_not_isUpper fun hupper => ?_
    simp [Char.isAlpha, hupper] at h

theorem foldCase_of_isBlank {c : Char} (h : isBlank c = true) : foldCase c = c := by
  rw [isBlank_iff] at h
  have hupper : c.isUpper = false := isUpper_eq_false_iff.mpr (by omega)
  rw [foldCase, if_neg (by omega), if_neg (by omega),
    Char.toLower_eq_of_not_isUpper (by simp [hupper])]

/-! ### Fences -/

/-- A text that does not start with the mark of a fence does not start with a fence. -/
theorem not_fence_prefix_cons {c : Char} (hc : c ≠ '\x60') (s : Text) : ¬fence <+: c :: s := by
  rintro ⟨t, ht⟩
  exact hc (List.cons.inj ht).1.symm

/-- A fence at the end stands behind all other characters. -/
theorem fence_suffix_of_append_cons {c : Char} (hc : c ≠ '\x60') {s t : Text}
    (h : fence <:+ s ++ c :: t) : fence <:+ t := by
  obtain ⟨front, hfront⟩ := h
  rcases append_eq_append_cons hfront with ⟨b, -, rfl⟩ | ⟨mid, -, hmid⟩
  · exact ⟨b, rfl⟩
  · -- the character would be one of the marks
    have hmem : c ∈ fence := by rw [hmid]; simp
    exact absurd hmem (by simp [fence, hc])

/-- A reply without the fence and the blank characters around it. -/
def unfenced (reply : Text) : Text := (dropClosingFence (dropOpeningFence reply.trim)).trim

theorem unwrap_eq (reply : Text) :
    unwrap reply = dropLabel (((unfenced reply).dropFirstIf isQuoteMark).dropLastIf isQuoteMark) :=
  rfl

theorem unfenced_of_no_fence {s : Text} (hopen : ¬fence <+: s.trim) (hclose : ¬fence <:+ s.trim) :
    unfenced s = s.trim := by
  rw [unfenced, dropOpeningFence_of_not_prefix hopen, dropClosingFence_of_not_suffix hclose,
    trim_trim]

/-- The first line of a fence is dropped if it is a single word. -/
theorem dropOpeningFence_info {info : Text} (h : ∀ c ∈ info, c ≠ '\n' ∧ c ≠ ' ' ∧ c ≠ ':')
    (s : Text) : dropOpeningFence (fence ++ (info ++ '\n' :: s)) = s := by
  have hrest : fence.isPrefixOf? (fence ++ (info ++ '\n' :: s)) = some (info ++ '\n' :: s) :=
    List.isPrefixOf?_eq_some_iff_append_eq.mpr rfl
  have hsplit : splitOnce? (info ++ '\n' :: s) ['\n'] = some (info, s) :=
    splitOnce?_append (fun hmem => (h _ hmem).1 rfl) [] s
  have hword : (Text.trim info).any (fun c => c == ' ' || c == ':') = false := by
    rw [List.any_eq_false]
    intro c hc
    obtain ⟨-, hspace, hcolon⟩ := h c (mem_of_mem_trim hc)
    simp [hspace, hcolon]
  rw [dropOpeningFence, hrest]
  simp only [hsplit, hword, Bool.false_eq_true, if_false]

theorem dropClosingFence_append (s : Text) : dropClosingFence (s ++ fence) = s := by
  have hrest : fence.reverse.isPrefixOf? (s ++ fence).reverse = some s.reverse :=
    List.isPrefixOf?_eq_some_iff_append_eq.mpr (List.reverse_append ..).symm
  rw [dropClosingFence, List.isSuffixOf?, hrest, Option.map_some, Option.getD_some,
    List.reverse_reverse]

/-- **A fence with a language** is taken off. -/
theorem unfenced_fenced {info : Text} (h : ∀ c ∈ info, c ≠ '\n' ∧ c ≠ ' ' ∧ c ≠ ':') (s : Text) :
    unfenced (fenced (some info) s) = s.trim := by
  have hfenced : fenced (some info) s = fence ++ (info ++ '\n' :: (s ++ ['\n'])) ++ fence := by
    simp [fenced]
  have htrim : (fenced (some info) s).trim = fenced (some info) s := by
    refine trim_eq_self_iff.mpr ⟨?_, fun c hc => ?_⟩
    · exact (stopsAt_cons isBlank '\x60' _).mpr (by decide)
    · rw [hfenced, List.getLast?_append_of_ne_nil _ (by decide)] at hc
      obtain rfl : '\x60' = c := Option.some.inj hc
      decide
  have hassoc : s ++ '\n' :: fence = (s ++ ['\n']) ++ fence := by simp
  rw [unfenced, htrim, fenced, dropOpeningFence_info h, hassoc, dropClosingFence_append,
    trim_append_blank (by decide)]

/-! ### The label -/

section

variable {l blanks : Text} (hl : IsLabel l)

include hl

/-- The label starts with a letter. -/
theorem exists_label_cons : ∃ c t, l = c :: t ∧ isBlank c = false ∧ IsEdge c := by
  cases l with
  | nil => exact absurd hl (by decide)
  | cons c t =>
    have hfold : foldCase c = 'c' := (List.cons.inj hl).1
    refine ⟨c, t, rfl, ?_, ?_, ?_⟩
    · rw [Bool.eq_false_iff]
      intro hblank
      rw [foldCase_of_isBlank hblank] at hfold
      subst hfold
      exact absurd hblank (by decide)
    · rintro rfl
      exact absurd hfold (by decide)
    · rw [Bool.eq_false_iff, ne_eq, isQuoteMark_iff]
      rintro (rfl | rfl)
      · exact absurd hfold (by decide)
      · exact absurd hfold (by decide)

/-- The label ends with a colon. -/
theorem exists_label_concat : ∃ t, l = t ++ [':'] := by
  rcases List.eq_nil_or_concat l with rfl | ⟨t, c, rfl⟩
  · exact absurd hl (by decide)
  · rw [IsLabel, List.concat_eq_append, List.map_append] at hl
    have hlast := congrArg List.getLast? hl
    rw [List.map_singleton, List.getLast?_concat] at hlast
    have hfold : foldCase c = ':' := Option.some.inj hlast
    have hself : foldCase c = c := foldCase_eq_self (by rw [hfold]; decide)
    exact ⟨t, by rw [List.concat_eq_append, ← hself, hfold]⟩

theorem trim_label : l.trim = l := by
  obtain ⟨c, t, hcons, hc, -⟩ := exists_label_cons hl
  obtain ⟨u, hconcat⟩ := exists_label_concat hl
  refine trim_eq_self_iff.mpr ⟨by simpa [hcons] using hc, fun d hd => ?_⟩
  obtain rfl : ':' = d := by simpa [hconcat] using hd
  decide

/-- Before the message comes the colon of the label, or a blank character. -/
theorem exists_heading_concat (hblanks : ∀ c ∈ blanks, isBlank c = true) :
    ∃ t c, l ++ blanks = t ++ [c] ∧ IsEdge c := by
  rcases List.eq_nil_or_concat blanks with rfl | ⟨t, c, rfl⟩
  · obtain ⟨t, rfl⟩ := exists_label_concat hl
    exact ⟨t, ':', by simp, by decide, by decide⟩
  · exact ⟨l ++ t, c, by simp, isEdge_of_isBlank (hblanks c (by simp))⟩

/-- The label is taken off with the blank characters behind it. -/
theorem dropLabel_append {s : Text} (hblanks : ∀ c ∈ blanks, isBlank c = true)
    (hs : StopsAt isBlank s) : dropLabel (l ++ (blanks ++ s)) = s := by
  have hlen : label.length = l.length := by rw [← hl, List.length_map]
  have hpre : label.isPrefixOf ((l ++ (blanks ++ s)).map foldCase) = true := by
    rw [List.isPrefixOf_iff_prefix, List.map_append, hl]
    exact List.prefix_append _ _
  rw [dropLabel, if_pos hpre, hlen, List.drop_left, dropWhile_append_stop hblanks hs]

end

theorem dropLabel_of_no_label {s : Text} (h : ¬label <+: s.map foldCase) : dropLabel s = s := by
  rw [dropLabel, if_neg (by rwa [List.isPrefixOf_iff_prefix])]

section

variable {m : Text} (hm : IsBare m) {heading : Option (Text × Text)} (hh : IsHeading heading)

include hm hh

/-- A message behind a label neither starts nor ends like one in other wrappers. -/
theorem headed_edges :
    ¬fence <+: headed heading m ∧ ¬fence <:+ headed heading m ∧
      (∀ c ∈ (headed heading m).head?, isQuoteMark c = false) ∧
      ∀ c ∈ (headed heading m).getLast?, isQuoteMark c = false := by
  cases heading with
  | none =>
    exact ⟨hm.no_opening_fence, hm.no_closing_fence, hm.no_opening_quote, hm.no_closing_quote⟩
  | some h =>
    obtain ⟨hl, hblanks⟩ := hh h rfl
    -- the front is the label's, the end the message's, or the label's again when that is empty
    obtain ⟨c, t, hcons, -, hc⟩ := exists_label_cons hl
    obtain ⟨u, d, hconcat, hd⟩ := exists_heading_concat hl hblanks
    have hfront : headed (some h) m = c :: (t ++ (h.2 ++ m)) := by
      rw [headed, hcons, List.cons_append]
    have hback : headed (some h) m = u ++ d :: m := by
      rw [headed, ← List.append_assoc, hconcat, List.append_assoc, List.singleton_append]
    refine ⟨?_, ?_, ?_, ?_⟩
    · rw [hfront]
      exact not_fence_prefix_cons hc.not_fence _
    · rw [hback]
      exact fun hsuffix => hm.no_closing_fence (fence_suffix_of_append_cons hd.not_fence hsuffix)
    · rw [hfront]
      rintro e ⟨⟩
      exact hc.not_quote
    · intro e he
      rw [hback, List.getLast?_append_of_ne_nil _ (by simp), List.getLast?_cons] at he
      cases hlast : m.getLast? with
      | none =>
        obtain rfl : d = e := by simpa [hlast] using he
        exact hd.not_quote
      | some e' =>
        obtain rfl : e' = e := by simpa [hlast] using he
        exact hm.no_closing_quote e' hlast

/-- **The label**, in any letter case, is taken off. -/
theorem dropLabel_headed : dropLabel (headed heading m) = m := by
  cases heading with
  | none => exact dropLabel_of_no_label hm.no_label
  | some h => exact dropLabel_append (hh h rfl).1 (hh h rfl).2 (trim_eq_self_iff.mp hm.trimmed).1

/-- Trimming may only take blank characters behind the label, if no message follows. -/
theorem exists_trim_headed :
    ∃ heading', IsHeading heading' ∧ (headed heading m).trim = headed heading' m := by
  cases heading with
  | none => exact ⟨none, hh, hm.trimmed⟩
  | some h =>
    obtain ⟨hl, hblanks⟩ := hh h rfl
    obtain ⟨c, t, hcons, hc, -⟩ := exists_label_cons hl
    by_cases hnil : m = []
    · -- a bare label loses the blanks behind it, so the heading comes out shorter
      subst hnil
      refine ⟨some (h.1, []), ?_, ?_⟩
      · rintro h' ⟨⟩
        exact ⟨hl, List.forall_mem_nil _⟩
      · simpa [headed, trim_label hl] using trim_append_append (List.forall_mem_nil _) hblanks h.1
    · refine ⟨some h, hh, trim_eq_self_iff.mpr ⟨?_, ?_⟩⟩
      · rw [headed, hcons, List.cons_append, stopsAt_cons]
        exact hc
      · rw [headed, List.getLast?_append_of_ne_nil _ (by simp [hnil]),
          List.getLast?_append_of_ne_nil _ hnil]
        exact (trim_eq_self_iff.mp hm.trimmed).2

end

/-! ### Quotes -/

section

variable {quote : Option Char} (hquote : ∀ q ∈ quote, isQuoteMark q = true) {s : Text}

include hquote

/-- Quotes around a text without quotes at its ends are taken off. -/
theorem dropLastIf_dropFirstIf_quoted (hfirst : ∀ c ∈ s.head?, isQuoteMark c = false)
    (hlast : ∀ c ∈ s.getLast?, isQuoteMark c = false) :
    ((quoted quote s).dropFirstIf isQuoteMark).dropLastIf isQuoteMark = s := by
  cases quote with
  | none =>
    have hself : s.dropFirstIf isQuoteMark = s := by
      cases s with
      | nil => rfl
      | cons c s => simp [dropFirstIf, hfirst c rfl]
    rw [quoted, hself, dropLastIf_eq_self_iff.mpr hlast]
  | some q =>
    have hq := hquote q rfl
    simp [quoted, dropFirstIf, dropLastIf, hq]

/-- Quotes are trimmed as they stand, and no text in them starts or ends with a fence. -/
theorem quoted_edges (hsome : quote ≠ none) :
    (quoted quote s).trim = quoted quote s ∧ ¬fence <+: quoted quote s ∧
      ¬fence <:+ quoted quote s := by
  obtain ⟨q, rfl⟩ := Option.ne_none_iff_exists'.mp hsome
  have hmark := isQuoteMark_iff.mp (hquote q rfl)
  have hblank : isBlank q = false := by rcases hmark with rfl | rfl <;> decide
  have hfence : q ≠ '\x60' := by rcases hmark with rfl | rfl <;> decide
  refine ⟨trim_eq_self_iff.mpr ⟨?_, fun c hc => ?_⟩, not_fence_prefix_cons hfence _, fun h => ?_⟩
  · rw [quoted, stopsAt_cons]
    exact hblank
  · rw [quoted, ← List.cons_append, List.getLast?_concat] at hc
    obtain rfl := Option.some.inj hc
    exact hblank
  · rw [quoted, ← List.cons_append] at h
    exact absurd (fence_suffix_of_append_cons hfence h) (by decide)

end

/-! ### All wrappers -/

section

variable {m : Text} (hm : IsBare m)

include hm

/-- Within the fence stands the message in its other wrappers, and no other fence is in the way. -/
theorem exists_trim_quoted {quote : Option Char} (hquote : ∀ q ∈ quote, isQuoteMark q = true)
    {heading : Option (Text × Text)} (hh : IsHeading heading) :
    ∃ heading', IsHeading heading' ∧
      (quoted quote (headed heading m)).trim = quoted quote (headed heading' m) ∧
      ¬fence <+: quoted quote (headed heading' m) ∧
      ¬fence <:+ quoted quote (headed heading' m) := by
  cases quote with
  | none =>
    obtain ⟨heading', hh', htrim⟩ := exists_trim_headed hm hh
    obtain ⟨hopen, hclose, -, -⟩ := headed_edges hm hh'
    exact ⟨heading', hh', htrim, hopen, hclose⟩
  | some q => exact ⟨heading, hh, quoted_edges hquote (by simp)⟩

/-- **Unwrapping undoes wrapping.** -/
theorem unwrap_wrap (w : Wrapping) : unwrap (w.wrap m) = m := by
  obtain ⟨heading, hh, htrim, hopen, hclose⟩ := exists_trim_quoted hm w.quote_mark w.heading_label
  -- with the fence, only blank characters behind a label may be gone
  have hinner : unfenced (w.wrap m) = quoted w.quote (headed heading m) := by
    rw [Wrapping.wrap, ← htrim]
    cases hinfo : w.info with
    | none => exact unfenced_of_no_fence (htrim ▸ hopen) (htrim ▸ hclose)
    | some info => exact unfenced_fenced (w.info_word info hinfo) _
  obtain ⟨-, -, hfirst, hlast⟩ := headed_edges hm hh
  rw [unwrap_eq, hinner, dropLastIf_dropFirstIf_quoted w.quote_mark hfirst hlast,
    dropLabel_headed hm hh]

end

/-- No wrappers at all. -/
def Wrapping.nothing : Wrapping := ⟨none, none, none, by simp, by simp, by simp [IsHeading]⟩

/-- **Wrappers make no difference.**  Whatever wrappers a bare message stands in, with whatever
blank characters around them, it becomes what it becomes on its own. -/
theorem messageOfReply_wrap (w : Wrapping) {m lead tail : Text} (hm : IsBare m)
    (hlead : ∀ c ∈ lead, isBlank c = true) (htail : ∀ c ∈ tail, isBlank c = true)
    (ticket : Option Text) :
    messageOfReply (lead ++ (w.wrap m ++ tail)) ticket = messageOfReply m ticket := by
  have hwrapped : unwrap (lead ++ (w.wrap m ++ tail)) = unwrap (w.wrap m) := by
    rw [unwrap, unwrap, trim_append_append hlead htail]
  have hbare : unwrap m = m := unwrap_wrap hm Wrapping.nothing
  rw [messageOfReply, messageOfReply, hwrapped, unwrap_wrap hm, hbare]

/-- All wrappers at once. -/
def Wrapping.crowded : Wrapping where
  info := some "rust'".toList
  quote := some '"'
  heading := some ("COMMIT Message:".toList, "\t\n".toList)
  info_word := by simp
  quote_mark := by simp [isQuoteMark]
  heading_label := by
    rintro h ⟨⟩
    exact ⟨by decide, List.all_eq_true.mp (by decide)⟩

/-- Marks of wrappers inside of a message stay. -/
theorem messageOfReply_wrap_crowded :
    IsBare "Fix(ui): Add \x60x\x60\n\nSee \"\x60\x60\x60y".toList ∧
      messageOfReply ("\n \x60\x60\x60rust'\n\"COMMIT Message:\t\nFix(ui): ".toList ++
          "Add \x60x\x60\n\nSee \"\x60\x60\x60y\"\n\x60\x60\x60 ".toList) (some "ECHO-1".toList) =
        "fix(ui): add \x60x\x60\n\nSee \"\x60\x60\x60y\n\nECHO-1".toList := by
  have hbare : IsBare "Fix(ui): Add \x60x\x60\n\nSee \"\x60\x60\x60y".toList := by
    refine ⟨by decide, by decide, by decide, ?_, ?_, by decide⟩
    · rintro c ⟨⟩
      decide
    · rintro c ⟨⟩
      decide
  have hlead : ∀ c ∈ "\n ".toList, isBlank c = true := List.all_eq_true.mp (by decide)
  have htail : ∀ c ∈ " ".toList, isBlank c = true := List.all_eq_true.mp (by decide)
  have hsame := messageOfReply_wrap Wrapping.crowded hbare hlead htail (some "ECHO-1".toList)
  exact ⟨hbare, hsame.trans (by decide)⟩

end MergeMessage.Commit
