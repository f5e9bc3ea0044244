import MergeMessage.Proofs.Characters

/-!
# Cutting texts

Facts about the pieces that texts are cut into: runs of a class of characters at either end,
words between separators, and lines.

## Main results

* `takeWhile_append_stop`, `dropWhile_append_stop` — a run ends where its class ends.
* `exists_dropEndWhile_append` — what is dropped at an end lies in the class.
* `pieces_append_sep` — the first word, and the words after its separator.
* `pieces_induction` — induction along the pieces of a text.
* `lines_append_newline` — the first line, and the lines after it.
-/

namespace MergeMessage.Text

/-! ### Runs at the front -/

/-- What a text starts with is outside of the class: it is empty, or its first character is
none of the class. -/
def StopsAt (p : Char → Bool) (s : Text) : Prop := ∀ c ∈ s.head?, p c = false

@[simp] theorem stopsAt_nil (p : Char → Bool) : StopsAt p [] := by simp [StopsAt]

@[simp] theorem stopsAt_cons (p : Char → Bool) (c : Char) (s : Text) :
    StopsAt p (c :: s) ↔ p c = false := by
  simp [StopsAt]

/-- Whether a text stops at its front does not depend on what follows a character that stops. -/
theorem stopsAt_append_cons {p : Char → Bool} {c : Char} (h : p c = false) (s t : Text) :
    StopsAt p (s ++ c :: t) ↔ StopsAt p s := by
  cases s with
  | nil => simp [h]
  | cons d s => simp

theorem stopsAt_append {p : Char → Bool} {s t : Text} (hs : StopsAt p s) (ht : StopsAt p t) :
    StopsAt p (s ++ t) := by
  cases s with
  | nil => exact ht
  | cons c s => simpa using hs

theorem stopsAt_of_append {p : Char → Bool} {s t : Text} (h : StopsAt p (s ++ t)) :
    StopsAt p s := by
  cases s with
  | nil => exact stopsAt_nil p
  | cons c s => simpa using h

/-- A text that stops at a class stops at the classes within it. -/
theorem StopsAt.imp {p q : Char → Bool} {s : Text} (h : StopsAt q s)
    (himp : ∀ c, q c = false → p c = false) : StopsAt p s :=
  fun c hc => himp c (h c hc)

theorem takeWhile_append_stop {p : Char → Bool} {run rest : Text} (hrun : ∀ c ∈ run, p c = true)
    (hrest : StopsAt p rest) : (run ++ rest).takeWhile p = run := by
  rw [List.takeWhile_append_of_pos hrun]
  cases rest with
  | nil => simp
  | cons c s => simp [(stopsAt_cons p c s).mp hrest]

theorem dropWhile_append_stop {p : Char → Bool} {run rest : Text} (hrun : ∀ c ∈ run, p c = true)
    (hrest : StopsAt p rest) : (run ++ rest).dropWhile p = rest := by
  rw [List.dropWhile_append_of_pos hrun]
  cases rest with
  | nil => rfl
  | cons c s => simp [(stopsAt_cons p c s).mp hrest]

/-- A run ends before a character outside of its class, whatever comes before that. -/
theorem takeWhile_append_cons {p : Char → Bool} {c : Char} (h : p c = false) (s t : Text) :
    (s ++ c :: t).takeWhile p = s.takeWhile p := by
  induction s with
  | nil => simp [h]
  | cons d s ih => cases hd : p d <;> simp [hd, ih]

theorem dropWhile_append_cons {p : Char → Bool} {c : Char} (h : p c = false) (s t : Text) :
    (s ++ c :: t).dropWhile p = s.dropWhile p ++ c :: t := by
  induction s with
  | nil => simp [h]
  | cons d s ih => cases hd : p d <;> simp [hd, ih]

theorem dropWhile_of_stopsAt {p : Char → Bool} {s : Text} (h : StopsAt p s) : s.dropWhile p = s :=
  by
  simpa using dropWhile_append_stop (List.forall_mem_nil _) h

theorem stopsAt_dropWhile (p : Char → Bool) (s : Text) : StopsAt p (s.dropWhile p) := by
  induction s with
  | nil => simp
  | cons c s ih =>
    cases h : p c with
    | true => simpa [h] using ih
    | false => simp [h]

theorem takeWhile_eq_nil_iff {p : Char → Bool} {s : Text} : s.takeWhile p = [] ↔ StopsAt p s := by
  cases s with
  | nil => simp
  | cons c s => cases h : p c <;> simp [h]

theorem mem_dropWhile {p : Char → Bool} {s : Text} {c : Char} (hc : c ∈ s) (h : p c = false) :
    c ∈ s.dropWhile p := by
  rw [← List.takeWhile_append_dropWhile (p := p) (l := s), List.mem_append] at hc
  rcases hc with hc | hc
  · simp [List.mem_takeWhile_imp hc] at h
  · exact hc

/-- A text without the character is a run up to it. -/
theorem forall_ne_of_notMem {c : Char} {s : Text} (h : c ∉ s) :
    ∀ d ∈ s, decide (d ≠ c) = true := by
  intro d hd
  have hne : d ≠ c := fun heq => h (heq ▸ hd)
  simpa using hne

/-! ### Runs at the end -/

/-- What is dropped at the end of a text lies in the class. -/
theorem exists_dropEndWhile_append (p : Char → Bool) (s : Text) :
    ∃ tail : Text, (∀ c ∈ tail, p c = true) ∧ s = dropEndWhile p s ++ tail := by
  refine ⟨s.rtakeWhile p, fun c hc => List.mem_rtakeWhile_imp hc, ?_⟩
  exact List.rdropWhile_append_rtakeWhile.symm

/-- Nothing is dropped at a character outside of the class, or before it. -/
theorem dropEndWhile_append_stop {p : Char → Bool} {c : Char} (h : p c = false) (s t : Text) :
    dropEndWhile p (s ++ c :: t) = s ++ c :: dropEndWhile p t := by
  unfold dropEndWhile
  rw [List.reverse_append, List.reverse_cons, List.append_assoc, List.dropWhile_append]
  split
  · next hnil =>
    rw [List.isEmpty_iff] at hnil
    simp [hnil, h]
  · simp

/-- A tail in the class is dropped, whatever comes before it. -/
theorem dropEndWhile_append_of_pos {p : Char → Bool} {tail : Text} (h : ∀ c ∈ tail, p c = true)
    (s : Text) : dropEndWhile p (s ++ tail) = dropEndWhile p s := by
  unfold dropEndWhile
  rw [List.reverse_append, List.dropWhile_append_of_pos fun c hc => h c (List.mem_reverse.mp hc)]

/-- What a text ends with, once its tail in the class is dropped, is outside of the class. -/
theorem not_of_mem_getLast?_dropEndWhile {p : Char → Bool} {s : Text} {c : Char}
    (h : c ∈ (dropEndWhile p s).getLast?) : p c = false := by
  have hne : s.rdropWhile p ≠ [] := by
    rintro hnil
    rw [dropEndWhile, ← List.rdropWhile, hnil] at h
    simp at h
  have hlast : (s.rdropWhile p).getLast hne = c := by
    rw [dropEndWhile, ← List.rdropWhile, List.getLast?_eq_some_getLast hne] at h
    exact Option.some.inj h
  simpa [hlast] using List.rdropWhile_last_not p s hne

/-- A character outside of the class is kept. -/
theorem mem_dropEndWhile {p : Char → Bool} {s : Text} {c : Char} (hc : c ∈ s)
    (h : p c = false) : c ∈ dropEndWhile p s := by
  obtain ⟨tail, htail, hs⟩ := exists_dropEndWhile_append p s
  rw [hs, List.mem_append] at hc
  rcases hc with hc | hc
  · exact hc
  · simp [htail c hc] at h

/-- Nothing is dropped if the last character is outside of the class. -/
theorem dropEndWhile_eq_self_iff {p : Char → Bool} {s : Text} :
    dropEndWhile p s = s ↔ ∀ c ∈ s.getLast?, p c = false := by
  constructor
  · intro h c hc
    rw [← h] at hc
    exact not_of_mem_getLast?_dropEndWhile hc
  · intro h
    rcases List.eq_nil_or_concat s with rfl | ⟨t, c, rfl⟩
    · rfl
    · rw [List.concat_eq_append] at h ⊢
      exact dropEndWhile_concat_of_neg (h c (by simp)) t

theorem rtakeWhile_eq_nil_iff {p : Char → Bool} {s : Text} :
    s.rtakeWhile p = [] ↔ ∀ c ∈ s.getLast?, p c = false := by
  have hs : dropEndWhile p s ++ s.rtakeWhile p = s := List.rdropWhile_append_rtakeWhile
  rw [← dropEndWhile_eq_self_iff]
  constructor
  · intro h
    rwa [h, List.append_nil] at hs
  · intro h
    rwa [h, List.append_right_eq_self] at hs

theorem dropEndWhile_eq_self {p : Char → Bool} {s : Text} (h : ∀ c ∈ s, p c = false) :
    dropEndWhile p s = s :=
  dropEndWhile_eq_self_iff.mpr fun c hc => h c (List.mem_of_mem_getLast? hc)

/-- The first character is dropped only with all the others. -/
theorem dropEndWhile_cons_cases (p : Char → Bool) (c : Char) (s : Text) :
    (dropEndWhile p (c :: s) = [] ∧ p c = true) ∨ ∃ t, dropEndWhile p (c :: s) = c :: t := by
  obtain ⟨tail, htail, hs⟩ := exists_dropEndWhile_append p (c :: s)
  cases hdrop : dropEndWhile p (c :: s) with
  | nil =>
    rw [hdrop, List.nil_append] at hs
    exact Or.inl ⟨rfl, htail c (by simp [← hs])⟩
  | cons d t =>
    rw [hdrop, List.cons_append] at hs
    exact Or.inr ⟨t, by rw [(List.cons.inj hs).1]⟩

/-- Only the last character may be dropped. -/
theorem dropLastIf_append_cons {p : Char → Bool} {c : Char} (h : p c = false) (s t : Text) :
    dropLastIf p (s ++ c :: t) = s ++ c :: dropLastIf p t := by
  rcases List.eq_nil_or_concat t with rfl | ⟨t, d, rfl⟩
  · simp [dropLastIf, h]
  · have hassoc : s ++ c :: (t ++ [d]) = (s ++ c :: t) ++ [d] := by simp
    rw [List.concat_eq_append, hassoc, dropLastIf, dropLastIf, List.getLast?_concat,
      List.getLast?_concat]
    dsimp only
    split
    · rw [List.dropLast_concat, List.dropLast_concat]
    · rw [← hassoc]

theorem dropLastIf_eq_self_iff {p : Char → Bool} {s : Text} :
    dropLastIf p s = s ↔ ∀ c ∈ s.getLast?, p c = false := by
  rcases List.eq_nil_or_concat s with rfl | ⟨s, d, rfl⟩
  · simp [dropLastIf]
  · cases hp : p d <;> simp [dropLastIf, hp]

theorem dropLastIf_isPrefix (p : Char → Bool) (s : Text) : dropLastIf p s <+: s := by
  unfold dropLastIf
  split
  · split
    · exact List.dropLast_prefix s
    · exact List.prefix_rfl
  · exact List.prefix_rfl

/-- Trimming takes blank characters off the two ends. -/
theorem exists_trim_append (s : Text) :
    ∃ lead tail : Text, (∀ c ∈ lead, isBlank c = true) ∧ (∀ c ∈ tail, isBlank c = true) ∧
      s = lead ++ (trim s ++ tail) := by
  obtain ⟨tail, htail, hs⟩ := exists_dropEndWhile_append isBlank (s.dropWhile isBlank)
  refine ⟨s.takeWhile isBlank, tail, fun c hc => List.mem_takeWhile_imp hc, htail, ?_⟩
  rw [trim, trimBy, ← hs, List.takeWhile_append_dropWhile]

theorem trim_eq_self {s : Text} (h : ∀ c ∈ s, isBlank c = false) : trim s = s := by
  have hstop : StopsAt isBlank s := fun c hc => h c (List.mem_of_mem_head? hc)
  rw [trim, trimBy, dropWhile_of_stopsAt hstop, dropEndWhile_eq_self h]

/-- One more blank character at the end goes with the others. -/
theorem trim_append_blank {c : Char} (hc : isBlank c = true) (s : Text) :
    trim (s ++ [c]) = trim s := by
  rw [trim, trimBy, List.dropWhile_append, trim, trimBy]
  split
  · next hnil => simp [List.isEmpty_iff.mp hnil, hc]
  · rw [dropEndWhile_concat_of_pos hc]

/-- Blank characters at the ends of a text make no difference to what is left of it. -/
theorem trim_append_append {lead tail : Text} (hlead : ∀ c ∈ lead, isBlank c = true)
    (htail : ∀ c ∈ tail, isBlank c = true) (s : Text) : trim (lead ++ (s ++ tail)) = trim s := by
  induction tail using List.reverseRecOn with
  | nil => rw [List.append_nil, trim, trimBy, List.dropWhile_append_of_pos hlead, trim, trimBy]
  | append_singleton tail c ih =>
    rw [List.forall_mem_append] at htail
    rw [← List.append_assoc, ← List.append_assoc, trim_append_blank (htail.2 c (by simp)),
      List.append_assoc, ih htail.1]

theorem trim_trim (s : Text) : trim (trim s) = trim s := by
  obtain ⟨lead, tail, hlead, htail, hs⟩ := exists_trim_append s
  conv_rhs => rw [hs, trim_append_append hlead htail]

/-- A text is trimmed if it neither starts nor ends blank. -/
theorem trim_eq_self_iff {s : Text} :
    trim s = s ↔ StopsAt isBlank s ∧ ∀ c ∈ s.getLast?, isBlank c = false := by
  constructor
  · intro h
    constructor
    · obtain ⟨tail, -, hs⟩ := exists_dropEndWhile_append isBlank (s.dropWhile isBlank)
      rw [← h, trim, trimBy]
      exact stopsAt_of_append (hs ▸ stopsAt_dropWhile isBlank s)
    · intro c hc
      rw [← h] at hc
      exact not_of_mem_getLast?_dropEndWhile hc
  · rintro ⟨hstart, hlast⟩
    rw [trim, trimBy, dropWhile_of_stopsAt hstart, dropEndWhile_eq_self_iff]
    exact hlast

/-- Only blank texts are trimmed to nothing. -/
theorem trim_eq_nil_iff {s : Text} : trim s = [] ↔ isAllBlank s = true := by
  rw [isAllBlank, List.all_eq_true]
  constructor
  · intro h
    obtain ⟨lead, tail, hlead, htail, hs⟩ := exists_trim_append s
    rw [h, List.nil_append] at hs
    rw [hs]
    exact List.forall_mem_append.mpr ⟨hlead, htail⟩
  · intro h
    rw [trim, trimBy, List.dropWhile_eq_nil_iff.mpr h]
    rfl

/-! ### Words between separators -/

theorem pieces_of_notMem {sep : Char} {s : Text} (h : sep ∉ s) : pieces sep s = [s] := by
  induction s with
  | nil => rfl
  | cons c s ih =>
    rw [List.mem_cons, not_or] at h
    rw [pieces, if_neg (Ne.symm h.1), ih h.2]

theorem pieces_append_sep {sep : Char} {word : Text} (h : sep ∉ word) (s : Text) :
    pieces sep (word ++ sep :: s) = word :: pieces sep s := by
  induction word with
  | nil => simp [pieces]
  | cons c word ih =>
    rw [List.mem_cons, not_or] at h
    rw [List.cons_append, pieces, if_neg (Ne.symm h.1), ih h.2]

/-- A text starts as its first word does. -/
theorem exists_pieces_cons {sep c : Char} (h : c ≠ sep) (s : Text) :
    ∃ word words, pieces sep (c :: s) = (c :: word) :: words := by
  rw [pieces, if_neg h]
  split
  · exact ⟨_, _, rfl⟩
  · exact ⟨_, _, rfl⟩

/-- **Induction along the pieces of a text.**  A text is its last piece, or a piece and a separator
before the other pieces. -/
theorem pieces_induction (sep : Char) {P : Text → Prop} (last : ∀ s, sep ∉ s → P s)
    (cut : ∀ piece s, sep ∉ piece → P s → P (piece ++ sep :: s)) (s : Text) : P s := by
  -- on the length: a separator is cut off with each piece
  obtain ⟨n, hn⟩ : ∃ n, s.length = n := ⟨_, rfl⟩
  induction n using Nat.strong_induction_on generalizing s with
  | _ n ih =>
    by_cases hmem : sep ∈ s
    · obtain ⟨piece, rest, rfl, hpiece⟩ := List.eq_append_cons_of_mem hmem
      refine cut piece rest hpiece (ih rest.length ?_ rest rfl)
      rw [← hn, List.length_append, List.length_cons]
      omega
    · exact last s hmem

/-- The words on the two sides of a separator. -/
theorem pieces_append (sep : Char) (s t : Text) :
    pieces sep (s ++ sep :: t) = pieces sep s ++ pieces sep t := by
  induction s using pieces_induction sep with
  | last s hs => rw [pieces_append_sep hs, pieces_of_notMem hs, List.singleton_append]
  | cut word s hword ih =>
    rw [List.append_assoc, List.cons_append, pieces_append_sep hword, pieces_append_sep hword, ih,
      List.cons_append]

theorem join_cons {words : List Text} (h : words ≠ []) (sep word : Text) :
    join sep (word :: words) = word ++ (sep ++ join sep words) := by
  rw [join, List.intercalate_cons_of_ne_nil h, List.append_assoc]
  rfl

/-- Each word but the first has the separator before it. -/
theorem join_cons_eq_flatMap (sep word : Text) (words : List Text) :
    join sep (word :: words) = word ++ words.flatMap (sep ++ ·) := by
  induction words generalizing word with
  | nil => simp [join]
  | cons next words ih =>
    rw [join_cons (List.cons_ne_nil next words), ih, List.flatMap_cons, List.append_assoc]

theorem mem_join_of_mem {sep w : Text} {words : List Text} (hw : w ∈ words) {c : Char}
    (hc : c ∈ w) : c ∈ join sep words := by
  induction words with
  | nil => simp at hw
  | cons v words ih =>
    cases words with
    | nil =>
      obtain rfl := List.mem_singleton.mp hw
      simpa [join] using hc
    | cons v' words =>
      rw [join, List.intercalate_cons_cons]
      rcases List.mem_cons.mp hw with rfl | hw
      · simp [hc]
      · exact List.mem_append_right _ (ih hw)

theorem mem_join {sep : Text} {words : List Text} {c : Char} (h : c ∈ join sep words) :
    c ∈ sep ∨ ∃ w ∈ words, c ∈ w := by
  induction words with
  | nil => simp [join] at h
  | cons w words ih =>
    by_cases hnil : words = []
    · subst hnil
      exact Or.inr ⟨w, by simp, by simpa [join] using h⟩
    · rw [join_cons hnil, List.mem_append, List.mem_append] at h
      rcases h with h | h | h
      · exact Or.inr ⟨w, by simp, h⟩
      · exact Or.inl h
      · rcases ih h with h | ⟨v, hv, hc⟩
        · exact Or.inl h
        · exact Or.inr ⟨v, List.mem_cons_of_mem w hv, hc⟩

theorem mem_of_mem_pieces {sep : Char} {s w : Text} (hw : w ∈ pieces sep s) {c : Char}
    (hc : c ∈ w) : c ∈ s := by
  rw [← join_pieces sep s]
  exact mem_join_of_mem hw hc

/-- A character other than the separator stands in one of the words. -/
theorem exists_mem_pieces {sep c : Char} {s : Text} (hc : c ∈ s) (hne : c ≠ sep) :
    ∃ w ∈ pieces sep s, c ∈ w := by
  induction s with
  | nil => simp at hc
  | cons d s ih =>
    rw [pieces]
    rcases List.mem_cons.mp hc with rfl | hc
    · rw [if_neg hne]
      split <;> simp
    · obtain ⟨w, hw, hcw⟩ := ih hc
      split
      · exact ⟨w, List.mem_cons_of_mem _ hw, hcw⟩
      · cases hs : pieces sep s with
        | nil => exact absurd hs (pieces_ne_nil sep s)
        | cons v vs =>
          rw [hs, List.mem_cons] at hw
          rcases hw with rfl | hw
          · exact ⟨d :: w, by simp, List.mem_cons_of_mem d hcw⟩
          · exact ⟨w, by simp [hw], hcw⟩

theorem sep_notMem_of_mem_pieces {sep : Char} {s word : Text} (h : word ∈ pieces sep s) :
    sep ∉ word := by
  induction s using pieces_induction sep with
  | last s hs =>
    rw [pieces_of_notMem hs, List.mem_singleton] at h
    exact h ▸ hs
  | cut first s hfirst ih =>
    rw [pieces_append_sep hfirst, List.mem_cons] at h
    rcases h with rfl | h
    · exact hfirst
    · exact ih h

/-- Words without separators are found again between them. -/
theorem pieces_join {sep : Char} {words : List Text} (hne : words ≠ [])
    (h : ∀ word ∈ words, sep ∉ word) : pieces sep (join [sep] words) = words := by
  induction words with
  | nil => exact absurd rfl hne
  | cons word words ih =>
    rw [List.forall_mem_cons] at h
    cases words with
    | nil => simpa [join] using pieces_of_notMem h.1
    | cons next words =>
      rw [join_cons (List.cons_ne_nil next words), List.singleton_append, pieces_append_sep h.1,
        ih (List.cons_ne_nil next words) h.2]

/-! ### Lines -/

/-- At most a carriage return is dropped. -/
theorem dropReturn_append (s : Text) : s = dropReturn s ∨ s = dropReturn s ++ ['\r'] := by
  rcases List.eq_nil_or_concat s with rfl | ⟨t, c, rfl⟩
  · exact Or.inl rfl
  · by_cases hc : c = '\r'
    · subst hc
      exact Or.inr (by simp [dropReturn, dropLastIf])
    · exact Or.inl (by simp [dropReturn, dropLastIf, hc])

theorem dropReturn_of_notMem {s : Text} (h : '\r' ∉ s) : dropReturn s = s := by
  refine dropLastIf_eq_self_iff.mpr fun c hc => ?_
  have hne : c ≠ '\r' := fun heq => h (heq ▸ List.mem_of_mem_getLast? hc)
  simpa using hne

/-- A text is one line, or a line and a line feed before the other lines. -/
theorem line_cases (s : Text) :
    '\n' ∉ s ∨ ∃ line rest, '\n' ∉ line ∧ s = line ++ '\n' :: rest := by
  by_cases hmem : '\n' ∈ s
  · obtain ⟨line, rest, hs, hline⟩ := List.eq_append_cons_of_mem hmem
    exact Or.inr ⟨line, rest, hline, hs⟩
  · exact Or.inl hmem

theorem lines_of_notMem {s : Text} (h : '\n' ∉ s) : lines s = if s.isEmpty then [] else [s] := by
  rw [lines, pieces_of_notMem h, linesOfPieces]

theorem lines_append_newline {line : Text} (h : '\n' ∉ line) (s : Text) :
    lines (line ++ '\n' :: s) = dropReturn line :: lines s := by
  rw [lines, pieces_append_sep h]
  cases hs : pieces '\n' s with
  | nil => exact absurd hs (pieces_ne_nil '\n' s)
  | cons w ws => rw [linesOfPieces, lines, hs]; simp

theorem lines_eq_nil_iff {s : Text} : lines s = [] ↔ s = [] := by
  rcases line_cases s with hmem | ⟨line, rest, hline, rfl⟩
  · rw [lines_of_notMem hmem]
    cases s <;> simp
  · rw [lines_append_newline hline]
    simp

theorem newline_notMem_of_mem_pieces {s line : Text} (h : line ∈ pieces '\n' s) : '\n' ∉ line :=
  sep_notMem_of_mem_pieces h

/-- With a line feed at the end, each piece is a line. -/
theorem lines_append_newline_nil (s : Text) :
    lines (s ++ ['\n']) = (pieces '\n' s).map dropReturn := by
  induction s using pieces_induction '\n' with
  | last s hs => rw [lines_append_newline hs, pieces_of_notMem hs, lines_nil, List.map_singleton]
  | cut line s hline ih =>
    rw [List.append_assoc, List.cons_append, lines_append_newline hline, ih,
      pieces_append_sep hline, List.map_cons]

end MergeMessage.Text
