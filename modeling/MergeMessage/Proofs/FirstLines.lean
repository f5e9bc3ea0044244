import MergeMessage.Proofs.TidyParts
import MergeMessage.Proofs.TidySubject

/-!
# The first line of a message

Tidying works on the first line of a reply and must not break it.  All that tidying brings in are
spaces, hyphens, the marks of a header and lowercase forms; any other character of ASCII stood in
the line before.  A line feed is one of them, so the first line of a message is the repaired first
line of the reply.

## Main definitions

* `firstLine` — a text up to its first line feed.
* `IsForeign` — a character that tidying does not bring in.

## Main results

* `mem_of_mem_tidySubject` — foreign characters of a repaired subject stood there before.
* `firstLine_messageOfReply` — the first line of the message in a reply.
-/

namespace MergeMessage.Commit

open Subject Text

/-! ### Repairs of a subject that is no header -/

/-- All that is taken out are the blank characters between a type and a parenthesis. -/
theorem closeScopeGap_cases (s : Text) :
    closeScopeGap s = s ∨ ∃ kind blanks rest, kind ≠ [] ∧ (∀ c ∈ kind, c.isAlpha = true) ∧
      (∀ c ∈ blanks, isBlank c = true) ∧ s = kind ++ (blanks ++ '(' :: rest) ∧
        closeScopeGap s = kind ++ '(' :: rest := by
  unfold closeScopeGap
  split
  · next kind rest hkind =>
    obtain ⟨hne, halpha, -, hs⟩ := run?_eq_some_iff.mp hkind
    split
    · next blanks rest hblanks =>
      obtain ⟨-, hall, -, rfl⟩ := run?_eq_some_iff.mp hblanks
      exact Or.inr ⟨kind, blanks, rest, hne, halpha, hall, hs, rfl⟩
    · exact Or.inl rfl
  · exact Or.inl rfl

theorem closeScopeGap_eq_or (s : Text) :
    closeScopeGap s = s ∨ ∃ kind blanks rest, (∀ c ∈ blanks, isBlank c = true) ∧
      s = kind ++ (blanks ++ '(' :: rest) ∧ closeScopeGap s = kind ++ '(' :: rest :=
  (closeScopeGap_cases s).imp_right fun ⟨kind, blanks, rest, _, _, h⟩ => ⟨kind, blanks, rest, h⟩

/-- All that is put in is a colon and a space, for the blank characters behind a scope. -/
theorem insertColon_cases (s : Text) :
    insertColon s = s ∨ ∃ kind scope breaking blanks rest, kind ≠ [] ∧
      (∀ c ∈ kind, c.isAlpha = true) ∧ IsScope scope ∧ blanks ≠ [] ∧
        (∀ c ∈ blanks, isBlank c = true) ∧
        s = kind ++ (renderScope (some scope) ++ (renderBreaking breaking ++ (blanks ++ rest))) ∧
        insertColon s = kind ++ (renderScope (some scope) ++
          (renderBreaking breaking ++ ':' :: ' ' :: rest)) := by
  unfold insertColon
  split
  next kind rest₁ hkind =>
    split
    next scope rest₂ hscope =>
      split
      next blanks rest hblanks =>
        split
        · exact Or.inl rfl
        obtain ⟨hkne, halpha, -, rfl⟩ := run?_eq_some_iff.mp hkind
        obtain ⟨hisScope, rfl⟩ := scope?_eq_some_iff.mp hscope
        obtain ⟨breaking, hbang⟩ := exists_renderBreaking_append rest₂
        obtain ⟨hne, hall, -, hrest⟩ := run?_eq_some_iff.mp hblanks
        -- the part that stays is what the readers passed
        have hs : kind ++ '(' :: (scope ++ ')' :: rest₂) =
            (kind ++ (renderScope (some scope) ++ renderBreaking breaking)) ++ (blanks ++ rest) := by
          rw [← hrest]
          conv_lhs => rw [hbang]
          simp [renderScope]
        refine Or.inr ⟨kind, scope, breaking, blanks, rest, hkne, halpha, hisScope, hne, hall, ?_, ?_⟩
        · rw [hs]
          simp
        · rw [hs, ← List.length_append, List.length_append, Nat.add_sub_cancel, List.take_left]
          simp
      · exact Or.inl rfl
    · exact Or.inl rfl
  · exact Or.inl rfl

theorem insertColon_eq_or (s : Text) :
    insertColon s = s ∨ ∃ front blanks rest, blanks ≠ [] ∧ (∀ c ∈ blanks, isBlank c = true) ∧
      s = front ++ (blanks ++ rest) ∧ insertColon s = front ++ ':' :: ' ' :: rest := by
  refine (insertColon_cases s).imp_right ?_
  rintro ⟨kind, scope, breaking, blanks, rest, -, -, -, hne, hblank, hs, heq⟩
  exact ⟨kind ++ (renderScope (some scope) ++ renderBreaking breaking), blanks, rest, hne, hblank,
    by rw [hs]; simp, by rw [heq]; simp⟩

/-! ### Characters that are not brought in -/

/-- A character of ASCII that is no small letter and none of the marks that tidying writes. -/
structure IsForeign (c : Char) : Prop where
  not_lower : c.isLower = false
  lt : c.toNat < 0xDF
  notMem : c ∉ [' ', '-', ':', '(', ')', '!']

theorem isForeign_newline : IsForeign '\n' := ⟨by decide, by decide, by decide⟩

theorem mem_of_mem_trim {s : Text} {c : Char} (h : c ∈ trim s) : c ∈ s := by
  obtain ⟨lead, tail, -, -, hs⟩ := exists_trim_append s
  rw [hs]
  simp [h]

theorem mem_of_mem_dropEndWhile {p : Char → Bool} {s : Text} {c : Char}
    (h : c ∈ dropEndWhile p s) : c ∈ s := by
  obtain ⟨tail, -, hs⟩ := exists_dropEndWhile_append p s
  rw [hs]
  exact List.mem_append_left tail h

theorem mem_of_mem_closeScopeGap {s : Text} {c : Char} (h : c ∈ closeScopeGap s) : c ∈ s := by
  rcases closeScopeGap_eq_or s with heq | ⟨kind, blanks, rest, -, hs, heq⟩
  · rwa [heq] at h
  · rw [heq, List.mem_append] at h
    rw [hs, List.mem_append, List.mem_append]
    exact h.imp_right Or.inr

section

variable {c : Char} (hc : IsForeign c)

include hc

theorem ne_of_isForeign {d : Char} (hd : d ∈ [' ', '-', ':', '(', ')', '!']) : c ≠ d := by
  rintro rfl
  exact hc.notMem hd

theorem mem_of_mem_lower {s : Text} (h : c ∈ lower s) : c ∈ s := by
  obtain ⟨d, hd, hlow⟩ := exists_lowersTo_of_mem_lowerAfter h
  rwa [hlow.eq_of_mark hc.not_lower hc.lt]

theorem mem_of_mem_collapseBlanks {s : Text} (h : c ∈ collapseBlanks s) : c ∈ s := by
  have hspace : c ≠ ' ' := ne_of_isForeign hc (by simp)
  -- the scan is in one of two states, so the induction is for both
  have hfrom : ∀ inRun, c ∈ collapseBlanksFrom inRun s → c ∈ s := by
    clear h
    induction s with
    | nil => simp [collapseBlanksFrom]
    | cons d s ih =>
      intro inRun h
      rw [collapseBlanksFrom] at h
      split at h
      · split at h
        · exact List.mem_cons_of_mem d (ih true h)
        · split at h
          · exact List.mem_cons_of_mem d (ih true ((List.mem_cons.mp h).resolve_left hspace))
          · exact List.mem_cons.mpr ((List.mem_cons.mp h).imp_right (ih false))
      · exact List.mem_cons.mpr ((List.mem_cons.mp h).imp_right (ih false))
  exact hfrom false h

theorem mem_of_mem_blankTicket {id : Text} (hid : IsTicketId id) {s : Text}
    (h : c ∈ blankTicket id s) : c ∈ s := by
  have hafter : ∀ before, c ∈ blankAfter id before s → c ∈ s := by
    clear h
    intro before
    induction before, s using mention_induction hid with
    | nil before => simp [blankAfter_nil hid]
    | mention before lead tail rest hm ih =>
      intro h
      rw [blankAfter_mention hid hm] at h
      have hrest := ih ((List.mem_cons.mp h).resolve_left (ne_of_isForeign hc (by simp)))
      simp [hrest]
    | keep before d s hnone ih =>
      intro h
      rw [blankAfter_keep hnone] at h
      exact List.mem_cons.mpr ((List.mem_cons.mp h).imp_right ih)
  exact hafter none h

theorem mem_of_mem_insertColon {s : Text} (h : c ∈ insertColon s) : c ∈ s := by
  rcases insertColon_eq_or s with heq | ⟨front, blanks, rest, -, -, hs, heq⟩
  · rwa [heq] at h
  · rw [heq, List.mem_append, List.mem_cons, List.mem_cons,
      or_iff_right (ne_of_isForeign hc (by simp)), or_iff_right (ne_of_isForeign hc (by simp))] at h
    rw [hs, List.mem_append, List.mem_append]
    exact h.imp_right Or.inr

theorem mem_of_mem_squeeze {s : Text} (h : c ∈ squeeze s ['-']) : c ∈ s := by
  by_contra hs
  have hfiller : ∀ d ∈ ['-'], d ≠ c := by
    simpa using (ne_of_isForeign hc (by simp)).symm
  have hall : ∀ d ∈ s, isBlank d = true ∨ d ≠ c := fun d hd =>
    Or.inr fun heq => hs (heq ▸ hd)
  exact (forall_mem_squeezeAfter_iff hfiller).mpr hall c h rfl

theorem mem_of_mem_tidyScope {scope : Text} (h : c ∈ tidyScope scope) : c ∈ scope := by
  have htrim := mem_of_mem_trim (mem_of_mem_squeeze hc (mem_of_mem_lower hc h))
  exact (List.dropWhile_sublist _).mem (mem_of_mem_dropEndWhile htrim)

theorem mem_of_mem_sentenceCase {s : Text} (h : c ∈ sentenceCase s) : c ∈ s := by
  unfold sentenceCase at h
  dsimp only at h
  split at h
  · -- in Title Case the character stands in a word or between two of them
    rcases mem_join h with h | ⟨w', hw', h⟩
    · exact absurd (List.mem_singleton.mp h) (ne_of_isForeign hc (by simp))
    · obtain ⟨w, hw, rfl⟩ := List.mem_map.mp hw'
      refine mem_of_mem_pieces hw ?_
      split at h
      · exact mem_of_mem_lower hc h
      · exact h
  · cases s with
    | nil => exact h
    | cons d s =>
      rw [lowerFirst, lowerChar_eq, List.mem_append] at h
      rcases h with h | h
      · rw [(lowersTo_of_mem h).eq_of_mark hc.not_lower hc.lt]
        exact List.mem_cons_self
      · exact List.mem_cons_of_mem d h

theorem mem_of_mem_tidyDescription {s : Text} (h : c ∈ tidyDescription s) : c ∈ s :=
  mem_of_mem_sentenceCase hc (mem_of_mem_dropEndWhile h)

theorem mem_renderScope_iff {scope : Option Text} :
    c ∈ renderScope scope ↔ ∃ t ∈ scope, c ∈ t := by
  cases scope with
  | none => simp [renderScope]
  | some t =>
    have hopen : c ≠ '(' := ne_of_isForeign hc (by simp)
    have hclose : c ≠ ')' := ne_of_isForeign hc (by simp)
    simp [renderScope, hopen, hclose]

/-- The marks between the parts of a header are none of the characters in question. -/
theorem mem_header_iff {kind : Text} {scope : Option Text} {breaking : Bool} {tail : Text} :
    c ∈ kind ++ (renderScope scope ++ (renderBreaking breaking ++ ':' :: tail)) ↔
      c ∈ kind ∨ (∃ t ∈ scope, c ∈ t) ∨ c ∈ tail := by
  have hbang : c ∉ renderBreaking breaking := by
    have hne : c ≠ '!' := ne_of_isForeign hc (by simp)
    cases breaking <;> simp [renderBreaking, hne]
  rw [List.mem_append, List.mem_append, List.mem_append, List.mem_cons, or_iff_right hbang,
    or_iff_right (ne_of_isForeign hc (by simp)), mem_renderScope_iff hc]

theorem mem_of_mem_tidyHeader {s : Text} {h : Header} (hs : looseHeader? s = some h)
    (hmem : c ∈ (tidyHeader h).render) : c ∈ s := by
  obtain ⟨-, -, -, tail, hdesc, rfl⟩ := looseHeader?_eq_some_iff.mp hs
  rw [Header.render_eq, mem_header_iff hc] at hmem
  rw [mem_header_iff hc]
  refine Or.imp (mem_of_mem_lower hc) (Or.imp ?_ ?_) hmem
  · rintro ⟨t', ht', hct⟩
    obtain ⟨t, ht, rfl⟩ := Option.map_eq_some_iff.mp ht'
    exact ⟨t, ht, mem_of_mem_tidyScope hc hct⟩
  · intro htail
    have hdrop := (List.mem_cons.mp htail).resolve_left (ne_of_isForeign hc (by simp))
    have hmem := mem_of_mem_tidyDescription hc hdrop
    rw [hdesc] at hmem
    exact (List.dropWhile_sublist _).mem hmem

/-- **Foreign characters** of a repaired subject stood in the subject before. -/
theorem mem_of_mem_tidySubject {ticket : Option Text} (hticket : ∀ id ∈ ticket, IsTicketId id)
    {s : Text} (h : c ∈ tidySubject ticket s) : c ∈ s := by
  have hbare : c ∈ bareSubject ticket s → c ∈ s := by
    cases ticket with
    | none => exact fun h => h
    | some id =>
      exact fun h => mem_of_mem_blankTicket hc (hticket id rfl)
        (mem_of_mem_trim (mem_of_mem_collapseBlanks hc h))
  have hrepair : c ∈ insertColon (closeScopeGap (bareSubject ticket s)) → c ∈ s :=
    fun h => hbare (mem_of_mem_closeScopeGap (mem_of_mem_insertColon hc h))
  rw [tidySubject_eq] at h
  split at h
  · next hs => exact hrepair (mem_of_mem_tidyHeader hc hs h)
  · exact hrepair h

end

/-! ### The first line -/

/-- The text up to its first line feed. -/
def firstLine (s : Text) : Text := s.takeWhile (· ≠ '\n')

theorem newline_notMem_firstLine (s : Text) : '\n' ∉ firstLine s := by
  intro h
  simpa using List.mem_takeWhile_imp h

theorem firstLine_append_stop {line rest : Text} (hline : '\n' ∉ line)
    (hrest : StopsAt (fun c => decide (c ≠ '\n')) rest) : firstLine (line ++ rest) = line :=
  takeWhile_append_stop (forall_ne_of_notMem hline) hrest

theorem firstLine_append_newline {line : Text} (h : '\n' ∉ line) (s : Text) :
    firstLine (line ++ '\n' :: s) = line :=
  firstLine_append_stop h (by simp)

theorem firstLine_append_of_notMem {s : Text} (h : '\n' ∉ s) (t : Text) :
    firstLine (s ++ t) = s ++ firstLine t :=
  List.takeWhile_append_of_pos (forall_ne_of_notMem h)

theorem firstLine_eq_self {s : Text} (h : '\n' ∉ s) : firstLine s = s :=
  List.takeWhile_eq_self_iff.mpr (forall_ne_of_notMem h)

/-- The first line of a text that goes on may go on as well. -/
theorem firstLine_isPrefix {s t : Text} (h : s <+: t) : firstLine s <+: firstLine t := by
  obtain ⟨u, rfl⟩ := h
  rcases line_cases s with hmem | ⟨line, rest, hline, rfl⟩
  · rw [firstLine_eq_self hmem, firstLine_append_of_notMem hmem]
    exact List.prefix_append s _
  · rw [List.append_assoc, List.cons_append, firstLine_append_newline hline,
      firstLine_append_newline hline]

/-- Only the first line is changed. -/
theorem mapFirstLine_eq (f : Text → Text) (s : Text) :
    mapFirstLine f s = f (firstLine s) ++ s.dropWhile (· ≠ '\n') := by
  rcases line_cases s with hmem | ⟨line, rest, hline, rfl⟩
  · rw [firstLine_eq_self hmem, List.dropWhile_eq_nil_iff.mpr (forall_ne_of_notMem hmem),
      mapFirstLine, pieces_of_notMem hmem]
    simp [join]
  · rw [firstLine_append_newline hline,
      dropWhile_append_stop (forall_ne_of_notMem hline) (by simp), mapFirstLine,
      pieces_append_sep hline]
    dsimp only
    rw [join_cons (pieces_ne_nil '\n' rest), join_pieces]
    rfl

theorem mapFirstLine_eq_self {f : Text → Text} {s : Text} (h : f (firstLine s) = firstLine s) :
    mapFirstLine f s = s := by
  rw [mapFirstLine_eq, h, firstLine, List.takeWhile_append_dropWhile]

/-- The subject of a message is its first line without a carriage return. -/
theorem firstLine_eq_or (s : Text) :
    firstLine s = subjectOf s ∨ firstLine s = subjectOf s ++ ['\r'] := by
  rcases line_cases s with hmem | ⟨line, rest, hline, rfl⟩
  · exact Or.inl (by rw [firstLine_eq_self hmem, subjectOf_of_notMem hmem])
  · rw [firstLine_append_newline hline, subjectOf_append_newline hline]
    exact dropReturn_append line

/-- Trimming goes over the end of the first line, too, if there is no other one. -/
theorem exists_firstLine_append {tail : Text} (htail : ∀ c ∈ tail, isBlank c = true) (s : Text) :
    ∃ more : Text, (∀ c ∈ more, isBlank c = true) ∧ firstLine (s ++ tail) = firstLine s ++ more := by
  rcases line_cases s with hmem | ⟨line, rest, hline, rfl⟩
  · refine ⟨firstLine tail, fun c hc => htail c ((List.takeWhile_sublist _).mem hc), ?_⟩
    rw [firstLine_append_of_notMem hmem, firstLine_eq_self hmem]
  · refine ⟨[], by simp, ?_⟩
    rw [List.append_assoc, List.cons_append, firstLine_append_newline hline,
      firstLine_append_newline hline, List.append_nil]

/-- **The subject that is checked.**  It is the first line up to blank characters at its end, if the
message does not start blank. -/
theorem exists_firstLine_eq_subjectOf_trim {message : Text} (h : StopsAt isBlank message) :
    ∃ tail : Text, (∀ c ∈ tail, isBlank c = true) ∧
      firstLine message = subjectOf message.trim ++ tail := by
  obtain ⟨tail, htail, hs⟩ := exists_dropEndWhile_append isBlank message
  obtain ⟨more, hmore, hline⟩ := exists_firstLine_append htail (dropEndWhile isBlank message)
  rw [← hs] at hline
  rw [hline, trim, trimBy, dropWhile_of_stopsAt h]
  rcases firstLine_eq_or (dropEndWhile isBlank message) with heq | heq
  · exact ⟨more, hmore, by rw [heq]⟩
  · refine ⟨'\r' :: more, List.forall_mem_cons.mpr ⟨by decide, hmore⟩, ?_⟩
    rw [heq, List.append_assoc, List.singleton_append]

/-- A footer is added behind the message, after a line feed. -/
theorem exists_withFooter_append_stop (ticket : Option Text) (message : Text) :
    ∃ more, StopsAt (fun c => decide (c ≠ '\n')) more ∧
      withFooter ticket message = message ++ more := by
  unfold withFooter
  split
  · split
    · exact ⟨[], by simp, by simp⟩
    · exact ⟨_, by simp, rfl⟩
  · exact ⟨[], by simp, by simp⟩

/-- **The first line of the message in a reply** is the repaired first line of the reply. -/
theorem firstLine_messageOfReply {ticket : Option Text} (hticket : ∀ id ∈ ticket, IsTicketId id)
    (reply : Text) :
    firstLine (messageOfReply reply ticket) = tidySubject ticket (firstLine (unwrap reply)) := by
  have hline : '\n' ∉ tidySubject ticket (firstLine (unwrap reply)) := fun h =>
    newline_notMem_firstLine _ (mem_of_mem_tidySubject isForeign_newline hticket h)
  obtain ⟨footer, hstop, hfooter⟩ := exists_withFooter_append_stop ticket
    (mapFirstLine (tidySubject ticket) (unwrap reply))
  rw [messageOfReply, hfooter, mapFirstLine_eq, List.append_assoc]
  exact firstLine_append_stop hline (stopsAt_append (stopsAt_dropWhile _ _) hstop)

end MergeMessage.Commit
