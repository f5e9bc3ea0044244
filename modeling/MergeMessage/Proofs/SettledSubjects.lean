import MergeMessage.Proofs.DescriptionStyle
import MergeMessage.Proofs.FreedSubjects

/-!
# Subjects that are tidied twice

A line that is no header stays when it is tidied again: nothing is left of the ticket, and no gap to
be closed.  A header stays unless the first time has laid something open for the second.  That is so
for a first word that was left in Title Case, for an opening parenthesis that stood behind blank
characters in its scope, and, if there is a ticket to be taken out, for blank characters that come to
stand at the end of the line.

## Main definitions

* `headerOf?` — the header that tidying finds in a line.
* `Header.StaysTidied` — the parts of a header that are tidied once and for all.

## Main results

* `tidySubject_of_headerOf?_eq_none` — a line that is no header stays.
* `tidyScope_tidyScope` — a scope that is tidied again loses opening parentheses only.
* `tidySubject_tidySubject_iff` — which lines stay when they are tidied again.
-/

namespace MergeMessage.Commit

open Subject Text Ticket

/-! ### Lines that are no header -/

/-- The header that tidying finds in a line, once the ticket is gone. -/
def headerOf? (ticket : Option Text) (line : Text) : Option Header :=
  looseHeader? (insertColon (closeScopeGap (bareSubject ticket line)))

theorem closeScopeGap_closeScopeGap (s : Text) :
    closeScopeGap (closeScopeGap s) = closeScopeGap s := by
  rcases closeScopeGap_cases s with heq | ⟨kind, blanks, rest, hne, halpha, -, -, heq⟩
  · rw [heq, heq]
  · have hrun : run? Char.isAlpha (kind ++ '(' :: rest) = some (kind, '(' :: rest) :=
      run?_append hne halpha (by rw [stopsAt_cons]; decide)
    have hblank : run? isBlank ('(' :: rest) = none := run?_of_stopsAt (by rw [stopsAt_cons]; decide)
    rw [heq, closeScopeGap, hrun]
    simp only [hblank]

/-- A colon is put into headers only. -/
theorem insertColon_eq_self_of_none {s : Text} (h : looseHeader? (insertColon s) = none) :
    insertColon s = s := by
  rcases insertColon_cases s with
    heq | ⟨kind, scope, breaking, blanks, rest, hne, halpha, hscope, -, -, -, heq⟩
  · exact heq
  · rw [heq, looseHeader?_render hne halpha (by simpa using hscope)] at h
    simp at h

theorem trim_closeScopeGap {s : Text} (h : s.trim = s) : (closeScopeGap s).trim = closeScopeGap s := by
  rcases closeScopeGap_cases s with heq | ⟨kind, blanks, rest, hne, halpha, -, hs, heq⟩
  · rw [heq, h]
  · obtain ⟨-, hlast⟩ := trim_eq_self_iff.mp h
    obtain ⟨c, t, rfl⟩ := List.exists_cons_of_ne_nil hne
    rw [hs, ← List.append_assoc, List.getLast?_append_of_ne_nil _ (by simp)] at hlast
    rw [heq, trim_eq_self_iff, List.getLast?_append_of_ne_nil _ (by simp)]
    refine ⟨?_, hlast⟩
    rw [List.cons_append, stopsAt_cons]
    exact isBlank_of_isAlphanum (by simp [Char.isAlphanum, halpha c List.mem_cons_self])

section

variable {ticket : Option Text} (hticket : ∀ id ∈ ticket, IsTicketId id)

include hticket

theorem isFree_bareSubject (line : Text) : ∀ id ∈ ticket, IsFree id (bareSubject ticket line) := by
  rintro id rfl
  exact isFree_dropTicket (hticket id rfl) line

/-- The ticket is not found again when a gap was closed. -/
theorem bareSubject_closeScopeGap (line : Text) :
    bareSubject ticket (closeScopeGap (bareSubject ticket line)) =
      closeScopeGap (bareSubject ticket line) := by
  cases ticket with
  | none => rfl
  | some id =>
    have hid := hticket id rfl
    have hfree := (isFree_dropTicket hid line).closeScopeGap hid
    exact (hfree.dropTicket_eq_trim hid).trans (trim_closeScopeGap (trim_dropTicket id line))

/-- **A line that is no header stays** when it is tidied again. -/
theorem tidySubject_of_headerOf?_eq_none {line : Text} (h : headerOf? ticket line = none) :
    tidySubject ticket (tidySubject ticket line) = tidySubject ticket line := by
  unfold headerOf? at h
  have hcolon := insertColon_eq_self_of_none h
  have htidy : tidySubject ticket line = closeScopeGap (bareSubject ticket line) := by
    rw [tidySubject_eq, h]
    exact hcolon
  rw [hcolon] at h
  rw [htidy, tidySubject_eq, bareSubject_closeScopeGap hticket, closeScopeGap_closeScopeGap, hcolon, h]

end

/-! ### Scopes -/

theorem isBlank_of_mem_tidyScope {scope : Text} : ∀ c ∈ tidyScope scope, isBlank c = false := by
  intro x hx
  obtain ⟨c, hc, hlow⟩ := exists_lowersTo_of_mem_lowerAfter hx
  have hfiller : ∀ d ∈ ['-'], isBlank d = false := List.forall_mem_singleton.mpr (by decide)
  refine hlow.not_blank ((forall_mem_squeezeAfter_iff hfiller).mpr (fun d _ => ?_) c hc)
  cases isBlank d <;> simp

/-- **A scope that is tidied again** loses opening parentheses only, which blank characters stood
before. -/
theorem tidyScope_tidyScope {scope : Text} (h : ')' ∉ scope) :
    tidyScope (tidyScope scope) = (tidyScope scope).dropWhile (· == '(') := by
  have hsub : ∀ c ∈ (tidyScope scope).dropWhile (· == '('), c ∈ tidyScope scope := fun c hc =>
    (List.dropWhile_sublist _).mem hc
  have hblank : ∀ c ∈ (tidyScope scope).dropWhile (· == '('), isBlank c = false := fun c hc =>
    isBlank_of_mem_tidyScope c (hsub c hc)
  have hsettled : ∀ c ∈ (tidyScope scope).dropWhile (· == '('), IsSettled c := fun c hc =>
    isSettled_of_mem_lowerAfter (hsub c hc)
  rw [tidyScope_of_notMem (notMem_tidyScope h), trim_eq_self hblank, squeeze,
    squeezeAfter_of_forall hblank, lower, lowerAfter_of_isSettled hsettled]

theorem tidyScope_eq_self_iff {scope : Text} (h : ')' ∉ scope) :
    tidyScope (tidyScope scope) = tidyScope scope ↔ (tidyScope scope).head? ≠ some '(' := by
  rw [tidyScope_tidyScope h]
  cases tidyScope scope with
  | nil => simp
  | cons c t =>
    by_cases hc : c = '('
    · have hlen := (List.dropWhile_sublist (· == '(') (l := t)).length_le
      refine iff_of_false (fun heq => ?_) (by simp [hc])
      rw [List.dropWhile_cons_of_pos (by simp [hc])] at heq
      rw [heq, List.length_cons] at hlen
      omega
    · rw [List.dropWhile_cons_of_neg (by simp [hc])]
      simp [hc]

theorem bareScope_tidyScope {ticket : Option Text} (hticket : ∀ id ∈ ticket, IsTicketId id)
    (scope : Text) : bareScope ticket (tidyScope scope) = tidyScope scope := by
  cases ticket with
  | none => rfl
  | some id =>
    have hid := hticket id rfl
    have hword : ¬HasWord id none (tidyScope scope) :=
      not_hasWord_of_forall_not_upper hid (fun c => not_isUpper_of_mem_lowerAfter) none
    rw [bareScope, blankTicket_eq, blankAfter_eq_self hid hword,
      collapseBlanks_of_forall isBlank_of_mem_tidyScope]

/-! ### Ends of lines -/

/-- What follows the colon of a subject without the ticket: blank characters at the end are trimmed if
there is a ticket to be taken out. -/
def trimEnd (ticket : Option Text) (s : Text) : Text :=
  match ticket with
  | some _ => dropEndWhile isBlank s
  | none => s

theorem trimEnd_eq_self_iff {ticket : Option Text} {s : Text} :
    trimEnd ticket s = s ↔ (ticket ≠ none → ∀ c ∈ s.getLast?, isBlank c = false) := by
  cases ticket with
  | none => simp [trimEnd]
  | some id => simp [trimEnd, dropEndWhile_eq_self_iff]

/-- Only blank characters at the end are taken out of a description without the ticket. -/
theorem bareTail_of_isFree {ticket : Option Text} (hticket : ∀ id ∈ ticket, IsTicketId id) {s : Text}
    (hs : StopsAt isBlank s) (hfree : ∀ id ∈ ticket, IsFree id s) :
    bareTail ticket (' ' :: s) = trimEnd ticket (' ' :: s) := by
  cases ticket with
  | none => rfl
  | some id =>
    have hid := hticket id rfl
    obtain ⟨hword, hsparse⟩ := hfree id rfl
    have hword' : ¬HasWord id none (' ' :: s) := by
      rwa [hasWord_cons_iff hid (isSeparator_of_isBlank isBlank_space)]
    have hsparse' : IsSparse (' ' :: s) := isSparse_cons_iff.mpr ⟨fun _ => hs, hsparse⟩
    obtain ⟨tail, -, heq⟩ := exists_dropEndWhile_append isBlank (' ' :: s)
    rw [heq] at hsparse'
    rw [bareTail, blankTicket_eq, blankAfter_eq_self hid hword',
      collapseBlanks_of_isSparse hsparse'.of_append.1]
    rfl

theorem dropWhile_trimEnd {ticket : Option Text} {s : Text} (hs : StopsAt isBlank s) :
    (trimEnd ticket (' ' :: s)).dropWhile isBlank = trimEnd ticket s := by
  cases ticket with
  | none => rw [trimEnd, List.dropWhile_cons_of_pos isBlank_space, dropWhile_of_stopsAt hs, trimEnd]
  | some id =>
    rw [trimEnd, trimEnd]
    cases s with
    | nil => decide
    | cons c t =>
      rw [stopsAt_cons] at hs
      have hone : dropEndWhile isBlank (' ' :: c :: t) = ' ' :: c :: dropEndWhile isBlank t :=
        dropEndWhile_append_stop hs [' '] t
      have htwo : dropEndWhile isBlank (c :: t) = c :: dropEndWhile isBlank t :=
        dropEndWhile_append_stop hs [] t
      rw [hone, htwo, List.dropWhile_cons_of_pos isBlank_space,
        List.dropWhile_cons_of_neg (by simp [hs])]

/-- A description that is trimmed and tidied again stays if neither changes it. -/
theorem tidyDescription_trimEnd_iff {ticket : Option Text} {s : Text} (hs : StopsAt isBlank s) :
    tidyDescription (trimEnd ticket (tidyDescription s)) = tidyDescription s ↔
      ¬KeepsFirstWord s ∧ trimEnd ticket (tidyDescription s) = tidyDescription s := by
  constructor
  · intro h
    have htrim : trimEnd ticket (tidyDescription s) = tidyDescription s := by
      cases ticket with
      | none => rfl
      | some id =>
        rw [trimEnd] at h ⊢
        -- tidying keeps the number of blank characters, so none was trimmed
        obtain ⟨tail, htail, heq⟩ := exists_dropEndWhile_append isBlank (tidyDescription s)
        have hcount := countP_isBlank_tidyDescription (dropEndWhile isBlank (tidyDescription s))
        have hsum := congrArg (List.countP isBlank) heq
        rw [List.countP_append, List.countP_eq_length.mpr htail] at hsum
        rw [h] at hcount
        obtain rfl : tail = [] := List.length_eq_zero_iff.mp (by omega)
        exact (heq.trans (List.append_nil _)).symm
    rw [htrim] at h
    exact ⟨(tidyDescription_tidyDescription_iff hs).mp h, htrim⟩
  · rintro ⟨hkeeps, htrim⟩
    rw [htrim]
    exact (tidyDescription_tidyDescription_iff hs).mpr hkeeps

/-! ### Headers -/

/-- The parts of a header can be read off its text, if its scope is closed by a parenthesis only. -/
theorem render_eq_render_iff {g h : Header} (hkind : g.kind = h.kind)
    (hbreaking : g.breaking = h.breaking) (hg : ∀ scope ∈ g.scope, ')' ∉ scope)
    (hh : ∀ scope ∈ h.scope, ')' ∉ scope) :
    g.render = h.render ↔ g.scope = h.scope ∧ g.description = h.description := by
  rw [Header.render_eq, Header.render_eq, hkind, hbreaking, List.append_cancel_left_eq]
  constructor
  · intro heq
    -- the scopes end at their first closing bracket, so they are read back first
    have hscope : g.scope = h.scope := by
      cases hs : g.scope with
      | some scope =>
        rw [hs] at heq
        exact (renderScope_inj (hg scope hs) hh heq).symm
      | none =>
        cases hs' : h.scope with
        | none => rfl
        | some scope =>
          rw [hs, hs'] at heq
          have hinj : none = some scope := renderScope_inj (hh scope hs') (by simp) heq.symm
          simp at hinj
    rw [hscope, List.append_cancel_left_eq, List.append_cancel_left_eq] at heq
    exact ⟨hscope, by simpa using heq⟩
  · rintro ⟨hscope, hdesc⟩
    rw [hscope, hdesc]

/-- **Once and for all.**  The parts of the header are tidied so that tidying them again, after the
ticket was taken out again, changes nothing. -/
structure Header.StaysTidied (ticket : Option Text) (h : Header) : Prop where
  /-- No opening parenthesis comes to the front of the scope. -/
  scope : ∀ scope ∈ h.scope, (tidyScope scope).head? ≠ some '('
  /-- No first word is lowered the second time only; behind an empty scope, none is lowered. -/
  words : (∀ scope ∈ h.scope, tidyScope scope ≠ []) → ¬KeepsFirstWord h.description
  /-- If there is a ticket, the line does not end blank. -/
  ending : ticket ≠ none → (∀ c ∈ (tidyDescription h.description).getLast?, isBlank c = false) ∧
    (tidyDescription h.description = [] → ∀ scope ∈ h.scope, tidyScope scope ≠ [])

section

variable {ticket : Option Text} (hticket : ∀ id ∈ ticket, IsTicketId id) {line : Text} {h : Header}

theorem tidySubject_of_headerOf? (hs : headerOf? ticket line = some h) :
    tidySubject ticket line = (tidyHeader h).render := by
  unfold headerOf? at hs
  rw [tidySubject_eq, hs]

theorem stopsAt_tidyHeader (hs : headerOf? ticket line = some h) :
    StopsAt isBlank (tidyHeader h).description :=
  stopsAt_tidyDescription (stopsAt_description hs)

theorem isAlpha_tidyHeader (hs : headerOf? ticket line = some h) :
    ∀ c ∈ (tidyHeader h).kind, c.isAlpha = true := by
  intro c hc
  simp [Char.isAlpha, (tidyHeader_lead hs).2.1 c hc]

include hticket

/-- The description of a tidied header is free of the ticket. -/
theorem isFree_tidyHeader (hs : headerOf? ticket line = some h) :
    ∀ id ∈ ticket, IsFree id (tidyHeader h).description := by
  intro id hid
  have hid' := hticket id hid
  have hfree := ((isFree_bareSubject hticket line id hid).closeScopeGap hid').insertColon hid'
  exact (hfree.description hid' hs).tidyDescription hid'

/-- The tidied header without the ticket: blank characters at its end may be trimmed. -/
theorem bareSubject_render_tidyHeader (hs : headerOf? ticket line = some h) :
    bareSubject ticket (tidyHeader h).render =
      (tidyHeader h).kind ++ (renderScope (tidyHeader h).scope ++
        (renderBreaking (tidyHeader h).breaking ++
          ':' :: trimEnd ticket (' ' :: (tidyHeader h).description))) := by
  obtain ⟨hne, -, -⟩ := tidyHeader_lead hs
  have hkind := isAlpha_tidyHeader hs
  have hscope : (tidyHeader h).scope.map (bareScope ticket) = (tidyHeader h).scope := by
    cases hsc : h.scope with
    | none => simp [tidyHeader, hsc]
    | some scope => simp [tidyHeader, hsc, bareScope_tidyScope hticket]
  have htail := bareTail_of_isFree hticket (stopsAt_tidyHeader hs) (isFree_tidyHeader hticket hs)
  rw [Header.render_eq, ← htail]
  cases ticket with
  | none => rfl
  | some id =>
    have hdrop := dropTicket_render hne hkind (hticket id rfl) (tidyHeader h).scope
      (tidyHeader h).breaking (' ' :: (tidyHeader h).description)
    rwa [hscope] at hdrop

/-- A tidied header with a scope, or with none, is read again. -/
theorem tidySubject_render_tidyHeader (hs : headerOf? ticket line = some h)
    (hscope : ∀ scope ∈ (tidyHeader h).scope, scope ≠ []) :
    tidySubject ticket (tidyHeader h).render =
      (tidyHeader ⟨(tidyHeader h).kind, (tidyHeader h).scope, (tidyHeader h).breaking,
        trimEnd ticket (tidyHeader h).description⟩).render := by
  obtain ⟨hne, -, hclose⟩ := tidyHeader_lead hs
  have hkind := isAlpha_tidyHeader hs
  have hisScope : ∀ scope ∈ (tidyHeader h).scope, IsScope scope := fun scope hsc =>
    ⟨hscope scope hsc, hclose scope hsc⟩
  rw [tidySubject_eq, bareSubject_render_tidyHeader hticket hs, closeScopeGap_render hne hkind,
    insertColon_render hne hkind hisScope, looseHeader?_render hne hkind hisScope]
  dsimp only
  rw [dropWhile_trimEnd (stopsAt_tidyHeader hs)]

omit hticket in
/-- Nothing is read in a header with an empty scope. -/
theorem emptyScope_repaired {kind : Text} (hne : kind ≠ []) (hkind : ∀ c ∈ kind, c.isAlpha = true)
    (breaking : Bool) (tail : Text) :
    insertColon (kind ++ (renderScope (some []) ++ (renderBreaking breaking ++ ':' :: tail))) =
        kind ++ (renderScope (some []) ++ (renderBreaking breaking ++ ':' :: tail)) ∧
      looseHeader? (kind ++ (renderScope (some []) ++ (renderBreaking breaking ++ ':' :: tail))) =
        none := by
  have hnone : scope? (renderScope (some []) ++ (renderBreaking breaking ++ ':' :: tail)) = none := rfl
  constructor
  · simp only [insertColon, run?_isAlpha_render hne hkind, hnone]
  · simp only [looseHeader?, run?_isAlpha_render hne hkind, dropScope, hnone]
    rfl

/-- A tidied header with an empty scope is not read again. -/
theorem tidySubject_render_emptyScope (hs : headerOf? ticket line = some h)
    (hscope : (tidyHeader h).scope = some []) :
    tidySubject ticket (tidyHeader h).render = bareSubject ticket (tidyHeader h).render := by
  obtain ⟨hne, -, -⟩ := tidyHeader_lead hs
  have hkind := isAlpha_tidyHeader hs
  obtain ⟨hcolon, hnone⟩ := emptyScope_repaired hne hkind (tidyHeader h).breaking
    (trimEnd ticket (' ' :: (tidyHeader h).description))
  rw [tidySubject_eq, bareSubject_render_tidyHeader hticket hs, hscope,
    closeScopeGap_render hne hkind, hcolon, hnone]

/-- Behind an empty scope, only the end of a description matters. -/
theorem staysTidied_of_emptyScope_iff {scope : Text} (hs : headerOf? ticket line = some h)
    (hscope : h.scope = some scope) (hempty : tidyScope scope = []) :
    tidySubject ticket (tidyHeader h).render = (tidyHeader h).render ↔ h.StaysTidied ticket := by
  have htidy : (tidyHeader h).scope = some [] := by simp [tidyHeader, hscope, hempty]
  -- with no description left the line would end in the blank behind the colon
  have hend : (∀ c ∈ (' ' :: tidyDescription h.description).getLast?, isBlank c = false) ↔
      tidyDescription h.description ≠ [] ∧
        ∀ c ∈ (tidyDescription h.description).getLast?, isBlank c = false := by
    cases tidyDescription h.description with
    | nil => simp [isBlank_space]
    | cons c t => rw [List.getLast?_cons_cons, and_iff_right (List.cons_ne_nil c t)]
  rw [tidySubject_render_emptyScope hticket hs htidy, bareSubject_render_tidyHeader hticket hs,
    Header.render_eq, List.append_cancel_left_eq, List.append_cancel_left_eq,
    List.append_cancel_left_eq, List.cons_eq_cons, and_iff_right rfl, trimEnd_eq_self_iff]
  have hdesc : (tidyHeader h).description = tidyDescription h.description := rfl
  rw [hdesc, hend]
  constructor
  · intro hlast
    refine ⟨?_, ?_, fun hsome => ⟨(hlast hsome).2, fun hnil => absurd hnil (hlast hsome).1⟩⟩
    · simp [hscope, hempty]
    · exact fun hne => absurd hempty (hne scope hscope)
  · rintro ⟨-, -, hlast⟩ hsome
    exact ⟨fun hnil => (hlast hsome).2 hnil scope hscope hempty, (hlast hsome).1⟩

/-- A header that is read again stays if its scope and its description do. -/
theorem staysTidied_iff (hs : headerOf? ticket line = some h)
    (hne : ∀ scope ∈ h.scope, tidyScope scope ≠ []) :
    tidySubject ticket (tidyHeader h).render = (tidyHeader h).render ↔ h.StaysTidied ticket := by
  obtain ⟨-, -, hclose⟩ := tidyHeader_lead hs
  obtain ⟨-, -, hisScope, -⟩ := looseHeader?_eq_some_iff.mp hs
  have hne' : ∀ scope ∈ (tidyHeader h).scope, scope ≠ [] := by
    intro scope hsc
    obtain ⟨t, ht, rfl⟩ := Option.map_eq_some_iff.mp hsc
    exact hne t ht
  have hclose' : ∀ scope ∈ (tidyHeader h).scope.map tidyScope, ')' ∉ scope := by
    intro scope hsc
    obtain ⟨t, ht, rfl⟩ := Option.map_eq_some_iff.mp hsc
    exact notMem_tidyScope (hclose t ht)
  have hscope : (tidyHeader h).scope.map tidyScope = (tidyHeader h).scope ↔
      ∀ scope ∈ h.scope, (tidyScope scope).head? ≠ some '(' := by
    cases hsc : h.scope with
    | none => simp [tidyHeader, hsc]
    | some scope => simp [tidyHeader, hsc, tidyScope_eq_self_iff (hisScope scope hsc).2]
  have hrender := render_eq_render_iff (g := tidyHeader ⟨(tidyHeader h).kind, (tidyHeader h).scope,
    (tidyHeader h).breaking, trimEnd ticket (tidyHeader h).description⟩) (h := tidyHeader h)
    (lower_lower h.kind) rfl hclose' hclose
  rw [tidySubject_render_tidyHeader hticket hs hne', hrender]
  refine (and_congr hscope (tidyDescription_trimEnd_iff (stopsAt_description hs))).trans ?_
  rw [trimEnd_eq_self_iff]
  constructor
  · rintro ⟨hopen, hkeeps, hlast⟩
    exact ⟨hopen, fun _ => hkeeps, fun hsome => ⟨hlast hsome, fun _ => hne⟩⟩
  · rintro ⟨hopen, hkeeps, hlast⟩
    exact ⟨hopen, hkeeps hne, fun hsome => (hlast hsome).1⟩

/-- **Which lines stay when they are tidied again.** -/
theorem tidySubject_tidySubject_iff (line : Text) :
    tidySubject ticket (tidySubject ticket line) = tidySubject ticket line ↔
      ∀ h ∈ headerOf? ticket line, h.StaysTidied ticket := by
  cases hs : headerOf? ticket line with
  | none => exact iff_of_true (tidySubject_of_headerOf?_eq_none hticket hs) (by simp)
  | some h =>
    have hstays : tidySubject ticket (tidyHeader h).render = (tidyHeader h).render ↔
        h.StaysTidied ticket := by
      by_cases hne : ∀ scope ∈ h.scope, tidyScope scope ≠ []
      · exact staysTidied_iff hticket hs hne
      · push Not at hne
        obtain ⟨scope, hscope, hempty⟩ := hne
        exact staysTidied_of_emptyScope_iff hticket hs hscope hempty
    rw [tidySubject_of_headerOf? hs, hstays]
    simp

end

/-- An acronym at the start of a description in Title Case is left the first time and lowered the
second time. -/
theorem tidySubject_lowers_acronym :
    IsTicketId "ECHO-1".toList ∧
      headerOf? (some "ECHO-1".toList) "ECHO-1 fix: API Timeout".toList =
        some ⟨"fix".toList, none, false, "API Timeout".toList⟩ ∧
      tidySubject (some "ECHO-1".toList) "ECHO-1 fix: API Timeout".toList =
        "fix: API timeout".toList ∧
      tidySubject (some "ECHO-1".toList) "fix: API timeout".toList ≠ "fix: API timeout".toList := by
  have hid : IsTicketId "ECHO-1".toList := isTicketId_of_firstId? (s := "ECHO-1".toList) (by decide)
  have hheader : headerOf? (some "ECHO-1".toList) "ECHO-1 fix: API Timeout".toList =
      some ⟨"fix".toList, none, false, "API Timeout".toList⟩ := by decide
  have hkeeps : KeepsFirstWord "API Timeout".toList :=
    ⟨by decide, ⟨'A', "PI".toList, by decide, by decide, by decide⟩,
      ⟨'T', "imeout".toList, by decide, by decide, by decide⟩⟩
  have hfirst : tidySubject (some "ECHO-1".toList) "ECHO-1 fix: API Timeout".toList =
      "fix: API timeout".toList := by decide
  have htwice := @tidySubject_tidySubject_iff (some "ECHO-1".toList) (by simpa using hid)
    "ECHO-1 fix: API Timeout".toList
  refine ⟨hid, hheader, hfirst, fun hstays => ?_⟩
  rw [hfirst] at htwice
  exact (htwice.mp hstays _ hheader).words (by simp) hkeeps

/-- Capitalized words are brought down at once. -/
example : tidySubject none "fix: Handle API Timeout".toList = "fix: handle API timeout".toList := by
  decide

end MergeMessage.Commit
