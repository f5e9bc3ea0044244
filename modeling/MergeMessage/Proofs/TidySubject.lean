import MergeMessage.Proofs.Subjects
import MergeMessage.Proofs.TicketRemoval

/-!
# Repairing a subject

When the ticket is taken out of a header, its type stays, its scope and its description are freed
from the ticket on their own, and the marks between them stay where they are.  What is left is a
header in the loose form, so the repairs of a subject that is none do not touch it.

## Main definitions

* `bareScope`, `bareTail` — a scope, and what follows the colon, without the ticket.
* `Header.tidied` — the header that a header is repaired to.

## Main results

* `mem_bareScope_iff`, `mem_bareTail` — what is left stands outside of the mentions.
* `dropTicket_render` — a header without the ticket.
* `looseHeader?_eq_some_iff` — the loose reader takes exactly the headers.
* `tidySubject_render` — the repaired subject of a header.
-/

namespace MergeMessage.Commit

open Subject Text

/-! ### Runs of blank characters -/

theorem collapseBlanksFrom_append {c : Char} (hc : isBlank c = false) (inRun : Bool)
    (s t : Text) :
    collapseBlanksFrom inRun (s ++ c :: t) = collapseBlanksFrom inRun s ++ c :: collapseBlanks t := by
  induction s generalizing inRun with
  | nil => simp [collapseBlanksFrom, collapseBlanks, hc]
  | cons d s ih =>
    have hhead : (s ++ c :: t).head?.any isBlank = s.head?.any isBlank := by
      cases s with
      | nil => simp [hc]
      | cons e s => rfl
    rw [List.cons_append, collapseBlanksFrom, collapseBlanksFrom, hhead, ih, ih]
    split
    · split
      · rfl
      · split <;> rfl
    · rfl

theorem collapseBlanks_append {c : Char} (hc : isBlank c = false) (s t : Text) :
    collapseBlanks (s ++ c :: t) = collapseBlanks s ++ c :: collapseBlanks t :=
  collapseBlanksFrom_append hc false s t

/-- Only blank characters are collapsed. -/
theorem mem_collapseBlanks_iff {c : Char} (hc : isBlank c = false) {s : Text} :
    c ∈ collapseBlanks s ↔ c ∈ s := by
  have hspace : c ≠ ' ' := by
    rintro rfl
    exact absurd hc (by decide)
  -- that a blank was just read decides about blanks only
  have hfrom : ∀ inRun, c ∈ collapseBlanksFrom inRun s ↔ c ∈ s := by
    induction s with
    | nil => simp [collapseBlanksFrom]
    | cons d s ih =>
      intro inRun
      rw [collapseBlanksFrom]
      split
      · next hd =>
        have hne : c ≠ d := by
          rintro rfl
          simp [hc] at hd
        split
        · simp [ih, hne]
        · split <;> simp [ih, hne, hspace]
      · simp [ih]
  exact hfrom false

theorem collapseBlanks_of_forall {s : Text} (h : ∀ c ∈ s, isBlank c = false) :
    collapseBlanks s = s := by
  induction s with
  | nil => rfl
  | cons c s ih =>
    rw [List.forall_mem_cons] at h
    have hcons := collapseBlanks_append h.1 [] s
    rw [List.nil_append, ih h.2] at hcons
    exact hcons

theorem stopsAt_collapseBlanks {p : Char → Bool} (hp : p ' ' = false) {s : Text}
    (h : StopsAt p s) : StopsAt p (collapseBlanks s) := by
  cases s with
  | nil => exact stopsAt_nil p
  | cons c s =>
    rw [stopsAt_cons] at h
    rw [collapseBlanks, collapseBlanksFrom]
    split
    · simp only [Bool.false_eq_true, if_false]
      split <;> simp [hp, h]
    · simp [h]

theorem collapseBlanks_ne_nil {s : Text} (h : s ≠ []) : collapseBlanks s ≠ [] := by
  cases s with
  | nil => exact absurd rfl h
  | cons c s =>
    rw [collapseBlanks, collapseBlanksFrom]
    split
    · simp only [Bool.false_eq_true, if_false]
      split <;> simp
    · simp

/-! ### Parts without the ticket -/

/-- A scope without the mentions of the ticket. -/
def bareScope (ticket : Option Text) (scope : Text) : Text :=
  match ticket with
  | some id => collapseBlanks (blankTicket id scope)
  | none => scope

/-- What follows the colon of a subject, without the mentions of the ticket. -/
def bareTail (ticket : Option Text) (tail : Text) : Text :=
  match ticket with
  | some id => collapseBlanks (dropEndWhile isBlank (blankTicket id tail))
  | none => tail

/-- A subject without the mentions of the ticket. -/
def bareSubject (ticket : Option Text) (subject : Text) : Text :=
  match ticket with
  | some id => dropTicket id subject
  | none => subject

theorem stopsAt_blankTicket {id : Text} (hid : IsTicketId id) {p : Char → Bool}
    (hp : p ' ' = false) {s : Text} (h : StopsAt p s) : StopsAt p (blankTicket id s) := by
  rw [blankTicket_eq]
  cases s with
  | nil => simp [blankAfter_nil hid]
  | cons c s =>
    cases hat : mentionAt? id none (c :: s) with
    | none => simpa [blankAfter_keep hat] using h
    | some n =>
      obtain ⟨lead, tail, rest, hm, heq, -⟩ := (mentionAt?_eq_some_iff hid).mp hat
      simp [heq, blankAfter_mention hid hm, hp]

theorem blankTicket_ne_nil {id : Text} (hid : IsTicketId id) {s : Text} (h : s ≠ []) :
    blankTicket id s ≠ [] := by
  rw [blankTicket_eq]
  obtain ⟨c, s, rfl⟩ := List.exists_cons_of_ne_nil h
  cases hat : mentionAt? id none (c :: s) with
  | none => simp [blankAfter_keep hat]
  | some n =>
    obtain ⟨lead, tail, rest, hm, heq, -⟩ := (mentionAt?_eq_some_iff hid).mp hat
    simp [heq, blankAfter_mention hid hm]

section

variable {ticket : Option Text} (hticket : ∀ id ∈ ticket, IsTicketId id)

include hticket

theorem mem_bareScope_iff {c : Char} (hc : isBlank c = false) {scope : Text} :
    c ∈ bareScope ticket scope ↔ StandsOutside ticket c scope := by
  cases ticket with
  | none => rw [standsOutside_none, bareScope]
  | some id =>
    rw [bareScope, mem_collapseBlanks_iff hc, mem_blankTicket_iff (hticket id rfl) hc]

theorem mem_bareTail {c : Char} (hc : isBlank c = false) {tail : Text}
    (h : StandsOutside ticket c tail) : c ∈ bareTail ticket tail := by
  cases ticket with
  | none => exact h.mem
  | some id =>
    rw [bareTail, mem_collapseBlanks_iff hc]
    exact mem_dropEndWhile ((mem_blankTicket_iff (hticket id rfl) hc).mpr h) hc

/-- A scope is still one without the ticket. -/
theorem isScope_bareScope {scope : Text} (h : IsScope scope) : IsScope (bareScope ticket scope) := by
  refine ⟨?_, fun hmem => ?_⟩
  · cases ticket with
    | none => exact h.1
    | some id => exact collapseBlanks_ne_nil (blankTicket_ne_nil (hticket id rfl) h.1)
  · rw [mem_bareScope_iff hticket (by decide)] at hmem
    exact h.2 hmem.mem

/-- The opening parentheses of a scope stay. -/
theorem dropWhile_bareScope (scope : Text) :
    (bareScope ticket scope).dropWhile (· == '(') =
      bareScope ticket (scope.dropWhile (· == '(')) := by
  cases ticket with
  | none => rfl
  | some id =>
    have hid := hticket id rfl
    have hopen : IsMark '(' := isMark_of_mem (by simp)
    have hstop : StopsAt (· == '(') (bareScope (some id) (scope.dropWhile (· == '('))) :=
      stopsAt_collapseBlanks (p := (· == '(')) (by decide)
        (stopsAt_blankTicket hid (by decide) (stopsAt_dropWhile _ scope))
    -- an opening parenthesis is a mark: what follows it is blanked on its own
    induction scope with
    | nil => exact dropWhile_of_stopsAt hstop
    | cons c scope ih =>
      by_cases hc : c = '('
      · subst hc
        have hblank := blankTicket_append_mark hid hopen [] scope
        have hnil : blankTicket id [] = [] := blankAfter_nil hid none
        rw [hnil, List.nil_append, List.nil_append] at hblank
        have hbare : bareScope (some id) ('(' :: scope) = '(' :: bareScope (some id) scope := by
          rw [bareScope, bareScope, hblank]
          exact collapseBlanks_append hopen.not_blank [] _
        rw [hbare]
        simpa using ih hstop
      · rw [List.dropWhile_cons_of_neg (by simpa using hc)] at hstop ⊢
        exact dropWhile_of_stopsAt hstop

end

/-! ### Headers without the ticket -/

/-- What treats the two sides of a mark on their own treats the parts of a header on their own. -/
theorem map_render {f : Text → Text} {kind : Text} (hnil : f [] = [])
    (hmark : ∀ c s t, IsMark c → f (s ++ c :: t) = f s ++ c :: f t) (hf : f kind = kind)
    (scope : Option Text) (breaking : Bool) (tail : Text) :
    f (kind ++ (renderScope scope ++ (renderBreaking breaking ++ ':' :: tail))) =
      kind ++ (renderScope (scope.map f) ++ (renderBreaking breaking ++ ':' :: f tail)) := by
  have hopen : IsMark '(' := isMark_of_mem (by simp)
  have hclose : IsMark ')' := isMark_of_mem (by simp)
  have hbang : IsMark '!' := isMark_of_mem (by simp)
  have hcolon : IsMark ':' := isMark_of_mem (by simp)
  -- from the exclamation mark on, whatever stands before it
  have hrest : ∀ s, f (s ++ (renderBreaking breaking ++ ':' :: tail)) =
      f s ++ (renderBreaking breaking ++ ':' :: f tail) := by
    intro s
    cases breaking with
    | false => exact hmark _ s tail hcolon
    | true =>
      have hcons := hmark _ [] tail hcolon
      rw [hnil, List.nil_append, List.nil_append] at hcons
      show f (s ++ '!' :: ':' :: tail) = f s ++ '!' :: ':' :: f tail
      rw [hmark _ s _ hbang, hcons]
  cases scope with
  | none =>
    show f (kind ++ (renderBreaking breaking ++ ':' :: tail)) = _
    rw [hrest, hf]
    rfl
  | some scope =>
    have hassoc : kind ++ (renderScope (some scope) ++ (renderBreaking breaking ++ ':' :: tail)) =
        kind ++ '(' :: (scope ++ ')' :: ([] ++ (renderBreaking breaking ++ ':' :: tail))) := by
      simp [renderScope]
    rw [hassoc, hmark _ kind _ hopen, hmark _ scope _ hclose, hrest, hf, hnil]
    simp [renderScope]

section

variable {kind : Text} (hne : kind ≠ []) (hkind : ∀ c ∈ kind, c.isAlpha = true)

include hkind

theorem kind_not_blank : ∀ c ∈ kind, isBlank c = false :=
  fun c hc => isBlank_of_isAlphanum (by simp [Char.isAlphanum, hkind c hc])

theorem hyphen_notMem_kind : '-' ∉ kind := by
  intro hmem
  exact absurd (hkind _ hmem) (by decide)

include hne

theorem trim_render (scope : Option Text) (breaking : Bool) (tail : Text) :
    trim (kind ++ (renderScope scope ++ (renderBreaking breaking ++ ':' :: tail))) =
      kind ++ (renderScope scope ++ (renderBreaking breaking ++
        ':' :: dropEndWhile isBlank tail)) := by
  have hstop : StopsAt isBlank
      (kind ++ (renderScope scope ++ (renderBreaking breaking ++ ':' :: tail))) := by
    obtain ⟨c, s, rfl⟩ := List.exists_cons_of_ne_nil hne
    rw [List.cons_append, stopsAt_cons]
    exact kind_not_blank hkind c List.mem_cons_self
  have hcolon := dropEndWhile_append_stop (p := isBlank) (c := ':') (by decide)
    (kind ++ (renderScope scope ++ renderBreaking breaking)) tail
  rw [trim, trimBy, dropWhile_of_stopsAt hstop]
  simpa using hcolon

/-- **A header without the ticket** has the parts of the header without the ticket. -/
theorem dropTicket_render {id : Text} (hid : IsTicketId id) (scope : Option Text)
    (breaking : Bool) (tail : Text) :
    dropTicket id (kind ++ (renderScope scope ++ (renderBreaking breaking ++ ':' :: tail))) =
      kind ++ (renderScope (scope.map (bareScope (some id))) ++
        (renderBreaking breaking ++ ':' :: bareTail (some id) tail)) := by
  have hblank := map_render (f := blankTicket id) (blankAfter_nil hid none)
    (fun c s t hc => blankTicket_append_mark hid hc s t)
    (blankTicket_of_notMem hid (hyphen_notMem_kind hkind)) scope breaking tail
  have hcollapse := map_render (f := collapseBlanks) rfl
    (fun c s t hc => collapseBlanks_append hc.not_blank s t)
    (collapseBlanks_of_forall (kind_not_blank hkind)) (scope.map (blankTicket id)) breaking
    (dropEndWhile isBlank (blankTicket id tail))
  rw [dropTicket, hblank, trim_render hne hkind, hcollapse, Option.map_map]
  rfl

/-! ### The loose form -/

variable {scope : Option Text} (hscope : ∀ t ∈ scope, IsScope t) (breaking : Bool) (tail : Text)

theorem run?_isAlpha_render :
    run? Char.isAlpha (kind ++ (renderScope scope ++ (renderBreaking breaking ++ ':' :: tail))) =
      some (kind, renderScope scope ++ (renderBreaking breaking ++ ':' :: tail)) :=
  run?_append hne hkind (stopsAt_renderScope (by decide) (by decide) (by decide) _ _ _)

/-- No blank characters stand before the scope of a header. -/
theorem closeScopeGap_render :
    closeScopeGap (kind ++ (renderScope scope ++ (renderBreaking breaking ++ ':' :: tail))) =
      kind ++ (renderScope scope ++ (renderBreaking breaking ++ ':' :: tail)) := by
  have hblank : run? isBlank (renderScope scope ++ (renderBreaking breaking ++ ':' :: tail)) =
      none :=
    run?_of_stopsAt (stopsAt_renderScope (by decide) (by decide) (by decide) _ _ _)
  simp only [closeScopeGap, run?_isAlpha_render hne hkind, hblank]

include hscope

/-- No colon is missing in a header. -/
theorem insertColon_render :
    insertColon (kind ++ (renderScope scope ++ (renderBreaking breaking ++ ':' :: tail))) =
      kind ++ (renderScope scope ++ (renderBreaking breaking ++ ':' :: tail)) := by
  have hcolon : run? isBlank (':' :: tail) = none :=
    run?_of_stopsAt (by rw [stopsAt_cons]; decide)
  simp only [insertColon, run?_isAlpha_render hne hkind, scope?_renderScope hscope]
  cases scope with
  | none => rfl
  | some t => simp only [Option.map_some, dropBang_renderBreaking, hcolon]

theorem looseHeader?_render :
    looseHeader? (kind ++ (renderScope scope ++ (renderBreaking breaking ++ ':' :: tail))) =
      some ⟨kind, scope, breaking, tail.dropWhile isBlank⟩ := by
  have hmap : (scope.map fun t => (t, renderBreaking breaking ++ ':' :: tail)).map Prod.fst =
      scope := by
    cases scope <;> rfl
  have hdrop : dropScope (renderScope scope ++ (renderBreaking breaking ++ ':' :: tail)) =
      renderBreaking breaking ++ ':' :: tail := by
    rw [dropScope, scope?_renderScope hscope]
    cases scope <;> rfl
  have hbang : ((renderBreaking breaking ++ ':' :: tail).head? == some '!') = breaking := by
    cases breaking <;> rfl
  simp only [looseHeader?, run?_isAlpha_render hne hkind, scope?_renderScope hscope, hmap, hdrop,
    dropBang_renderBreaking, hbang]

end

/-- **The loose reader.**  It finds a header in exactly those subjects that are one with any blank
characters before the description. -/
theorem looseHeader?_eq_some_iff {s : Text} {h : Header} :
    looseHeader? s = some h ↔
      h.kind ≠ [] ∧ (∀ c ∈ h.kind, c.isAlpha = true) ∧ (∀ t ∈ h.scope, IsScope t) ∧
        ∃ tail, h.description = tail.dropWhile isBlank ∧
          s = h.kind ++ (renderScope h.scope ++ (renderBreaking h.breaking ++ ':' :: tail)) := by
  constructor
  · intro hs
    unfold looseHeader? at hs
    split at hs
    · simp at hs
    next kind rest hrun =>
    dsimp only at hs
    split at hs
    next tail hcolon =>
      obtain rfl := Option.some.inj hs
      obtain ⟨hne, hkind, -, rfl⟩ := run?_eq_some_iff.mp hrun
      refine ⟨hne, hkind, ?_, tail, rfl, ?_⟩
      · intro t ht
        obtain ⟨⟨t', rest'⟩, hscope, rfl⟩ := Option.map_eq_some_iff.mp ht
        exact (scope?_eq_some_iff.mp hscope).1
      -- the readers of the scope and of the exclamation mark, undone
      have hscope : rest = renderScope ((scope? rest).map Prod.fst) ++ dropScope rest := by
        rw [dropScope]
        split
        · next t rest' heq => simpa [heq, renderScope] using (scope?_eq_some_iff.mp heq).2
        · next heq => simp [heq, renderScope]
      have hbang : dropScope rest =
          renderBreaking ((dropScope rest).head? == some '!') ++ ':' :: tail := by
        obtain ⟨breaking, hb⟩ := exists_renderBreaking_append (dropScope rest)
        rw [hcolon] at hb
        rw [hb]
        cases breaking <;> rfl
      rw [← hbang, ← hscope]
    · simp at hs
  · rintro ⟨hne, hkind, hscope, tail, hdesc, rfl⟩
    rw [looseHeader?_render hne hkind hscope, ← hdesc]

/-- Blank characters before a description are no part of it. -/
theorem stopsAt_description {s : Text} {h : Header} (hs : looseHeader? s = some h) :
    StopsAt isBlank h.description := by
  obtain ⟨-, -, -, tail, hdesc, -⟩ := looseHeader?_eq_some_iff.mp hs
  exact hdesc ▸ stopsAt_dropWhile isBlank tail

/-- The header that a header is repaired to: its parts without the ticket, in the strict form as far
as tidying goes. -/
def Header.tidied (ticket : Option Text) (h : Header) : Header :=
  tidyHeader ⟨h.kind, h.scope.map (bareScope ticket), h.breaking,
    (bareTail ticket (' ' :: h.description)).dropWhile isBlank⟩

theorem tidySubject_eq (ticket : Option Text) (subject : Text) :
    tidySubject ticket subject =
      match looseHeader? (insertColon (closeScopeGap (bareSubject ticket subject))) with
      | some h => (tidyHeader h).render
      | none => insertColon (closeScopeGap (bareSubject ticket subject)) := by
  cases ticket <;> rfl

/-- **The repaired subject of a header** is the header that it is repaired to. -/
theorem tidySubject_render {ticket : Option Text} (hticket : ∀ id ∈ ticket, IsTicketId id)
    {h : Header} (hne : h.kind ≠ []) (hkind : ∀ c ∈ h.kind, c.isAlpha = true)
    (hscope : ∀ scope ∈ h.scope, IsScope scope) :
    tidySubject ticket h.render = (h.tidied ticket).render := by
  have hbare : bareSubject ticket h.render =
      h.kind ++ (renderScope (h.scope.map (bareScope ticket)) ++
        (renderBreaking h.breaking ++ ':' :: bareTail ticket (' ' :: h.description))) := by
    rw [Header.render_eq]
    cases ticket with
    | none =>
      have hscope : bareScope none = fun scope => scope := rfl
      simp [hscope, bareSubject, bareTail]
    | some id => exact dropTicket_render hne hkind (hticket id rfl) _ _ _
  have hscope' : ∀ scope ∈ h.scope.map (bareScope ticket), IsScope scope := by
    intro scope hs
    obtain ⟨t, ht, rfl⟩ := Option.map_eq_some_iff.mp hs
    exact isScope_bareScope hticket (hscope t ht)
  rw [tidySubject_eq, hbare, closeScopeGap_render hne hkind, insertColon_render hne hkind hscope',
    looseHeader?_render hne hkind hscope']
  rfl

end MergeMessage.Commit
