import MergeMessage.Proofs.TidySubject

/-!
# Runs of blank characters

Once a subject is trimmed and its runs of blank characters are collapsed, it no longer shows how long
a run was, if a space stood in it.  Two texts that differ in such runs only are therefore tightened to
the same text, whatever stands before them.

## Main definitions

* `tighten` — a text trimmed, with its runs of blank characters collapsed.
* `IsGap` — blank characters with a space among them.
* `Similar` — texts that are tightened to the same, whatever stands before them.
* `IsSparse` — a text without two blank characters in a row.

## Main results

* `trim_collapseBlanks` — trimming and collapsing can change places.
* `Similar.gap` — all gaps are similar.
* `isSparse_collapseBlanks`, `collapseBlanks_of_isSparse` — what collapsing gives and what it leaves.
-/

namespace MergeMessage.Commit

open Text

/-- The text without blank characters at its ends, and with a single space for each run of two or
more. -/
def tighten (s : Text) : Text := collapseBlanks s.trim

theorem dropTicket_eq (id s : Text) : dropTicket id s = tighten (blankTicket id s) := rfl

/-! ### Collapsing -/

theorem isBlank_space : isBlank ' ' = true := by decide

/-- Within a run, all blank characters are dropped. -/
theorem collapseBlanksFrom_true_append {run : Text} (hrun : ∀ c ∈ run, isBlank c = true)
    (s : Text) : collapseBlanksFrom true (run ++ s) = collapseBlanksFrom true s := by
  induction run with
  | nil => rfl
  | cons c run ih =>
    rw [List.forall_mem_cons] at hrun
    rw [List.cons_append, collapseBlanksFrom, if_pos hrun.1, if_pos rfl, ih hrun.2]

/-- A space starts a run, whether or not it is the only character of it. -/
theorem collapseBlanks_space (s : Text) :
    collapseBlanks (' ' :: s) = ' ' :: collapseBlanksFrom true s := by
  rw [collapseBlanks, collapseBlanksFrom, if_pos isBlank_space]
  simp only [Bool.false_eq_true, if_false]
  split
  · rfl
  · next hhead =>
    cases s with
    | nil => rfl
    | cons c s =>
      rw [List.head?_cons, Option.any_some] at hhead
      rw [collapseBlanksFrom, collapseBlanksFrom, if_neg hhead, if_neg hhead]

theorem collapseBlanks_run {c d : Char} {run : Text} (hc : isBlank c = true)
    (hrun : ∀ e ∈ d :: run, isBlank e = true) (s : Text) :
    collapseBlanks (c :: d :: (run ++ s)) = ' ' :: collapseBlanksFrom true s := by
  have hd : (d :: (run ++ s)).head?.any isBlank = true := by simp [hrun d List.mem_cons_self]
  rw [collapseBlanks, collapseBlanksFrom, if_pos hc, if_pos hd]
  simp only [Bool.false_eq_true, if_false]
  rw [← List.cons_append, collapseBlanksFrom_true_append hrun]

/-- Blank characters that hold a space, and so are collapsed to it or to the space next to them. -/
structure IsGap (gap : Text) : Prop where
  blank : ∀ c ∈ gap, isBlank c = true
  space : ' ' ∈ gap

theorem isGap_space : IsGap [' '] := ⟨by simp [isBlank_space], by simp⟩

/-- **All gaps collapse to the same**, whatever stands around them. -/
theorem collapseBlanksFrom_gap {gap : Text} (hgap : IsGap gap) (inRun : Bool) (front s : Text) :
    collapseBlanksFrom inRun (front ++ (gap ++ s)) = collapseBlanksFrom inRun (front ++ ' ' :: s) := by
  induction front generalizing inRun with
  | nil =>
    obtain ⟨hblank, hspace⟩ := hgap
    rw [List.nil_append, List.nil_append]
    cases inRun with
    | true =>
      rw [collapseBlanksFrom_true_append hblank, ← List.singleton_append,
        collapseBlanksFrom_true_append isGap_space.blank]
    | false =>
      have hgoal : collapseBlanks (gap ++ s) = collapseBlanks (' ' :: s) := by
        -- a gap is one space or a run, and both collapse to one space
        match gap, hblank, hspace with
        | [c], _, hspace =>
          obtain rfl : ' ' = c := by simpa using hspace
          rfl
        | c :: d :: run, hblank, _ =>
          rw [List.forall_mem_cons] at hblank
          exact (collapseBlanks_run hblank.1 hblank.2 s).trans (collapseBlanks_space s).symm
      exact hgoal
  | cons c front ih =>
    -- only whether the next character is blank is asked, and a gap starts blank as a space does
    have hhead : (front ++ (gap ++ s)).head?.any isBlank =
        (front ++ ' ' :: s).head?.any isBlank := by
      cases front with
      | nil =>
        obtain ⟨d, t, rfl⟩ := List.exists_cons_of_ne_nil (List.ne_nil_of_mem hgap.space)
        simp [hgap.blank d List.mem_cons_self, isBlank_space]
      | cons d front => rfl
    rw [List.cons_append, List.cons_append, collapseBlanksFrom, collapseBlanksFrom, hhead, ih, ih]

/-! ### Trimming and collapsing -/

/-- Blank characters stay blank. -/
theorem isBlank_of_mem_collapseBlanks {s : Text} (h : ∀ c ∈ s, isBlank c = true) :
    ∀ c ∈ collapseBlanks s, isBlank c = true := by
  intro c hc
  by_contra hblank
  rw [Bool.not_eq_true] at hblank
  rw [mem_collapseBlanks_iff hblank] at hc
  simp [h c hc] at hblank

/-- What stands before a character that is not blank is collapsed on its own. -/
theorem collapseBlanks_append_of_stopsAt {t : Text} (h : StopsAt isBlank t) (s : Text) :
    collapseBlanks (s ++ t) = collapseBlanks s ++ collapseBlanks t := by
  cases t with
  | nil => simp [collapseBlanks, collapseBlanksFrom]
  | cons c t =>
    rw [stopsAt_cons] at h
    rw [collapseBlanks_append h]
    exact congrArg _ (collapseBlanks_append h [] t).symm

/-- What stands behind a character that is not blank is collapsed on its own. -/
theorem collapseBlanks_append_of_getLast? {s : Text} (h : ∀ c ∈ s.getLast?, isBlank c = false)
    (t : Text) : collapseBlanks (s ++ t) = collapseBlanks s ++ collapseBlanks t := by
  rcases List.eq_nil_or_concat s with rfl | ⟨u, c, rfl⟩
  · rfl
  · rw [List.concat_eq_append] at h ⊢
    have hc := h c (by simp)
    rw [List.append_assoc, List.singleton_append, collapseBlanks_append hc, collapseBlanks_append hc]
    simp [collapseBlanks, collapseBlanksFrom]

theorem stopsAt_isBlank_collapseBlanks {s : Text} (h : StopsAt isBlank s) :
    StopsAt isBlank (collapseBlanks s) := by
  cases s with
  | nil => exact stopsAt_nil _
  | cons c s =>
    rw [stopsAt_cons] at h
    have hcons : collapseBlanks (c :: s) = c :: collapseBlanks s := collapseBlanks_append h [] s
    rwa [hcons, stopsAt_cons]

theorem not_isBlank_getLast?_collapseBlanks {s : Text} (h : ∀ c ∈ s.getLast?, isBlank c = false) :
    ∀ c ∈ (collapseBlanks s).getLast?, isBlank c = false := by
  rcases List.eq_nil_or_concat s with rfl | ⟨u, c, rfl⟩
  · exact h
  · rw [List.concat_eq_append] at h ⊢
    have hc := h c (by simp)
    rw [collapseBlanks_append hc]
    simpa [collapseBlanks, collapseBlanksFrom] using hc

/-- **Trimming and collapsing can change places.** -/
theorem trim_collapseBlanks (s : Text) : (collapseBlanks s).trim = tighten s := by
  obtain ⟨lead, tail, hlead, htail, hs⟩ := exists_trim_append s
  obtain ⟨hfirst, hlast⟩ := trim_eq_self_iff.mp (trim_trim s)
  rw [tighten]
  -- either all is blank, or the blanks at the two ends collapse apart from the core
  cases hcore : s.trim with
  | nil =>
    rw [trim_eq_nil_iff, isAllBlank, List.all_eq_true] at hcore
    have hblank : (collapseBlanks s).isAllBlank = true :=
      List.all_eq_true.mpr (isBlank_of_mem_collapseBlanks hcore)
    rw [trim_eq_nil_iff.mpr hblank]
    rfl
  | cons c core =>
    rw [hcore] at hfirst hlast
    have hstop : StopsAt isBlank (c :: core ++ tail) := by
      rw [stopsAt_cons] at hfirst
      exact (stopsAt_cons _ _ _).mpr hfirst
    rw [hs, hcore, collapseBlanks_append_of_stopsAt hstop, collapseBlanks_append_of_getLast? hlast,
      trim_append_append (isBlank_of_mem_collapseBlanks hlead) (isBlank_of_mem_collapseBlanks htail),
      trim_eq_self_iff]
    exact ⟨stopsAt_isBlank_collapseBlanks hfirst, not_isBlank_getLast?_collapseBlanks hlast⟩

/-! ### Similar texts -/

/-- Whatever stands before them, the two texts are tightened to the same text. -/
def Similar (s t : Text) : Prop :=
  ∀ front, collapseBlanks (front ++ s) = collapseBlanks (front ++ t)

namespace Similar

variable {s t u : Text}

theorem refl (s : Text) : Similar s s := fun _ => rfl

theorem symm (h : Similar s t) : Similar t s := fun front => (h front).symm

theorem trans (h : Similar s t) (h' : Similar t u) : Similar s u := fun front =>
  (h front).trans (h' front)

theorem append (front : Text) (h : Similar s t) : Similar (front ++ s) (front ++ t) := by
  intro more
  rw [← List.append_assoc, ← List.append_assoc]
  exact h (more ++ front)

theorem cons (c : Char) (h : Similar s t) : Similar (c :: s) (c :: t) := h.append [c]

/-- A gap is similar to a space. -/
theorem gap {gap : Text} (hgap : IsGap gap) (s : Text) : Similar (gap ++ s) (' ' :: s) :=
  fun front => collapseBlanksFrom_gap hgap false front s

theorem tighten_eq (h : Similar s t) : tighten s = tighten t := by
  rw [← trim_collapseBlanks, ← trim_collapseBlanks]
  exact congrArg trim (h [])

end Similar

/-! ### Sparse texts -/

/-- No two blank characters follow each other. -/
def IsSparse (s : Text) : Prop := s.IsChain fun c d => isBlank c = true → isBlank d = false

theorem isSparse_nil : IsSparse [] := List.isChain_nil

theorem isSparse_cons_iff {c : Char} {s : Text} :
    IsSparse (c :: s) ↔ (isBlank c = true → StopsAt isBlank s) ∧ IsSparse s := by
  rw [IsSparse, List.isChain_cons, IsSparse]
  refine and_congr_left fun _ => ?_
  exact ⟨fun h hc d hd => h d hd hc, fun h d hd hc => h hc d hd⟩

theorem IsSparse.of_append {s t : Text} (h : IsSparse (s ++ t)) : IsSparse s ∧ IsSparse t :=
  ⟨(List.isChain_append.mp h).1, (List.isChain_append.mp h).2.1⟩

/-- **What collapsing gives** is sparse, and within a run it goes on with a character that is not
blank. -/
theorem isSparse_collapseBlanksFrom (s : Text) :
    IsSparse (collapseBlanksFrom false s) ∧ IsSparse (collapseBlanksFrom true s) ∧
      StopsAt isBlank (collapseBlanksFrom true s) := by
  induction s with
  | nil => exact ⟨isSparse_nil, isSparse_nil, stopsAt_nil _⟩
  | cons c s ih =>
    obtain ⟨hkept, hrun, hstop⟩ := ih
    -- the three facts are proved together, since each state of the scan may follow the other
    cases hc : isBlank c with
    | false =>
      simp only [collapseBlanksFrom, hc, Bool.false_eq_true, if_false]
      have hcons : IsSparse (c :: collapseBlanksFrom false s) :=
        isSparse_cons_iff.mpr ⟨fun h => by simp [hc] at h, hkept⟩
      exact ⟨hcons, hcons, (stopsAt_cons _ _ _).mpr hc⟩
    | true =>
      simp only [collapseBlanksFrom, hc, Bool.false_eq_true, if_true, if_false]
      refine ⟨?_, hrun, hstop⟩
      split
      · exact isSparse_cons_iff.mpr ⟨fun _ => hstop, hrun⟩
      · next hhead =>
        have hs : StopsAt isBlank s := by
          intro d hd
          rw [Option.mem_def] at hd
          simpa [hd] using hhead
        exact isSparse_cons_iff.mpr ⟨fun _ => stopsAt_isBlank_collapseBlanks hs, hkept⟩

theorem isSparse_collapseBlanks (s : Text) : IsSparse (collapseBlanks s) :=
  (isSparse_collapseBlanksFrom s).1

/-- A sparse text stays when its runs are collapsed. -/
theorem collapseBlanks_of_isSparse {s : Text} (h : IsSparse s) : collapseBlanks s = s := by
  induction s with
  | nil => rfl
  | cons c s ih =>
    obtain ⟨hstop, hs⟩ := isSparse_cons_iff.mp h
    have hfrom : collapseBlanksFrom false s = s := ih hs
    rw [collapseBlanks, collapseBlanksFrom, hfrom]
    split
    · next hc =>
      have hhead : s.head?.any isBlank = false := by
        cases s with
        | nil => rfl
        | cons d s => simpa using hstop hc
      simp [hhead]
    · rfl

end MergeMessage.Commit
