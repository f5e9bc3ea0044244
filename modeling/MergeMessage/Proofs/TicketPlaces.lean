import MergeMessage.Proofs.TicketScan

/-!
# Where ticket ids stand

The reader of ids takes the first id that it finds and goes on behind it.  What it takes can be said
without it: the ids of a text are the parts of the form of an id that neither a capital before them
nor a digit after them continues.  A text can be cut at any place where no id is continued, and each
line has its own ids.

## Main definitions

* `IsWholeBetween` — no id is continued across the ends of a part.

## Main results

* `ids_append_of_apart` — a text can be cut between ids.
* `mem_ids_iff` — the ids of a text, as the places where they stand.
* `ids_eq_nil_iff` — a text without ids.
* `ids_eq_flatMap_lines`, `ids_trim` — the ids of lines, and blank characters at the ends.
-/

namespace MergeMessage

namespace Ticket

open Text

/-- Between the character `before` and the text `rest`, no id goes on to the left or right. -/
structure IsWholeBetween (before : Option Char) (rest : Text) : Prop where
  start : ∀ c ∈ before, c.isUpper = false
  stop : StopsAt Char.isDigit rest

/-! ### The order of characters in an id -/

/-- In an id, no capital follows a character of another kind. -/
theorem not_isUpper_of_isTicketId {u b : Text} {c : Char} (hid : IsTicketId (u ++ c :: b))
    {d : Char} (hd : d ∈ u.getLast?) (hlast : d.isUpper = false) : c.isUpper = false := by
  obtain ⟨project, number, -, -, hproject, hnumber, heq⟩ := hid
  rcases List.append_eq_append_iff.mp heq with ⟨x, rfl, -⟩ | ⟨x, rfl, hx⟩
  · -- the cut lies in the project, which has capitals only
    have hmem : d ∈ u ++ x := List.mem_append_left x (List.mem_of_mem_getLast? hd)
    rw [hproject d hmem] at hlast
    simp at hlast
  · -- the cut lies behind the project
    have hmem : c ∈ '-' :: number := by rw [hx]; simp
    rcases List.mem_cons.mp hmem with rfl | hmem
    · decide
    · have hdigit := isDigit_iff.mp (hnumber c hmem)
      exact isUpper_eq_false_iff.mpr (by omega)

/-- An id ends with a digit. -/
theorem not_isUpper_of_mem_getLast? {id : Text} (hid : IsTicketId id) {c : Char}
    (hc : c ∈ id.getLast?) : c.isUpper = false := by
  obtain ⟨project, number, -, hn, -, hnumber, rfl⟩ := hid
  rw [List.append_cons, List.getLast?_append_of_ne_nil _ hn] at hc
  have hdigit := isDigit_iff.mp (hnumber c (List.mem_of_mem_getLast? hc))
  exact isUpper_eq_false_iff.mpr (by omega)

/-- An id starts with a capital, so it continues no id before it. -/
theorem stopsAt_isDigit_id_append {id : Text} (hid : IsTicketId id) (rest : Text) :
    StopsAt Char.isDigit (id ++ rest) := by
  obtain ⟨project, number, hp, -, hproject, -, rfl⟩ := hid
  obtain ⟨c, s, rfl⟩ := List.exists_cons_of_ne_nil hp
  have hupper := isUpper_iff.mp (hproject c List.mem_cons_self)
  rw [List.cons_append, List.cons_append, stopsAt_cons, Bool.eq_false_iff, ne_eq, isDigit_iff]
  omega

/-! ### Cutting between ids -/

/-- An id at the front ends before a place where no id is continued. -/
theorem idAt?_append_of_apart {s t : Text} (hs : ∀ c ∈ s.getLast?, c.isUpper = false)
    (ht : StopsAt Char.isDigit t) (hne : s ≠ []) (hnone : idAt? s = none) :
    idAt? (s ++ t) = none := by
  rw [Option.eq_none_iff_forall_ne_some] at hnone ⊢
  intro id hat
  obtain ⟨hid, rest, hrest, heq⟩ := idAt?_eq_some_iff.mp hat
  rcases List.append_eq_append_iff.mp heq with ⟨x, hx, rfl⟩ | ⟨x, rfl, rfl⟩
  · -- the id would go on behind the place, where no digit stands
    cases x with
    | nil =>
      rw [List.append_nil] at hx
      exact hnone id (idAt?_eq_some_iff.mpr ⟨hid, [], stopsAt_nil _, by simp [hx]⟩)
    | cons e x =>
      rw [List.cons_append, stopsAt_cons] at ht
      obtain ⟨d, hd⟩ := Option.ne_none_iff_exists'.mp (mt List.getLast?_eq_none_iff.mp hne)
      obtain ⟨project, number, -, -, hproject, hnumber, hsplit⟩ := hid
      rw [hx] at hsplit
      rcases List.append_eq_append_iff.mp hsplit with ⟨y, rfl, hy⟩ | ⟨y, rfl, hy⟩
      · have hupper := hproject d (List.mem_append_left y (List.mem_of_mem_getLast? hd))
        simp [hs d hd] at hupper
      · cases y with
        | nil =>
          rw [List.append_nil] at hd hs
          have hupper := hproject d (List.mem_of_mem_getLast? hd)
          simp [hs d hd] at hupper
        | cons f y =>
          obtain ⟨-, rfl⟩ := List.cons.inj hy
          simp [hnumber e (by simp)] at ht
  · exact hnone id (idAt?_eq_some_iff.mpr ⟨hid, x, stopsAt_of_append hrest, rfl⟩)

/-- **A text can be cut between ids.**  If the first part does not end with a capital and the second
does not start with a digit, each part has its own ids. -/
theorem ids_append_of_apart {s t : Text} (hs : ∀ c ∈ s.getLast?, c.isUpper = false)
    (ht : StopsAt Char.isDigit t) : ids (s ++ t) = ids s ++ ids t := by
  -- an id of the front part is found before `t` as well, and none reaches over the seam
  induction s using ids_induction with
  | nil => rfl
  | found u rest hu hrest ih =>
    have hlast : ∀ c ∈ rest.getLast?, c.isUpper = false := by
      intro c hc
      refine hs c ?_
      rwa [List.getLast?_append_of_ne_nil u (by rintro rfl; simp at hc)]
    rw [List.append_assoc, ids_append hu (stopsAt_append hrest ht), ids_append hu hrest, ih hlast,
      List.cons_append]
  | skip d s hnone ih =>
    have hlast : ∀ c ∈ s.getLast?, c.isUpper = false := by
      intro c hc
      refine hs c ?_
      rw [Option.mem_def] at hc
      simp [List.getLast?_cons, hc]
    have hnone' : idAt? (d :: (s ++ t)) = none :=
      idAt?_append_of_apart hs ht (by simp) hnone
    rw [List.cons_append, ids_cons_of_none hnone', ids_cons_of_none hnone, ih hlast]

/-- An id that stands whole is read between the ids before it and those after it. -/
theorem ids_append_whole {u id v : Text} (hid : IsTicketId id)
    (hwhole : IsWholeBetween u.getLast? v) : ids (u ++ (id ++ v)) = ids u ++ id :: ids v := by
  rw [ids_append_of_apart hwhole.start (stopsAt_isDigit_id_append hid v),
    ids_append hid hwhole.stop]

/-- **The ids of a text** are the parts of the form of an id that stand whole. -/
theorem mem_ids_iff {s id : Text} :
    id ∈ ids s ↔
      IsTicketId id ∧ ∃ u v, s = u ++ (id ++ v) ∧ IsWholeBetween u.getLast? v := by
  constructor
  · intro hmem
    refine ⟨isTicketId_of_mem_ids hmem, ?_⟩
    induction s using ids_induction with
    | nil => simp at hmem
    | found t rest ht hrest ih =>
      rw [ids_append ht hrest, List.mem_cons] at hmem
      rcases hmem with rfl | hmem
      · exact ⟨[], rest, rfl, by simp, hrest⟩
      · obtain ⟨u, v, rfl, hwhole⟩ := ih hmem
        refine ⟨t ++ u, v, by simp, fun c hc => ?_, hwhole.stop⟩
        rw [List.getLast?_append, Option.mem_def, Option.or_eq_some_iff] at hc
        rcases hc with hc | ⟨-, hc⟩
        · exact hwhole.start c hc
        · exact not_isUpper_of_mem_getLast? ht hc
    | skip d s hnone ih =>
      rw [ids_cons_of_none hnone] at hmem
      obtain ⟨u, v, rfl, hwhole⟩ := ih hmem
      refine ⟨d :: u, v, rfl, fun c hc => ?_, hwhole.stop⟩
      cases u with
      | nil =>
        -- with a capital before it, a longer id would start here
        obtain rfl : d = c := by simpa using hc
        rw [Bool.eq_false_iff]
        intro hupper
        obtain ⟨project, number, -, hn, hproject, hnumber, rfl⟩ := isTicketId_of_mem_ids hmem
        have hlonger : IsTicketId (d :: (project ++ '-' :: number)) :=
          ⟨d :: project, number, by simp, hn, by simpa [hupper] using hproject, hnumber, rfl⟩
        have hat := idAt?_append hlonger hwhole.stop
        rw [List.nil_append, ← List.cons_append, hat] at hnone
        simp at hnone
      | cons e u => exact hwhole.start c (by simpa using hc)
  · rintro ⟨hid, u, v, rfl, hwhole⟩
    rw [ids_append_whole hid hwhole]
    simp

/-- An id with more capitals before it and more digits behind it is an id. -/
theorem isTicketId_extend {id run digits : Text} (hid : IsTicketId id)
    (hrun : ∀ c ∈ run, c.isUpper = true) (hdigits : ∀ c ∈ digits, c.isDigit = true) :
    IsTicketId (run ++ (id ++ digits)) := by
  obtain ⟨project, number, hp, hn, hproject, hnumber, rfl⟩ := hid
  exact ⟨run ++ project, number ++ digits, by simp [hp], by simp [hn],
    List.forall_mem_append.mpr ⟨hrun, hproject⟩, List.forall_mem_append.mpr ⟨hnumber, hdigits⟩,
    by simp⟩

/-- What has the form of an id is a part of one of the ids of the text. -/
theorem exists_mem_ids_of_isInfix {s id : Text} (hid : IsTicketId id) (h : id <:+: s) :
    ∃ longer ∈ ids s, id <:+: longer := by
  obtain ⟨u, v, rfl⟩ := h
  -- the capitals before it and the digits after it belong to the id as well
  have hlonger : IsTicketId (u.rtakeWhile Char.isUpper ++ (id ++ v.takeWhile Char.isDigit)) :=
    isTicketId_extend hid (fun c => List.mem_rtakeWhile_imp) fun c => List.mem_takeWhile_imp
  have hleft : dropEndWhile Char.isUpper u ++ u.rtakeWhile Char.isUpper = u :=
    List.rdropWhile_append_rtakeWhile
  have hright := List.takeWhile_append_dropWhile (p := Char.isDigit) (l := v)
  refine ⟨_, mem_ids_iff.mpr ⟨hlonger, dropEndWhile Char.isUpper u, v.dropWhile Char.isDigit, ?_,
    fun c => not_of_mem_getLast?_dropEndWhile, stopsAt_dropWhile _ _⟩, ⟨_, _, List.append_assoc ..⟩⟩
  conv_lhs => rw [← hleft, ← hright]
  simp only [List.append_assoc]

/-- **A text without ids** has no part of the form of an id. -/
theorem ids_eq_nil_iff {s : Text} : ids s = [] ↔ ∀ id, IsTicketId id → ¬id <:+: s := by
  constructor
  · intro hnil id hid hsub
    obtain ⟨longer, hmem, -⟩ := exists_mem_ids_of_isInfix hid hsub
    simp [hnil] at hmem
  · intro h
    refine List.eq_nil_iff_forall_not_mem.mpr fun id hmem => ?_
    obtain ⟨hid, u, v, rfl, -⟩ := mem_ids_iff.mp hmem
    exact h id hid ⟨u, v, by simp⟩

/-- No id starts in a text without capitals. -/
theorem ids_append_of_forall_not_upper {run : Text} (h : ∀ c ∈ run, c.isUpper = false) (s : Text) :
    ids (run ++ s) = ids s := by
  induction run with
  | nil => rfl
  | cons c run ih =>
    rw [List.forall_mem_cons] at h
    rw [List.cons_append, ids_cons_of_none (idAt?_of_not_upper h.1 _), ih h.2]

/-- A text without capitals has no ids. -/
theorem ids_of_forall_not_upper {s : Text} (h : ∀ c ∈ s, c.isUpper = false) : ids s = [] := by
  simpa using ids_append_of_forall_not_upper h []

/-- A text without a hyphen has no ids. -/
theorem ids_of_hyphen_notMem {s : Text} (h : '-' ∉ s) : ids s = [] := by
  refine ids_eq_nil_iff.mpr fun id hid hsub => ?_
  obtain ⟨project, number, -, -, -, -, rfl⟩ := hid
  exact h (hsub.mem (by simp))

/-! ### Breaks at the ends -/

theorem isTicketBreak_of_isBlank {c : Char} (h : isBlank c = true) : IsTicketBreak c := by
  rw [isBlank_iff] at h
  refine ⟨isUpper_eq_false_iff.mpr (by omega), ?_, ?_⟩
  · rw [Bool.eq_false_iff, ne_eq, isDigit_iff]
    omega
  · rintro rfl
    simp at h

theorem ids_break_cons {c : Char} (hc : IsTicketBreak c) (s : Text) : ids (c :: s) = ids s :=
  ids_cons_of_none (idAt?_of_not_upper hc.not_upper s)

theorem ids_breaks_append {run : Text} (h : ∀ c ∈ run, IsTicketBreak c) (s : Text) :
    ids (run ++ s) = ids s :=
  ids_append_of_forall_not_upper (fun c hc => (h c hc).not_upper) s

theorem ids_append_breaks {run : Text} (h : ∀ c ∈ run, IsTicketBreak c) (s : Text) :
    ids (s ++ run) = ids s := by
  cases run with
  | nil => rw [List.append_nil]
  | cons c run =>
    rw [List.forall_mem_cons] at h
    have hrun : ids run = [] := by simpa using ids_breaks_append h.2 []
    rw [ids_append_break h.1, hrun, List.append_nil]

theorem ids_dropEndWhile {p : Char → Bool} (hp : ∀ c, p c = true → IsTicketBreak c) (s : Text) :
    ids (dropEndWhile p s) = ids s := by
  obtain ⟨tail, htail, hs⟩ := exists_dropEndWhile_append p s
  conv_rhs => rw [hs]
  rw [ids_append_breaks fun c hc => hp c (htail c hc)]

theorem ids_dropWhile {p : Char → Bool} (hp : ∀ c, p c = true → IsTicketBreak c) (s : Text) :
    ids (s.dropWhile p) = ids s := by
  conv_rhs => rw [← List.takeWhile_append_dropWhile (p := p) (l := s)]
  rw [ids_breaks_append fun c hc => hp c (List.mem_takeWhile_imp hc)]

/-- Trimming takes no ids away. -/
theorem ids_trim (s : Text) : ids s.trim = ids s := by
  rw [trim, trimBy, ids_dropEndWhile fun c => isTicketBreak_of_isBlank,
    ids_dropWhile fun c => isTicketBreak_of_isBlank]

/-! ### Lines -/

theorem isTicketBreak_return : IsTicketBreak '\r' := ⟨by decide, by decide, by decide⟩

theorem ids_dropReturn (s : Text) : ids (dropReturn s) = ids s := by
  rcases dropReturn_append s with heq | heq
  · rw [← heq]
  · conv_rhs => rw [heq]
    rw [ids_append_break isTicketBreak_return, ids_nil, List.append_nil]

/-- **The ids of a text are those of its lines.** -/
theorem ids_eq_flatMap_lines (s : Text) : ids s = s.lines.flatMap ids := by
  induction s using pieces_induction '\n' with
  | last s hs =>
    rw [lines_of_notMem hs]
    cases s <;> simp
  | cut line s hline ih =>
    rw [ids_append_break isTicketBreak_newline, lines_append_newline hline, List.flatMap_cons,
      ids_dropReturn, ih]

end Ticket

end MergeMessage
