import MergeMessage.Proofs.TicketPlaces

/-!
# Ids at a seam

When two texts are put together, an id of the first may go on in the second, and an id may come about
that neither text has on its own: the capitals and the rest of it, or its capitals with the hyphen and
its digits, stand on the two sides of the seam.  At most one id more comes about in this way.

## Main definitions

* `IsSeamId` — the id that comes about at a seam.

## Main results

* `ids_uppers_append` — capitals before a text that does not go on as an id.
* `ids_append_id_append` — what is read where an id stands, and on its two sides.
* `ids_append_seam` — the ids of two texts that are put together.
-/

namespace MergeMessage.Ticket

open Text

/-! ### Runs of capitals and digits -/

/-- Capitals start no id if neither more capitals nor a hyphen and a digit follow them. -/
theorem ids_uppers_append {run t : Text} (hrun : ∀ c ∈ run, c.isUpper = true)
    (hstop : StopsAt Char.isUpper t) (hhyphen : ∀ t', t = '-' :: t' → StopsAt Char.isDigit t') :
    ids (run ++ t) = ids t := by
  induction run with
  | nil => rfl
  | cons c run ih =>
    have hnone : idAt? (c :: (run ++ t)) = none := by
      refine Option.eq_none_iff_forall_ne_some.mpr fun id hat => ?_
      obtain ⟨⟨project, number, -, hne, hproject, hnumber, rfl⟩, rest, -, heq⟩ :=
        idAt?_eq_some_iff.mp hat
      rw [List.append_assoc, List.cons_append, ← List.cons_append] at heq
      -- the capitals on both sides end at the same place
      have hdash : StopsAt Char.isUpper ('-' :: (number ++ rest)) := by
        rw [stopsAt_cons]; decide
      have hdrop := congrArg (List.dropWhile Char.isUpper) heq
      rw [dropWhile_append_stop hrun hstop, dropWhile_append_stop hproject hdash] at hdrop
      obtain ⟨d, number, rfl⟩ := List.exists_cons_of_ne_nil hne
      have hdigit := hhyphen _ hdrop
      rw [List.cons_append, stopsAt_cons, hnumber d (by simp)] at hdigit
      simp at hdigit
    rw [List.forall_mem_cons] at hrun
    rw [List.cons_append, ids_cons_of_none hnone, ih hrun.2]

theorem ids_of_forall_isUpper {run : Text} (hrun : ∀ c ∈ run, c.isUpper = true) : ids run = [] := by
  have h := ids_uppers_append hrun (stopsAt_nil _) fun t' ht => by simp at ht
  rwa [List.append_nil] at h

/-- Capitals at the front continue no id before them. -/
theorem stopsAt_isDigit_of_isUpper {run : Text} (hrun : ∀ c ∈ run, c.isUpper = true) :
    StopsAt Char.isDigit run := by
  intro c hc
  have hupper := isUpper_iff.mp (hrun c (List.mem_of_mem_head? hc))
  rw [Bool.eq_false_iff, ne_eq, isDigit_iff]
  omega

theorem not_isUpper_of_isDigit {c : Char} (h : c.isDigit = true) : c.isUpper = false := by
  rw [isDigit_iff] at h
  exact isUpper_eq_false_iff.mpr (by omega)

/-- The text in front of the capitals at its end has all its ids. -/
theorem ids_dropEndWhile_isUpper (s : Text) : ids (dropEndWhile Char.isUpper s) = ids s := by
  obtain ⟨run, hrun, hs⟩ := exists_dropEndWhile_append Char.isUpper s
  conv_rhs => rw [hs]
  rw [ids_append_of_apart (fun c => not_of_mem_getLast?_dropEndWhile)
    (stopsAt_isDigit_of_isUpper hrun), ids_of_forall_isUpper hrun, List.append_nil]

/-- The text behind the digits at its front has all its ids. -/
theorem ids_dropWhile_isDigit (s : Text) : ids (s.dropWhile Char.isDigit) = ids s := by
  conv_rhs => rw [← List.takeWhile_append_dropWhile (p := Char.isDigit) (l := s)]
  rw [ids_append_of_forall_not_upper fun c hc =>
    not_isUpper_of_isDigit (List.mem_takeWhile_imp (p := Char.isDigit) hc)]

/-! ### A place of an id -/

/-- The id that is read where `id` stands between two texts: the capitals before it and the digits
after it belong to it. -/
def readAt (s id t : Text) : Text :=
  s.rtakeWhile Char.isUpper ++ (id ++ t.takeWhile Char.isDigit)

/-- What is read where an id stands is the id itself if nothing continues it. -/
theorem readAt_eq_iff {s id t : Text} : readAt s id t = id ↔ IsWholeBetween s.getLast? t := by
  constructor
  · intro h
    have hlen := congrArg List.length h
    simp only [readAt, List.length_append] at hlen
    exact ⟨rtakeWhile_eq_nil_iff.mp (List.length_eq_zero_iff.mp (by omega)),
      takeWhile_eq_nil_iff.mp (List.length_eq_zero_iff.mp (by omega))⟩
  · rintro ⟨hs, ht⟩
    rw [readAt, rtakeWhile_eq_nil_iff.mpr hs, takeWhile_eq_nil_iff.mpr ht, List.nil_append,
      List.append_nil]

/-- **What is read where an id stands**, and on its two sides. -/
theorem ids_append_id_append {id : Text} (hid : IsTicketId id) (s t : Text) :
    ids (s ++ (id ++ t)) = ids s ++ readAt s id t :: ids t := by
  have hs : s ++ (id ++ t) =
      dropEndWhile Char.isUpper s ++ (readAt s id t ++ t.dropWhile Char.isDigit) := by
    have hleft : dropEndWhile Char.isUpper s ++ s.rtakeWhile Char.isUpper = s :=
      List.rdropWhile_append_rtakeWhile
    conv_lhs => rw [← hleft, ← List.takeWhile_append_dropWhile (p := Char.isDigit) (l := t)]
    simp only [readAt, List.append_assoc]
  rw [hs, ids_append_whole, ids_dropEndWhile_isUpper, ids_dropWhile_isDigit]
  · exact isTicketId_extend hid (fun c => List.mem_rtakeWhile_imp) fun c => List.mem_takeWhile_imp
  · exact ⟨fun c => not_of_mem_getLast?_dropEndWhile, stopsAt_dropWhile _ _⟩

/-! ### Ids at a seam -/

/-- The id comes about where the two texts are put together.  Either the first one ends with its
capitals and the second starts with its hyphen, or the first ends with the hyphen and the second
starts with the number. -/
inductive IsSeamId (s t : Text) : Text → Prop
  /-- The seam is between the capitals and the hyphen. -/
  | hyphen (number : Text) (h : s.rtakeWhile Char.isUpper ≠ []) :
      IsSeamId s t (s.rtakeWhile Char.isUpper ++ '-' :: number)
  /-- The seam is between the hyphen and the number. -/
  | number (project : Text) (hproject : ∀ c ∈ project, c.isUpper = true)
      (hs : s.getLast? = some '-') (h : t.takeWhile Char.isDigit ≠ []) :
      IsSeamId s t (project ++ '-' :: t.takeWhile Char.isDigit)

/-- Capitals that are put before a text make an id of a hyphen and a number at its front, and
otherwise at most a longer id of the first one. -/
theorem ids_uppers_append_cases {run : Text} (hrun : ∀ c ∈ run, c.isUpper = true) (hne : run ≠ [])
    (t : Text) : (ids (run ++ t)).length ≤ (ids t).length ∨
      ∃ number, ids (run ++ t) = (run ++ '-' :: number) :: ids t := by
  have ht := (List.takeWhile_append_dropWhile (p := Char.isUpper) (l := t)).symm
  have hmore : ∀ c ∈ t.takeWhile Char.isUpper, c.isUpper = true := fun c => List.mem_takeWhile_imp
  have hstop := stopsAt_dropWhile Char.isUpper t
  revert ht hmore hstop
  generalize t.takeWhile Char.isUpper = more
  generalize t.dropWhile Char.isUpper = rest
  rintro rfl hmore hstop
  have hall : ∀ c ∈ run ++ more, c.isUpper = true := List.forall_mem_append.mpr ⟨hrun, hmore⟩
  by_cases hnumber : ∃ t', rest = '-' :: t' ∧ t'.takeWhile Char.isDigit ≠ []
  · obtain ⟨t', rfl, hdigits⟩ := hnumber
    -- the number is read to its end, with all the capitals before it
    have hread : ∀ project, project ≠ [] → (∀ c ∈ project, c.isUpper = true) →
        ids (project ++ '-' :: t') = (project ++ '-' :: t'.takeWhile Char.isDigit) :: ids t' := by
      intro project hp hproject
      have hid : IsTicketId (project ++ '-' :: t'.takeWhile Char.isDigit) :=
        ⟨project, _, hp, hdigits, hproject, fun c => List.mem_takeWhile_imp, rfl⟩
      have happend := ids_append hid (stopsAt_dropWhile Char.isDigit t')
      rw [ids_dropWhile_isDigit] at happend
      rw [← happend, List.append_assoc, List.cons_append, List.takeWhile_append_dropWhile]
    rcases eq_or_ne more [] with rfl | hmne
    · refine Or.inr ⟨t'.takeWhile Char.isDigit, ?_⟩
      rw [List.nil_append, hread run hne hrun, ids_cons_of_none (idAt?_of_not_upper (by decide) t')]
    · refine Or.inl (le_of_eq ?_)
      rw [← List.append_assoc, hread _ (by simp [hne]) hall, hread more hmne hmore,
        List.length_cons, List.length_cons]
  · have hhyphen : ∀ t', rest = '-' :: t' → StopsAt Char.isDigit t' := by
      rintro t' rfl c hc
      by_contra hdigit
      cases t' with
      | nil => simp at hc
      | cons d t' =>
        obtain rfl : d = c := by simpa using hc
        exact hnumber ⟨d :: t', rfl, by simp [hdigit]⟩
    rw [← List.append_assoc, ids_uppers_append hall hstop hhyphen,
      ids_uppers_append hmore hstop hhyphen]
    exact Or.inl le_rfl

/-- Digits that complete an id follow its capitals and its hyphen. -/
theorem eq_concat_hyphen_of_idAt? {digits s id : Text} (hdigits : ∀ c ∈ digits, c.isDigit = true)
    (hnone : idAt? s = none) (hat : idAt? (s ++ digits) = some id) :
    ∃ project, (∀ c ∈ project, c.isUpper = true) ∧ s = project ++ ['-'] ∧ id = s ++ digits := by
  obtain ⟨hid, rest, hrest, heq⟩ := idAt?_eq_some_iff.mp hat
  have hdash : '-' ∉ digits := fun h => by simpa using hdigits '-' h
  rcases List.append_eq_append_iff.mp heq with ⟨x, rfl, rfl⟩ | ⟨x, rfl, rfl⟩
  · obtain rfl : rest = [] := by
      refine List.eq_nil_iff_forall_not_mem.mpr ?_
      cases rest with
      | nil => simp
      | cons d rest =>
        rw [stopsAt_cons, hdigits d (by simp)] at hrest
        simp at hrest
    rw [List.append_nil] at hdash ⊢
    obtain ⟨project, number, hp, -, hproject, hnumber, hsplit⟩ := hid
    refine ⟨project, hproject, ?_, rfl⟩
    rcases List.append_eq_append_iff.mp hsplit with ⟨a, -, rfl⟩ | ⟨b, rfl, hb⟩
    · simp at hdash
    cases b with
    | nil => simp [← (show _ = x from hb)] at hdash
    | cons d b =>
      obtain ⟨rfl, rfl⟩ := List.cons.inj hb
      -- with a digit of its own behind the hyphen, the text would start with an id before
      rcases eq_or_ne b [] with rfl | hne
      · rfl
      · have hshort : IsTicketId (project ++ '-' :: b) :=
          ⟨project, b, hp, hne, hproject, fun c hc => hnumber c (by simp [hc]), rfl⟩
        have hread := idAt?_append hshort (stopsAt_nil _)
        rw [List.append_nil, hnone] at hread
        simp at hread
  · rw [idAt?_append hid (stopsAt_of_append hrest)] at hnone
    simp at hnone

/-- Digits that are put behind a text make an id of capitals and a hyphen at its end, and otherwise at
most a longer id of the last one. -/
theorem ids_append_digits_cases {digits : Text} (hdigits : ∀ c ∈ digits, c.isDigit = true)
    (s : Text) : (ids (s ++ digits)).length ≤ (ids s).length ∨
      ∃ project, (∀ c ∈ project, c.isUpper = true) ∧ s.getLast? = some '-' ∧
        ids (s ++ digits) = ids s ++ [project ++ '-' :: digits] := by
  have hnil : ids digits = [] :=
    ids_of_forall_not_upper fun c hc => not_isUpper_of_isDigit (hdigits c hc)
  induction s using ids_induction with
  | nil => exact Or.inl (by simp [hnil])
  | found id rest hid hrest ih =>
    cases rest with
    | nil =>
      -- the digits make the last id longer and add none
      have hlonger : IsTicketId (id ++ digits) :=
        isTicketId_extend hid (List.forall_mem_nil _) hdigits
      refine Or.inl (le_of_eq ?_)
      rw [List.append_nil, ids_of_isTicketId hlonger, ids_of_isTicketId hid]
      rfl
    | cons c rest =>
      have hstop : StopsAt Char.isDigit (c :: rest ++ digits) := by simpa using hrest
      rw [List.append_assoc, ids_append hid hstop, ids_append hid hrest]
      refine ih.imp (by simp) ?_
      rintro ⟨project, hproject, hlast, heq⟩
      refine ⟨project, hproject, ?_, by rw [heq, List.cons_append]⟩
      rw [List.getLast?_append_of_ne_nil _ (by simp), hlast]
  | skip c s hnone ih =>
    cases hat : idAt? (c :: (s ++ digits)) with
    | none =>
      rw [List.cons_append, ids_cons_of_none hat, ids_cons_of_none hnone]
      refine ih.imp_right ?_
      rintro ⟨project, hproject, hlast, heq⟩
      exact ⟨project, hproject, by simp [List.getLast?_cons, hlast], heq⟩
    | some id =>
      -- the digits complete a project that the text ended with, hyphen included
      obtain ⟨project, hproject, hs, rfl⟩ := eq_concat_hyphen_of_idAt? hdigits hnone hat
      have hid := (idAt?_eq_some_iff.mp hat).1
      have hfront : ids (c :: s) = [] := by
        have hdash : StopsAt Char.isUpper ['-'] := by rw [stopsAt_cons]; decide
        rw [hs, ids_uppers_append hproject hdash (by rintro t' ⟨⟩; simp)]
        rfl
      refine Or.inr ⟨project, hproject, by simp [hs], ?_⟩
      rw [ids_of_isTicketId hid, hfront, hs, List.nil_append, List.append_assoc,
        List.singleton_append]

/-- **The ids of two texts that are put together.**  They are no more than those of the two texts,
unless an id comes about at the seam, which then stands between them. -/
theorem ids_append_seam (s t : Text) :
    (ids (s ++ t)).length ≤ (ids s).length + (ids t).length ∨
      ∃ id, IsSeamId s t id ∧ ids (s ++ t) = ids s ++ id :: ids t := by
  have hs : dropEndWhile Char.isUpper s ++ s.rtakeWhile Char.isUpper = s :=
    List.rdropWhile_append_rtakeWhile
  have ht := List.takeWhile_append_dropWhile (p := Char.isDigit) (l := t)
  have hrun : ∀ c ∈ s.rtakeWhile Char.isUpper, c.isUpper = true := fun c => List.mem_rtakeWhile_imp
  rcases eq_or_ne (s.rtakeWhile Char.isUpper) [] with hnil | hne
  · have hlast := rtakeWhile_eq_nil_iff.mp hnil
    rcases eq_or_ne (t.takeWhile Char.isDigit) [] with hnil' | hne'
    · -- nothing goes on at the seam
      rw [ids_append_of_apart hlast (takeWhile_eq_nil_iff.mp hnil'), List.length_append]
      exact Or.inl le_rfl
    · have hdigits : ∀ c ∈ t.takeWhile Char.isDigit, c.isDigit = true := fun c =>
        List.mem_takeWhile_imp
      have hcut : ids (s ++ t) = ids (s ++ t.takeWhile Char.isDigit) ++ ids t := by
        rw [← ids_dropWhile_isDigit t, ← ids_append_of_apart ?_ (stopsAt_dropWhile _ t),
          List.append_assoc, ht]
        intro c hc
        rw [List.getLast?_append_of_ne_nil _ hne'] at hc
        exact not_isUpper_of_isDigit (hdigits c (List.mem_of_mem_getLast? hc))
      rw [hcut, List.length_append]
      rcases ids_append_digits_cases hdigits s with hle | ⟨project, hproject, hdash, heq⟩
      · exact Or.inl (by omega)
      · exact Or.inr ⟨_, .number project hproject hdash hne', by rw [heq, ← List.append_cons]⟩
  · have hcut : ids (s ++ t) = ids s ++ ids (s.rtakeWhile Char.isUpper ++ t) := by
      rw [← ids_dropEndWhile_isUpper s, ← ids_append_of_apart
        (fun c => not_of_mem_getLast?_dropEndWhile), ← List.append_assoc, hs]
      intro c hc
      rw [List.head?_append_of_ne_nil _ hne] at hc
      exact stopsAt_isDigit_of_isUpper hrun c hc
    rw [hcut, List.length_append]
    rcases ids_uppers_append_cases hrun hne t with hle | ⟨number, heq⟩
    · exact Or.inl (by omega)
    · exact Or.inr ⟨_, .hyphen number hne, by rw [heq]⟩

end MergeMessage.Ticket
