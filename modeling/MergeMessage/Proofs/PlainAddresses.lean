import MergeMessage.Proofs.PlainHosts

/-!
# Addresses in plain words

In a path of names made of letters, digits, hyphens, low lines and dots nothing is encoded, and
no name is taken away.  An address of a host of small letters and such a path is read as it is
written, whatever query and fragment come behind.

## Main definitions

* `Url.IsPathName` — a segment that stands in a path as it is.

## Main results

* `Url.path_withPath_names` — a path of names is read as it is.
* `Url.exists_withoutBreaks_trimmed` — what does not count in an address is behind its path.
* `Url.parse?_host` — an address of a host and a path.
-/

namespace MergeMessage.Url

open Text

/-! ### Names in a path -/

/-- Is the character a letter or a digit of ASCII, a hyphen, a low line or a dot? -/
def isNameChar (c : Char) : Bool := c.isAlphanum || c == '-' || c == '_' || c == '.'

/-- A character that the readers of addresses do not look at. -/
structure IsPathChar (c : Char) : Prop where
  visible : 0x20 < c.toNat
  noSlash : SchemeKind.web.isSlash c = false
  noEnd : endsPath c = false
  plain : inPathSet c = false
  noPercent : c.toLower ≠ '%'
  dot : c.toLower = '.' → c = '.'

instance : DecidablePred IsPathChar := fun c =>
  decidable_of_iff (0x20 < c.toNat ∧ SchemeKind.web.isSlash c = false ∧ endsPath c = false ∧
      inPathSet c = false ∧ c.toLower ≠ '%' ∧ (c.toLower = '.' → c = '.'))
    ⟨fun ⟨visible, noSlash, noEnd, plain, noPercent, dot⟩ =>
        ⟨visible, noSlash, noEnd, plain, noPercent, dot⟩,
      fun ⟨visible, noSlash, noEnd, plain, noPercent, dot⟩ =>
        ⟨visible, noSlash, noEnd, plain, noPercent, dot⟩⟩

theorem IsPathChar.of_isNameChar {c : Char} (h : isNameChar c = true) : IsPathChar c := by
  have hascii : c.toNat < 0x80 := by
    simp only [isNameChar, Char.isAlphanum, Char.isAlpha, Bool.or_eq_true, beq_iff_eq, isUpper_iff,
      isLower_iff, isDigit_iff] at h
    rcases h with ((h | rfl) | rfl) | rfl
    · omega
    all_goals decide
  revert h
  refine forall_of_toNat_lt ?_ c hascii
  decide

/-- A segment that stands in a path as it is. -/
structure IsPathName (segment : Text) : Prop where
  chars : ∀ c ∈ segment, isNameChar c = true
  ne_dot : segment ≠ ['.']
  ne_dots : segment ≠ ['.', '.']

instance : DecidablePred IsPathName := fun segment =>
  decidable_of_iff (segment.all isNameChar = true ∧ segment ≠ ['.'] ∧ segment ≠ ['.', '.'])
    ⟨fun ⟨chars, ne_dot, ne_dots⟩ => ⟨List.all_eq_true.mp chars, ne_dot, ne_dots⟩,
      fun ⟨chars, ne_dot, ne_dots⟩ => ⟨List.all_eq_true.mpr chars, ne_dot, ne_dots⟩⟩

namespace IsPathName

variable {segment : Text}

theorem isPathChar (h : IsPathName segment) : ∀ c ∈ segment, IsPathChar c :=
  fun c hc => .of_isNameChar (h.chars c hc)

/-- Small letters make no dots. -/
theorem map_toLower_eq_replicate (h : IsPathName segment) {n : Nat}
    (heq : segment.map Char.toLower = List.replicate n '.') : segment = List.replicate n '.' := by
  have hlength : segment.length = n := by simpa using congrArg List.length heq
  refine List.eq_replicate_iff.mpr ⟨hlength, fun c hc => (h.isPathChar c hc).dot ?_⟩
  exact (List.eq_replicate_iff.mp heq).2 _ (List.mem_map_of_mem hc)

/-- Dots in their encoded form are no names. -/
theorem map_toLower_ne (h : IsPathName segment) {t : Text} (ht : '%' ∈ t) :
    segment.map Char.toLower ≠ t := by
  rintro rfl
  obtain ⟨c, hc, hlower⟩ := List.mem_map.mp ht
  exact (h.isPathChar c hc).noPercent hlower

theorem isPlainSegment (h : IsPathName segment) : IsPlainSegment segment where
  encoded := by
    rw [withoutBreaks_of_visible fun c hc => (h.isPathChar c hc).visible,
      percentEncode_of_forall fun c hc => (h.isPathChar c hc).plain]
  double := by
    rw [isDoubleDot, ← Bool.not_eq_true, List.contains_iff_mem]
    intro hmem
    simp only [List.map_cons, List.map_nil, List.mem_cons, List.not_mem_nil, or_false] at hmem
    rcases hmem with heq | heq | heq | heq
    · exact h.ne_dots (h.map_toLower_eq_replicate (n := 2) heq)
    all_goals exact h.map_toLower_ne (by decide) heq
  single := by
    have hdot : segment.map Char.toLower ≠ ['.'] := fun heq =>
      h.ne_dot (h.map_toLower_eq_replicate (n := 1) heq)
    have hencoded := h.map_toLower_ne (t := "%2e".toList) (by decide)
    rw [isSingleDot, beq_false_of_ne hdot, beq_false_of_ne hencoded]
    rfl

end IsPathName

/-! ### Paths of names -/

theorem rawSegments_of_forall {kind : SchemeKind} {s : Text} (h : ∀ c ∈ s, kind.isSlash c = false) :
    rawSegments kind s = [s] := by
  induction s with
  | nil => rfl
  | cons c s ih =>
    rw [List.forall_mem_cons] at h
    rw [rawSegments, h.1, ih h.2]
    rfl

theorem isPathChar_of_mem_join {names : List Text} (hnames : ∀ name ∈ names, IsPathName name)
    {c : Char} (hc : c ∈ join ['/'] names) : c = '/' ∨ IsPathChar c := by
  rcases mem_join hc with hc | ⟨name, hname, hc⟩
  · exact Or.inl (List.mem_singleton.mp hc)
  · exact Or.inr ((hnames name hname).isPathChar c hc)

section

variable {names : List Text} (hne : names ≠ []) (hnames : ∀ name ∈ names, IsPathName name)

include hne hnames

theorem rawSegments_join : rawSegments .web (join ['/'] names) = names := by
  induction names with
  | nil => exact absurd rfl hne
  | cons name names ih =>
    rw [List.forall_mem_cons] at hnames
    have hname := rawSegments_of_forall fun c hc => (hnames.1.isPathChar c hc).noSlash
    cases names with
    | nil => simpa [join] using hname
    | cons next names =>
      rw [join_cons (List.cons_ne_nil next names), List.singleton_append, rawSegments_append, hname,
        ih (List.cons_ne_nil next names) hnames.2]
      rfl

theorem readSegments_names (first : Bool) (path : Text) :
    readSegments .web first path names = ⟨path ++ join ['/'] names, false⟩ := by
  induction names generalizing first path with
  | nil => exact absurd rfl hne
  | cons name names ih =>
    rw [List.forall_mem_cons] at hnames
    rw [readSegments_plain hnames.1.isPlainSegment]
    cases names with
    | nil => simp [readSegments, join]
    | cons next names =>
      rw [ih (List.cons_ne_nil next names) hnames.2, join_cons (List.cons_ne_nil next names)]
      simp

/-- A path of names is read as it is, up to a query or a fragment. -/
theorem path_withPath_names {u : Url} (hkind : SchemeKind.ofScheme u.scheme = .web) {suffix : Text}
    (hsuffix : StopsAt (!endsPath ·) suffix) :
    (u.withPath ['/'] (join ['/'] names ++ suffix)).path = '/' :: join ['/'] names := by
  have hpath : ∀ c ∈ join ['/'] names, (!endsPath c) = true := by
    intro c hc
    rcases isPathChar_of_mem_join hnames hc with rfl | hc
    · rfl
    · rw [hc.noEnd]
      rfl
  rw [path_withPath hkind, takeWhile_append_stop hpath hsuffix, rawSegments_join hne hnames,
    readSegments_names hne hnames]
  rfl

end

/-! ### Whole addresses -/

/-- A query or a fragment is still one when the characters that do not count are left out. -/
theorem stopsAt_withoutBreaks_dropEndWhile {s : Text} (h : StopsAt (!endsPath ·) s) :
    StopsAt (!endsPath ·) (withoutBreaks (dropEndWhile (·.toNat ≤ 0x20) s)) := by
  cases s with
  | nil => exact stopsAt_nil _
  | cons c s =>
    have hc : endsPath c = true := by simpa using h
    have hmark : c = '?' ∨ c = '#' := by simpa [endsPath] using hc
    have hkept : decide (c.toNat ≤ 0x20) = false ∧ isBreak c = false := by
      rcases hmark with rfl | rfl <;> decide
    have hdrop := dropEndWhile_append_stop (p := (·.toNat ≤ 0x20)) hkept.1 [] s
    rw [List.nil_append, List.nil_append] at hdrop
    rw [hdrop, withoutBreaks, List.filter_cons_of_pos (by simp [hkept.2]), stopsAt_cons, hc]
    rfl

/-- Behind a visible front, what does not count in an address is left out of the query and the
fragment only. -/
theorem exists_withoutBreaks_trimmed {front suffix : Text} (hne : front ≠ [])
    (hfront : ∀ c ∈ front, 0x20 < c.toNat) (hsuffix : StopsAt (!endsPath ·) suffix) :
    ∃ rest, StopsAt (!endsPath ·) rest ∧
      withoutBreaks (trimmed (front ++ suffix)) = front ++ rest := by
  have hvisible : ∀ c ∈ front, decide (c.toNat ≤ 0x20) = false := fun c hc => by
    simpa using hfront c hc
  have htrimmed : trimmed (front ++ suffix) = front ++ dropEndWhile (·.toNat ≤ 0x20) suffix := by
    have hstart : StopsAt (fun c => decide (c.toNat ≤ 0x20)) (front ++ suffix) := by
      obtain ⟨c, s, rfl⟩ := List.exists_cons_of_ne_nil hne
      simpa using hvisible c List.mem_cons_self
    obtain ⟨s, c, rfl⟩ := List.eq_nil_or_concat front |>.resolve_left hne
    rw [List.concat_eq_append] at hvisible hstart ⊢
    rw [trimmed, trimBy, dropWhile_of_stopsAt hstart, List.append_assoc, List.singleton_append,
      dropEndWhile_append_stop (hvisible c (by simp)), List.append_assoc, List.singleton_append]
  refine ⟨_, stopsAt_withoutBreaks_dropEndWhile hsuffix, ?_⟩
  rw [htrimmed, withoutBreaks_append, withoutBreaks_of_visible hfront]

theorem splitHost_of_notMem {s : Text} (h : ':' ∉ s) (inside : Bool) :
    splitHost inside s = (s, []) := by
  induction s generalizing inside with
  | nil => rfl
  | cons c s ih =>
    rw [List.mem_cons, not_or] at h
    simp [splitHost, Ne.symm h.1, ih h.2]

theorem splitLastAt?_of_notMem {s : Text} (h : '@' ∉ s) : splitLastAt? s = none := by
  have hnil : s.reverse.dropWhile (fun c => decide (c ≠ '@')) = [] :=
    List.dropWhile_eq_nil_iff.mpr (forall_ne_of_notMem (by simpa using h))
  rw [splitLastAt?, hnil]

/-- An address of a host and a path, without user and port. -/
theorem afterSlashes?_host {scheme : Text} (hkind : SchemeKind.ofScheme scheme = .web)
    (host : PlainHost) (s : Text) :
    afterSlashes? scheme (host.text ++ '/' :: s) =
      some ({ ofScheme scheme with host := some host.text }.withPath ['/'] s) := by
  have hrun : ∀ c ∈ host.text, (!endsAuthority .web c) = true := fun c hc => by
    rw [(host.isHostChar c hc).noEnd]
    rfl
  have hstop : StopsAt (fun c => !endsAuthority .web c) ('/' :: s) := by
    rw [stopsAt_cons]
    decide
  have hparts : authorityParts host.text = (none, host.text) := by
    rw [authorityParts, splitLastAt?_of_notMem (host.notMem (d := '@') (by decide))]
  have hempty : host.text.isEmpty = false := List.isEmpty_eq_false_iff.mpr host.text_ne_nil
  rw [afterSlashes?_eq hkind, takeWhile_append_stop hrun hstop, dropWhile_append_stop hrun hstop,
    hparts, webAddress?]
  simp only [splitHost_of_notMem (host.notMem (d := ':') (by decide)), hempty, host.host?_text,
    List.nil_append]
  rw [portAfter?_of_ne (by simp)]
  rfl

theorem withScheme?_host {scheme : Text} (hkind : SchemeKind.ofScheme scheme = .web)
    (host : PlainHost) (s raw : Text) :
    withScheme? none scheme (['/', '/'] ++ (host.text ++ '/' :: s)) raw =
      some ({ ofScheme scheme with host := some host.text }.withPath ['/'] s) := by
  have hslashes : ∀ c ∈ ['/', '/'], SchemeKind.web.isSlash c = true := by simp [SchemeKind.isSlash]
  have hstop : StopsAt SchemeKind.web.isSlash (host.text ++ '/' :: s) := by
    obtain ⟨c, t, htext⟩ := List.exists_cons_of_ne_nil host.text_ne_nil
    have hc := (host.isHostChar c (by simp [htext])).noSlash
    rw [htext, List.cons_append, stopsAt_cons]
    exact hc
  unfold withScheme?
  rw [hkind]
  dsimp only
  rw [takeWhile_append_stop hslashes hstop, List.drop_left, afterSlashes?_host hkind]

/-- **Addresses in plain words.**  What is read of an address of the web with a host of small
letters and a path, once all that does not count is left out. -/
theorem parse?_host {scheme x s : Text} (hscheme : scheme? (scheme ++ [':']) = some (scheme, []))
    (hkind : SchemeKind.ofScheme scheme = .web) (host : PlainHost)
    (hx : withoutBreaks (trimmed x) = scheme ++ "://".toList ++ host.text ++ '/' :: s) :
    parse? x = some ({ ofScheme scheme with host := some host.text }.withPath ['/'] s) := by
  have hsplit : scheme ++ "://".toList ++ host.text ++ '/' :: s =
      scheme ++ [':'] ++ (['/', '/'] ++ (host.text ++ '/' :: s)) := by
    simp
  rw [parse?, read?]
  dsimp only
  rw [hx, hsplit, scheme?_append hscheme]
  exact withScheme?_host hkind host s _

/-- A path has no scheme. -/
theorem scheme?_slash (s : Text) : scheme? ('/' :: s) = none := by
  have hslash : isSchemeChar '/' = false := by decide
  simp [scheme?, hslash]

/-- A path is no address. -/
theorem parse?_path {x s : Text} (hx : withoutBreaks (trimmed x) = '/' :: s) : parse? x = none := by
  rw [parse?, read?, hx, scheme?_slash]
  rfl

/-- A path is taken against an address without what follows its host. -/
theorem join?_path {base : Url} (hkind : SchemeKind.ofScheme base.scheme = .web) {x s : Text}
    {c : Char} (hc : SchemeKind.web.isSlash c = false)
    (hx : withoutBreaks (trimmed x) = '/' :: c :: s) :
    join? base x = some ({ base with fragment := none }.withPath ['/'] (c :: s)) := by
  have hslash : SchemeKind.web.isSlash '/' = true := by simp [SchemeKind.isSlash]
  rw [join?, read?, hx, scheme?_slash]
  simp [relative?, hkind, hc, hslash]

end MergeMessage.Url
