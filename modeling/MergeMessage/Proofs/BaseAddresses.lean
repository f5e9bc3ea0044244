import MergeMessage.Http.Basic
import MergeMessage.Proofs.Texts

/-!
# Services behind an address

A daemon is found at a base address, and each of its services behind it.  If the base is an absolute
address of the web, the text that is made of it and the name of a service is one, too: it has the
same scheme, user, host and port, and what it is longer by is at most what was added.  This holds
whether the base ends after its host, in a path, in a query or in a fragment.

## Main definitions

* `Url.bare`, `Url.tailLength` — an address up to its path, and the length of the rest.
* `Url.IsInert` — the characters that stand for themselves wherever they are put.
* `Url.IsService` — the name of a service.
* `Http.HasRoom` — an address behind which there is room.

## Main results

* `Url.parse?_append` — an address and the name of a service behind it make an address.
* `Http.isReachable_append` — a request can be sent to it.
-/

namespace MergeMessage.Url

open Text

/-! ### Before the path -/

/-- Nothing is trimmed off visible characters behind a visible one. -/
theorem trimmed_append {c : Char} (hc : 0x20 < c.toNat) {t : Text} (ht : ∀ d ∈ t, 0x20 < d.toNat)
    (s : Text) : trimmed (s ++ [c] ++ t) = trimmed (s ++ [c]) ++ t := by
  have hstop : decide (c.toNat ≤ 0x20) = false := by simpa using hc
  have htail : dropEndWhile (·.toNat ≤ 0x20) t = t :=
    dropEndWhile_eq_self fun d hd => by simpa using ht d hd
  rw [trimmed, trimmed, trimBy, trimBy, List.append_assoc, List.singleton_append,
    dropWhile_append_cons (p := (·.toNat ≤ 0x20)) hstop,
    dropWhile_append_cons (p := (·.toNat ≤ 0x20)) hstop,
    dropEndWhile_append_stop (p := (·.toNat ≤ 0x20)) hstop,
    dropEndWhile_append_stop (p := (·.toNat ≤ 0x20)) hstop, htail]
  simp

theorem scheme?_append {s scheme rest : Text} (h : scheme? s = some (scheme, rest)) (t : Text) :
    scheme? (s ++ t) = some (scheme, rest ++ t) := by
  unfold scheme? at h
  split at h
  · next c name tail hname htail =>
    have hs : s = c :: name ++ ':' :: tail := by
      rw [← hname, ← htail, List.takeWhile_append_dropWhile]
    have hall : ∀ d ∈ c :: name, isSchemeChar d = true := by
      rw [← hname]
      exact fun d hd => List.mem_takeWhile_imp hd
    -- the colon ends the scheme, so more text behind it makes no difference
    have hcolon : isSchemeChar ':' = false := by decide
    split at h
    · next hc =>
      obtain ⟨rfl, rfl⟩ := Prod.mk.inj (Option.some.inj h)
      unfold scheme?
      rw [hs, List.append_assoc, takeWhile_append_stop hall (by simpa using hcolon),
        dropWhile_append_stop hall (by simpa using hcolon)]
      simp [hc]
    · cases h
  · cases h

theorem port?_append {scheme s rest : Text} {port : Option Nat}
    (h : port? scheme s = some (port, rest)) (t : Text) :
    port? scheme (s ++ '/' :: t) = some (port, rest ++ '/' :: t) := by
  have hslash : Char.isDigit '/' = false := by decide
  unfold port? at h ⊢
  rw [takeWhile_append_cons hslash, dropWhile_append_cons hslash]
  dsimp only at h ⊢
  split at h
  · cases h
  next hstop =>
  -- what may follow a port is told by one character, and a slash may
  have hstop' : ((s.dropWhile Char.isDigit ++ '/' :: t).head?.any
      fun c => !(c == '/' || c == '\\' || endsPath c)) = false := by
    cases hrest : s.dropWhile Char.isDigit with
    | nil => simp
    | cons c tail =>
      rw [hrest] at hstop
      simpa using hstop
  rw [hstop']
  split at h
  · next hdigits =>
    obtain ⟨rfl, rfl⟩ := Prod.mk.inj (Option.some.inj h)
    simp [hdigits]
  · next hdigits =>
    split at h
    · next n hn =>
      split at h
      · cases h
      next hsmall =>
      obtain ⟨rfl, rfl⟩ := Prod.mk.inj (Option.some.inj h)
      simp [hdigits, hsmall]
    · cases h

/-- The user in front of a host, if there is one, and the host with its port. -/
def authorityParts (authority : Text) : Option Text × Text :=
  match splitLastAt? authority with
  | some (user, rest) => (some user, rest)
  | none => (none, authority)

/-- The port that may follow a host, and what comes then. -/
def portAfter? (scheme : Text) : Text → Option (Option Nat × Text)
  | ':' :: s => port? scheme s
  | s => some (none, s)

theorem portAfter?_of_ne {scheme s : Text} (h : ∀ t, s ≠ ':' :: t) :
    portAfter? scheme s = some (none, s) := by
  unfold portAfter?
  split
  · exact absurd rfl (h _)
  · rfl

/-- The address of the web whose authority has these parts. -/
def webAddress? (scheme : Text) (parts : Option Text × Text) (tail : Text) : Option Url := do
  let (username, password) := readUser (parts.1.getD [])
  let (hostText, afterHost) := splitHost false parts.2
  if hostText.isEmpty then none
  else
    let host ← host? hostText
    let (port, rest) ← portAfter? scheme (afterHost ++ tail)
    return { ofScheme scheme with
      username := username, password := password, host := some host, port := port }.withWebPath rest

theorem afterSlashes?_eq {scheme : Text} (hkind : SchemeKind.ofScheme scheme = .web) (s : Text) :
    afterSlashes? scheme s =
      webAddress? scheme (authorityParts (s.takeWhile fun c => !endsAuthority .web c))
        (s.dropWhile fun c => !endsAuthority .web c) := by
  unfold afterSlashes? authorityParts
  simp only [hkind]
  generalize s.takeWhile (fun c => !endsAuthority .web c) = authority
  generalize s.dropWhile (fun c => !endsAuthority .web c) = tail
  -- without a host there is nothing behind the user
  have hempty {hostAndPort : Text} (h : (splitHost false hostAndPort).1 ≠ []) :
      hostAndPort.isEmpty = false := by
    cases hostAndPort with
    | nil => exact absurd rfl h
    | cons c s => rfl
  rcases splitLastAt? authority with _ | ⟨user, hostAndPort⟩
  case' none => generalize authority = hostAndPort
  all_goals
    dsimp only [webAddress?]
    by_cases hhost : (splitHost false hostAndPort).1 = []
    · simp [hhost, SchemeKind.isSpecial]
    · have hspecial : SchemeKind.web.isSpecial = true := rfl
      simp only [hempty hhost, List.isEmpty_eq_false_iff.mpr hhost, hspecial, Bool.and_false,
        Bool.false_and]
      cases host? (splitHost false hostAndPort).1 with
      | none => rfl
      | some host =>
        simp only [Option.bind_eq_bind, Option.bind_some, Bool.false_eq_true, if_false, if_true]
        split
        · next s heq => rw [heq]; rfl
        · next hcolon => rw [portAfter?_of_ne hcolon]; rfl

theorem portAfter?_append {scheme s rest : Text} {port : Option Nat}
    (h : portAfter? scheme s = some (port, rest)) (t : Text) :
    portAfter? scheme (s ++ '/' :: t) = some (port, rest ++ '/' :: t) := by
  unfold portAfter? at h
  split at h
  · exact port?_append h t
  · next hcolon =>
    obtain ⟨rfl, rfl⟩ := Prod.mk.inj (Option.some.inj h)
    refine portAfter?_of_ne fun t' heq => ?_
    cases s with
    | nil => simp at heq
    | cons c s => exact hcolon s (by rw [(List.cons.inj heq).1])

/-- What follows the path of an address of the web belongs to it if it starts with a slash. -/
theorem webAddress?_append {scheme tail : Text} {parts : Option Text × Text} {u : Url}
    (h : webAddress? scheme parts tail = some u) (t : Text) :
    ∃ (front : Url) (rest : Text), front.scheme = scheme ∧ u = front.withWebPath rest ∧
      webAddress? scheme parts (tail ++ '/' :: t) =
        some (front.withWebPath (rest ++ '/' :: t)) := by
  unfold webAddress? at h ⊢
  dsimp only at h ⊢
  split at h
  · cases h
  next hhost =>
  obtain ⟨host, hhostText, h⟩ := Option.bind_eq_some_iff.mp h
  obtain ⟨⟨port, rest⟩, hport, h⟩ := Option.bind_eq_some_iff.mp h
  obtain rfl := Option.some.inj h
  refine ⟨_, rest, ?_, rfl, ?_⟩
  · rfl
  · rw [if_neg hhost, hhostText, ← List.append_assoc, portAfter?_append hport]
    rfl

/-! ### The path and what follows it -/

/-- An address without its path and what follows it. -/
def bare (u : Url) : Url := { u with path := [], query := none, fragment := none }

/-- The number of characters of the path and what follows it. -/
def tailLength (u : Url) : Nat :=
  u.path.length + ((u.query.map ('?' :: ·)).getD []).length +
    ((u.fragment.map ('#' :: ·)).getD []).length

theorem rawSegments_ne_nil (kind : SchemeKind) (s : Text) : rawSegments kind s ≠ [] := by
  cases s with
  | nil => simp [rawSegments]
  | cons c s =>
    unfold rawSegments
    split
    · simp
    · split <;> simp

theorem rawSegments_append (kind : SchemeKind) (s t : Text) :
    rawSegments kind (s ++ '/' :: t) = rawSegments kind s ++ rawSegments kind t := by
  induction s with
  | nil => simp [rawSegments, SchemeKind.isSlash]
  | cons c s ih =>
    rw [List.cons_append, rawSegments, rawSegments, ih]
    split
    · rfl
    · cases hs : rawSegments kind s with
      | nil => exact absurd hs (rawSegments_ne_nil kind s)
      | cons segment segments => rfl

/-- Only the letter of a drive takes the place of a host. -/
theorem dropsHost_readSegments (first : Bool) (path : Text) (segments : List Text) :
    (readSegments .web first path segments).dropsHost = false := by
  induction segments generalizing first path with
  | nil => rfl
  | cons segment rest ih =>
    have hweb : (SchemeKind.web == SchemeKind.file) = false := rfl
    rw [readSegments]
    simp only [hweb, Bool.false_and, Bool.false_eq_true, if_false]
    split
    · exact ih _ _
    · split <;> exact ih _ _

/-- A segment that stands in a path as it is. -/
structure IsPlainSegment (segment : Text) : Prop where
  encoded : percentEncode inPathSet (withoutBreaks segment) = segment
  double : isDoubleDot segment = false
  single : isSingleDot segment = false

instance : DecidablePred IsPlainSegment := fun segment =>
  decidable_of_iff (percentEncode inPathSet (withoutBreaks segment) = segment ∧
      isDoubleDot segment = false ∧ isSingleDot segment = false)
    ⟨fun ⟨encoded, double, single⟩ => ⟨encoded, double, single⟩,
      fun ⟨encoded, double, single⟩ => ⟨encoded, double, single⟩⟩

theorem readSegments_plain {segment : Text} (h : IsPlainSegment segment) (first : Bool)
    (path : Text) (rest : List Text) :
    readSegments .web first path (segment :: rest) =
      readSegments .web false (path ++ segment ++ if rest.isEmpty then [] else ['/']) rest := by
  have hweb : (SchemeKind.web == SchemeKind.file) = false := rfl
  rw [readSegments]
  simp only [hweb, Bool.false_and, Bool.false_eq_true, if_false, h.encoded, h.double, h.single]

theorem length_endInSlash (path : Text) : (endInSlash path).length ≤ path.length + 1 := by
  unfold endInSlash
  split <;> simp

theorem length_goUp (kind : SchemeKind) (path : Text) :
    (goUp kind path true).length ≤ (goUp kind path false).length + 1 := by
  unfold goUp
  simpa using length_endInSlash _

/-- More segments come behind a slash. -/
theorem readSegments_append {segments more : List Text} (hne : segments ≠ []) (hmore : more ≠ [])
    (first : Bool) (path : Text) :
    ∃ front, readSegments .web first path (segments ++ more) = readSegments .web false front more ∧
      front.length ≤ (readSegments .web first path segments).path.length + 1 := by
  have hweb : (SchemeKind.web == SchemeKind.file) = false := rfl
  induction segments generalizing first path with
  | nil => exact absurd rfl hne
  | cons segment rest ih =>
    rw [List.cons_append, readSegments, readSegments]
    simp only [hweb, Bool.false_and, Bool.false_eq_true, if_false]
    cases rest with
    | nil =>
      -- what was the last segment gets a slash behind it
      rw [List.nil_append, List.isEmpty_eq_false_iff.mpr hmore]
      split
      · exact ⟨_, rfl, length_goUp .web path⟩
      · split
        · exact ⟨_, rfl, Nat.le_succ _⟩
        · exact ⟨_, rfl, by simp [readSegments, Nat.add_assoc]⟩
    | cons next rest =>
      rw [List.cons_append, List.isEmpty_cons, List.isEmpty_cons, ← List.cons_append]
      split
      · exact ih (by simp) _ _
      · split
        · exact ih (by simp) _ _
        · exact ih (by simp) _ _

/-- A character that stands in the path, in the query and in the fragment as it is. -/
structure IsInert (c : Char) : Prop where
  visible : 0x20 < c.toNat
  noBreak : isBreak c = false
  noEnd : endsPath c = false
  query : inSpecialQuerySet c = false
  fragment : inFragmentSet c = false

instance : DecidablePred IsInert := fun c =>
  decidable_of_iff (0x20 < c.toNat ∧ isBreak c = false ∧ endsPath c = false ∧
      inSpecialQuerySet c = false ∧ inFragmentSet c = false)
    ⟨fun ⟨visible, noBreak, noEnd, query, fragment⟩ => ⟨visible, noBreak, noEnd, query, fragment⟩,
      fun ⟨visible, noBreak, noEnd, query, fragment⟩ => ⟨visible, noBreak, noEnd, query, fragment⟩⟩

theorem percentEncode_of_forall {encoded : Char → Bool} {s : Text}
    (h : ∀ c ∈ s, encoded c = false) : percentEncode encoded s = s := by
  induction s with
  | nil => rfl
  | cons c s ih =>
    rw [List.forall_mem_cons] at h
    rw [percentEncode, List.flatMap_cons, ← percentEncode, ih h.2, h.1]
    rfl

theorem percentEncode_append (encoded : Char → Bool) (s t : Text) :
    percentEncode encoded (s ++ t) = percentEncode encoded s ++ percentEncode encoded t :=
  List.flatMap_append

theorem withoutBreaks_append (s t : Text) :
    withoutBreaks (s ++ t) = withoutBreaks s ++ withoutBreaks t :=
  List.filter_append s t

/-- The characters that do not count in an address are not visible. -/
theorem withoutBreaks_of_visible {s : Text} (h : ∀ c ∈ s, 0x20 < c.toNat) :
    withoutBreaks s = s := by
  refine List.filter_eq_self.mpr fun c hc => ?_
  have hvisible := h c hc
  by_contra hbreak
  simp only [isBreak, Bool.not_eq_true', Bool.not_eq_false, Bool.or_eq_true, beq_iff_eq] at hbreak
  rcases hbreak with (rfl | rfl) | rfl <;> exact absurd hvisible (by decide)

theorem withoutBreaks_inert {s : Text} (h : ∀ c ∈ s, IsInert c) : withoutBreaks s = s :=
  withoutBreaks_of_visible fun c hc => (h c hc).visible

@[simp] theorem bare_withQuery (u : Url) (s : Text) : (u.withQuery s).bare = u.bare := rfl

@[simp] theorem path_withQuery (u : Url) (s : Text) : (u.withQuery s).path = u.path := rfl

theorem withQuery_hash (u : Url) (s : Text) :
    u.withQuery ('#' :: s) =
      { u with query := none, fragment := some (percentEncode inFragmentSet s) } := rfl

/-- Behind a query or a fragment, nothing but that gets longer. -/
theorem tailLength_withQuery_append {u : Url} (hkind : SchemeKind.ofScheme u.scheme = .web)
    {c : Char} (hc : endsPath c = true) (s : Text) {t : Text} (ht : ∀ c ∈ t, IsInert c) :
    tailLength (u.withQuery (c :: s ++ t)) = tailLength (u.withQuery (c :: s)) + t.length := by
  have hfragment := percentEncode_of_forall fun c hc => (ht c hc).fragment
  have hquery := percentEncode_of_forall fun c hc => (ht c hc).query
  have hspecial : SchemeKind.web.isSpecial = true := rfl
  rw [endsPath, Bool.or_eq_true, beq_iff_eq, beq_iff_eq] at hc
  rcases hc with rfl | rfl
  · by_cases hmem : '#' ∈ s
    · -- what is added belongs to the fragment
      obtain ⟨query, fragment, rfl, hquery⟩ := List.eq_append_cons_of_mem hmem
      have hall := forall_ne_of_notMem hquery
      have hstop (rest : Text) : StopsAt (fun c => decide (c ≠ '#')) ('#' :: rest) := by simp
      simp only [withQuery, tailLength, List.cons_append, List.append_assoc,
        takeWhile_append_stop hall (hstop _), dropWhile_append_stop hall (hstop _),
        percentEncode_append, hfragment, Option.map_some, Option.getD_some, List.length_cons,
        List.length_append]
      omega
    · -- what is added belongs to the query
      have hall := forall_ne_of_notMem hmem
      have hall' := forall_ne_of_notMem (c := '#') (s := s ++ t) (by
        rw [List.mem_append, not_or]
        refine ⟨hmem, fun hmem => ?_⟩
        simpa [endsPath] using (ht _ hmem).noEnd)
      simp only [withQuery, tailLength, List.cons_append, hkind, hspecial, if_true,
        List.takeWhile_eq_self_iff.mpr hall, List.takeWhile_eq_self_iff.mpr hall',
        List.dropWhile_eq_nil_iff.mpr hall, List.dropWhile_eq_nil_iff.mpr hall',
        percentEncode_append, hquery, Option.map_some, Option.getD_some, List.length_cons,
        List.length_append]
      omega
  · simp only [withQuery_hash, tailLength, List.cons_append, percentEncode_append, hfragment,
      Option.map_some, Option.getD_some, List.length_cons, List.length_append]
    omega

/-- A path behind a slash that stands in every address as it is. -/
structure IsService (t : Text) : Prop where
  inert : ∀ c ∈ t, IsInert c
  read : ∀ first front, readSegments .web first front (rawSegments .web t) = ⟨front ++ t, false⟩

theorem bare_withPath {u : Url} (hkind : SchemeKind.ofScheme u.scheme = .web) (path s : Text) :
    (u.withPath path s).bare = u.bare := by
  unfold withPath readPath
  simp only [hkind, dropsHost_readSegments, bare_withQuery, Bool.false_eq_true, if_false]
  rfl

/-- Behind a path that is all there is, the path gets longer. -/
theorem length_path_append {t : Text} (ht : IsService t) (path s : Text) :
    (readSegments .web true path (rawSegments .web (s ++ '/' :: t))).path.length ≤
      (readSegments .web true path (rawSegments .web s)).path.length + ('/' :: t).length := by
  rw [rawSegments_append]
  obtain ⟨front, hread, hlength⟩ := readSegments_append (rawSegments_ne_nil .web s)
    (rawSegments_ne_nil .web t) true path
  rw [hread, ht.read, List.length_append, List.length_cons]
  omega

theorem path_withPath {u : Url} (hkind : SchemeKind.ofScheme u.scheme = .web) (path s : Text) :
    (u.withPath path s).path =
      (readSegments .web true path (rawSegments .web (s.takeWhile fun c => !endsPath c))).path := by
  unfold withPath readPath
  simp [hkind]

theorem tailLength_withPath {u : Url} (hkind : SchemeKind.ofScheme u.scheme = .web)
    (path s : Text) :
    tailLength (u.withPath path s) = (u.withPath path s).path.length +
      tailLength (u.bare.withQuery (withoutBreaks (s.dropWhile fun c => !endsPath c))) := by
  unfold withPath readPath
  simp only [hkind, tailLength, path_withQuery, bare, List.length_nil, Nat.zero_add]
  rw [Nat.add_assoc]
  rfl

theorem inert_slash_cons {t : Text} (ht : IsService t) : ∀ c ∈ '/' :: t, IsInert c :=
  List.forall_mem_cons.mpr ⟨by decide, ht.inert⟩

theorem tailLength_withPath_append {u : Url} (hkind : SchemeKind.ofScheme u.scheme = .web)
    {t : Text} (ht : IsService t) (path s : Text) :
    tailLength (u.withPath path (s ++ '/' :: t)) ≤
      tailLength (u.withPath path s) + ('/' :: t).length := by
  have hinert := inert_slash_cons ht
  rw [tailLength_withPath hkind, tailLength_withPath hkind, path_withPath hkind,
    path_withPath hkind]
  -- the path ends with the address, or a query or a fragment follows it
  cases hrest : s.dropWhile fun c => !endsPath c with
  | nil =>
    have hs : ∀ c ∈ s, (!endsPath c) = true := List.dropWhile_eq_nil_iff.mp hrest
    have hall : ∀ c ∈ s ++ '/' :: t, (!endsPath c) = true :=
      List.forall_mem_append.mpr ⟨hs, fun c hc => by rw [(hinert c hc).noEnd]; rfl⟩
    rw [List.takeWhile_eq_self_iff.mpr hs, List.takeWhile_eq_self_iff.mpr hall,
      List.dropWhile_eq_nil_iff.mpr hall]
    have := length_path_append ht path s
    omega
  | cons c rest =>
    have hc : (!endsPath c) = false := by simpa [hrest] using stopsAt_dropWhile (!endsPath ·) s
    have hrun : ∀ d ∈ s.takeWhile fun c => !endsPath c, (!endsPath d) = true :=
      fun d hd => List.mem_takeWhile_imp (p := fun c => !endsPath c) hd
    have hcbreak : isBreak c = false := by
      rw [Bool.not_eq_false'] at hc
      rcases Bool.or_eq_true_iff.mp hc with hc | hc <;> rw [beq_iff_eq.mp hc] <;> decide
    have hs : s = s.takeWhile (!endsPath ·) ++ c :: rest := by
      rw [← hrest, List.takeWhile_append_dropWhile]
    have hwithout (more : Text) :
        withoutBreaks (c :: (rest ++ more)) = c :: withoutBreaks rest ++ withoutBreaks more := by
      simp [withoutBreaks, hcbreak]
    have hstop (more : Text) : StopsAt (!endsPath ·) (c :: more) := by simpa using hc
    rw [show s ++ '/' :: t = s.takeWhile (!endsPath ·) ++ c :: (rest ++ '/' :: t) by
      rw [← List.cons_append, ← List.append_assoc, ← hs]]
    rw [takeWhile_append_stop hrun (hstop _), dropWhile_append_stop hrun (hstop _), hwithout,
      withoutBreaks_inert hinert]
    have hcut := tailLength_withQuery_append (u := u.bare) hkind (by simpa using hc)
      (withoutBreaks rest) hinert
    have hnone := hwithout []
    simp only [List.append_nil, withoutBreaks_inert (List.forall_mem_nil _)] at hnone
    rw [hnone, hcut]
    omega

/-- A path behind an address of the web belongs to what comes last in it. -/
theorem withWebPath_append {u : Url} (hkind : SchemeKind.ofScheme u.scheme = .web) {t : Text}
    (ht : IsService t) (rest : Text) :
    (u.withWebPath (rest ++ '/' :: t)).bare = (u.withWebPath rest).bare ∧
      tailLength (u.withWebPath (rest ++ '/' :: t)) ≤
        tailLength (u.withWebPath rest) + ('/' :: t).length := by
  cases rest with
  | nil =>
    -- without a path the services are read behind the root
    refine ⟨?_, ?_⟩
    · simp only [withWebPath, List.nil_append, bare_withPath hkind]
    · have hall : ∀ c ∈ t, (!endsPath c) = true := fun c hc => by rw [(ht.inert c hc).noEnd]; rfl
      simp only [withWebPath, List.nil_append, tailLength_withPath hkind, path_withPath hkind,
        SchemeKind.isSlash, beq_self_eq_true, Bool.true_or, if_true]
      rw [List.takeWhile_eq_self_iff.mpr hall, List.dropWhile_eq_nil_iff.mpr hall, ht.read]
      have hempty : (readSegments .web true ['/'] (rawSegments .web [])).path = ['/'] := by decide
      simp only [List.takeWhile_nil, List.dropWhile_nil, hempty, List.length_append,
        List.length_cons, List.length_nil]
      omega
  | cons c rest =>
    simp only [withWebPath, List.cons_append]
    split
    · exact ⟨by rw [bare_withPath hkind, bare_withPath hkind],
        tailLength_withPath_append hkind ht _ _⟩
    · refine ⟨by rw [bare_withPath hkind, bare_withPath hkind], ?_⟩
      simpa using tailLength_withPath_append hkind ht ['/'] (c :: rest)

/-! ### Whole addresses -/

@[simp] theorem scheme_withPath (u : Url) (path s : Text) : (u.withPath path s).scheme = u.scheme :=
  rfl

@[simp] theorem scheme_withQuery (u : Url) (s : Text) : (u.withQuery s).scheme = u.scheme := rfl

@[simp] theorem scheme_withWebPath (u : Url) (s : Text) : (u.withWebPath s).scheme = u.scheme := by
  cases s <;> rfl

@[simp] theorem scheme_withPathStart (u : Url) (s : Text) :
    (u.withPathStart s).scheme = u.scheme := by
  unfold withPathStart
  split
  · rfl
  · split <;> rfl

theorem scheme_of_afterSlashes? {scheme s : Text} {u : Url} (h : afterSlashes? scheme s = some u) :
    u.scheme = scheme := by
  unfold afterSlashes? at h
  generalize SchemeKind.ofScheme scheme = kind at h
  dsimp only at h
  revert h
  -- however the user, the host and the port are read, the scheme stays
  rcases splitLastAt? (s.takeWhile fun c => !endsAuthority kind c) with _ | ⟨user, rest⟩
  all_goals
    intro h
    dsimp only at h
    split at h
    · cases h
    split at h
    · cases h
    split at h
    all_goals
      obtain ⟨host, -, h⟩ := Option.bind_eq_some_iff.mp h
      split at h
      all_goals
        obtain ⟨port, -, h⟩ := Option.bind_eq_some_iff.mp h
        rw [← Option.some.inj h]
        simp [ofScheme]

theorem scheme_of_file? {s : Text} {u : Url} (h : file? s = some u) :
    u.scheme = "file".toList := by
  unfold file? at h
  dsimp only at h
  -- each form of the rest builds an address with the same scheme
  split at h
  · rw [← Option.some.inj h]; rfl
  · split at h
    · split at h
      · rw [← Option.some.inj h]; rfl
      · split at h
        · split at h
          · rw [← Option.some.inj h]; rfl
          · split at h
            · rw [← Option.some.inj h]; rfl
            · obtain ⟨host, -, h⟩ := Option.bind_eq_some_iff.mp h
              split at h <;> rw [← Option.some.inj h] <;> simp [ofScheme]
        · rw [← Option.some.inj h]; rfl
    · rw [← Option.some.inj h]; rfl

/-- An address has the scheme that it is read for. -/
theorem scheme_of_withScheme? {scheme s raw : Text} {u : Url}
    (h : withScheme? none scheme s raw = some u) : u.scheme = scheme := by
  unfold withScheme? at h
  split at h
  · next hkind =>
    unfold SchemeKind.ofScheme at hkind
    split at hkind
    · next hfile => rw [hfile, scheme_of_file? h]
    · split at hkind <;> cases hkind
  · exact scheme_of_afterSlashes? h
  · split at h
    · exact scheme_of_afterSlashes? h
    · rw [← Option.some.inj h]; rfl
    · rw [← Option.some.inj h]; rfl

theorem afterSlashes?_append {scheme s : Text} (hkind : SchemeKind.ofScheme scheme = .web) {u : Url}
    (h : afterSlashes? scheme s = some u) {t : Text} (ht : IsService t) :
    ∃ v, afterSlashes? scheme (s ++ '/' :: t) = some v ∧ v.bare = u.bare ∧
      tailLength v ≤ tailLength u + ('/' :: t).length := by
  have hslash : (!endsAuthority .web '/') = false := by decide
  rw [afterSlashes?_eq hkind] at h ⊢
  rw [takeWhile_append_cons hslash, dropWhile_append_cons hslash]
  obtain ⟨front, rest, rfl, rfl, hv⟩ := webAddress?_append h t
  obtain ⟨hbare, hlength⟩ := withWebPath_append hkind ht rest
  exact ⟨_, hv, hbare, hlength⟩

theorem withScheme?_append {scheme s raw raw' : Text} (hkind : SchemeKind.ofScheme scheme = .web)
    {u : Url} (h : withScheme? none scheme s raw = some u) {t : Text} (ht : IsService t) :
    ∃ v, withScheme? none scheme (s ++ '/' :: t) raw' = some v ∧ v.bare = u.bare ∧
      tailLength v ≤ tailLength u + ('/' :: t).length := by
  unfold withScheme? at h ⊢
  rw [hkind] at h ⊢
  dsimp only at h ⊢
  have hdrop (s : Text) :
      s.drop (s.takeWhile SchemeKind.web.isSlash).length = s.dropWhile SchemeKind.web.isSlash := by
    conv =>
      lhs; arg 2
      rw [← List.takeWhile_append_dropWhile (p := SchemeKind.web.isSlash) (l := s)]
    exact List.drop_left
  rw [hdrop] at h ⊢
  rw [List.dropWhile_append]
  split
  · next hnil =>
    -- there is no host between nothing but slashes
    rw [List.isEmpty_iff.mp hnil, afterSlashes?_eq hkind] at h
    cases h
  · exact afterSlashes?_append hkind h ht

/-- **A service behind an address.**  -/
theorem parse?_append {base : Text} {u : Url} (h : parse? base = some u)
    (hweb : Http.isWeb u = true)
    (hlast : ∀ c ∈ base.getLast?, 0x20 < c.toNat) {t : Text} (ht : IsService t) :
    ∃ v, parse? (base ++ '/' :: t) = some v ∧ v.bare = u.bare ∧
      tailLength v ≤ tailLength u + ('/' :: t).length := by
  rcases List.eq_nil_or_concat base with rfl | ⟨base, c, rfl⟩
  · cases h
  rw [List.concat_eq_append] at h hlast ⊢
  have hc : 0x20 < c.toNat := hlast c (by simp)
  have hinert := inert_slash_cons ht
  unfold parse? read? at h ⊢
  -- the last character of the base is visible, so no blank is trimmed between the two
  rw [trimmed_append hc fun d hd => (hinert d hd).visible]
  dsimp only at h ⊢
  rw [withoutBreaks_append, withoutBreaks_inert hinert]
  split at h
  · next scheme rest hscheme =>
    rw [scheme?_append hscheme]
    have hsame := scheme_of_withScheme? h
    refine withScheme?_append ?_ h ht
    rw [Http.isWeb, hsame, Bool.and_eq_true, Bool.or_eq_true, decide_eq_true_eq,
      decide_eq_true_eq] at hweb
    rcases hweb.2 with rfl | rfl <;> decide
  · cases h

/-- Two words with a slash between them are a service if both stand in every address as they are. -/
theorem isService_of_segments {t a b : Text} (hinert : t.all (IsInert ·) = true)
    (hsegments : rawSegments .web t = [a, b]) (ht : t = a ++ '/' :: b) (ha : IsPlainSegment a)
    (hb : IsPlainSegment b) : IsService t where
  inert c hc := of_decide_eq_true (List.all_eq_true.mp hinert c hc)
  read first front := by
    rw [hsegments, readSegments_plain ha, readSegments_plain hb, ht]
    simp [readSegments]

end MergeMessage.Url

namespace MergeMessage.Http

open Url

theorem length_render {u : Url} (h : u.host.isSome = true) :
    u.render.length = u.bare.render.length + u.tailLength := by
  obtain ⟨host, hhost⟩ := Option.isSome_iff_exists.mp h
  simp [render, renderPath, renderAuthority, hhost, bare, tailLength, renderUser]
  omega

/-- The path and what follows it are shown as they are. -/
theorem length_shown {u : Url} (h : u.host.isSome = true) :
    (shown u).length = (shown u.bare).length + u.tailLength := by
  unfold shown withoutUser
  dsimp only [bare]
  split
  · exact length_render h
  · split
    · exact length_render h
    · exact length_render (u := { u with username := [], password := none }) h

/-- An absolute address of the web to which a request can be sent, also with some characters more
behind it.  Nothing is trimmed at its end. -/
structure HasRoom (room : Nat) (base : Text) : Prop where
  parses : ∃ u, Url.parse? base = some u ∧ isReachable u = true ∧
    (shown u).length + room ≤ addressLimit
  visible : ∀ c ∈ base.getLast?, 0x20 < c.toNat

/-- **A service behind an address.**  Every service can be reached for which there is room. -/
theorem isReachable_append {room : Nat} {base : Text} (h : HasRoom room base) {t : Text}
    (ht : IsService t) (hroom : ('/' :: t).length ≤ room) :
    ∃ v, Url.parse? (base ++ '/' :: t) = some v ∧ isReachable v = true := by
  obtain ⟨u, hparse, hreach, hshort⟩ := h.parses
  rw [isReachable, Bool.and_eq_true, Bool.and_eq_true] at hreach
  obtain ⟨⟨hweb, hchars⟩, -⟩ := hreach
  obtain ⟨v, hv, hbare, hlength⟩ := parse?_append hparse hweb h.visible ht
  -- all that comes before the path is the same
  have hhost : v.bare.host = u.bare.host := by rw [hbare]
  have hscheme : v.bare.scheme = u.bare.scheme := by rw [hbare]
  change v.host = u.host at hhost
  change v.scheme = u.scheme at hscheme
  have hsome : u.host.isSome = true := (Bool.and_eq_true _ _ ▸ hweb).1
  refine ⟨v, hv, ?_⟩
  have hshown := length_shown (hhost ▸ hsome)
  have hshown' := length_shown hsome
  rw [hbare] at hshown
  rw [isReachable, isWeb, hhost, hscheme, ← isWeb, hweb, hchars, Bool.true_and, Bool.true_and,
    decide_eq_true_eq]
  omega

end MergeMessage.Http
