import MergeMessage.Proofs.PlainAddresses
import MergeMessage.PullRequest.Key

/-!
# Keys of pull requests

A pull request has many locations: its address on any host, or the path alone, with the segments
of a tab behind the number, and with any query and fragment.  The key is the same for all of them,
and only for them: it is a location of its pull request, and those of two pull requests differ.

## Main definitions

* `PullRequest.Place` — owner, repository and number.
* `PullRequest.Location` — an address or a path of a pull request.

## Main results

* `PullRequest.Location.exists_addressOf?` — both forms of a location lead to one path.
* `PullRequest.key?_canonical` — the key tells pull requests apart, and nothing else.
-/

namespace MergeMessage.PullRequest

open Text Url

/-! ### Pull requests and their locations -/

/-- A pull request of a repository. -/
@[ext]
structure Place where
  /-- Who owns the repository. -/
  owner : Text
  /-- The repository. -/
  repository : Text
  /-- The number of the pull request, in decimal digits. -/
  number : Text
  /-- Owner and repository are names that are not empty. -/
  owner_name : IsPathName owner
  owner_ne_nil : owner ≠ []
  repository_name : IsPathName repository
  repository_ne_nil : repository ≠ []
  /-- All of the number is digits, and there is one. -/
  digits : ∀ c ∈ number, c.isDigit = true
  number_ne_nil : number ≠ []

namespace Place

/-- The key of a pull request. -/
def key (place : Place) : Text := renderKey place.owner place.repository place.number

/-- A number is no dots. -/
theorem isPathName_number (place : Place) : IsPathName place.number := by
  have hdot : '.' ∉ place.number := fun hmem => absurd (place.digits _ hmem) (by decide)
  refine ⟨fun c hc => ?_, ?_, ?_⟩
  · simp [isNameChar, Char.isAlphanum, place.digits c hc]
  · exact fun heq => hdot (by simp [heq])
  · exact fun heq => hdot (by simp [heq])

end Place

/-- What comes before the path in an address of the web. -/
structure Origin where
  /-- Is the scheme `https`? -/
  secure : Bool
  /-- The host. -/
  host : PlainHost

namespace Origin

/-- The scheme of an address. -/
def scheme (origin : Origin) : Text := (if origin.secure then "https" else "http").toList

/-- The address of the host alone. -/
def address (origin : Origin) : Url :=
  { ofScheme origin.scheme with host := some origin.host.text }

/-- The scheme and the host as they are written. -/
def text (origin : Origin) : Text := origin.scheme ++ "://".toList ++ origin.host.text

variable (origin : Origin)

theorem kind_scheme : SchemeKind.ofScheme origin.scheme = .web := by
  rw [scheme]
  cases origin.secure <;> decide

theorem scheme?_scheme : scheme? (origin.scheme ++ [':']) = some (origin.scheme, []) := by
  rw [scheme]
  cases origin.secure <;> decide

theorem visible : ∀ c ∈ origin.text, 0x20 < c.toNat := by
  have hscheme : ∀ c ∈ origin.scheme ++ "://".toList, 0x20 < c.toNat := by
    rw [scheme]
    cases origin.secure <;> simp
  exact List.forall_mem_append.mpr ⟨hscheme, fun c hc => (origin.host.isHostChar c hc).visible⟩

end Origin

/-- A path with one slash at its front is taken against the host that paths are taken against. -/
theorem addressOf?_of_path {x s : Text} {c : Char} (hc : SchemeKind.web.isSlash c = false)
    (hx : withoutBreaks (trimmed x) = '/' :: c :: s) :
    addressOf? x = some (localBase.withPath ['/'] (c :: s)) := by
  rw [addressOf?, parse?_path hx, join?_path (by decide) hc hx]
  rfl

theorem addressOf?_of_origin {origin : Origin} {x s : Text}
    (hx : withoutBreaks (trimmed x) = origin.text ++ '/' :: s) :
    addressOf? x = some (origin.address.withPath ['/'] s) := by
  rw [addressOf?, parse?_host origin.scheme?_scheme origin.kind_scheme origin.host hx]
  rfl

/-- An address of a pull request, or its path alone. -/
structure Location where
  /-- What comes before the path; absent if the path stands alone. -/
  origin : Option Origin
  /-- The pull request. -/
  place : Place
  /-- The segments behind the number, which may be empty. -/
  tail : List Text
  /-- What follows a question mark. -/
  query : Option Text
  /-- What follows a number sign. -/
  fragment : Option Text
  tail_names : ∀ name ∈ tail, IsPathName name

namespace Location

variable (l : Location)

/-- The query and the fragment as they are written. -/
def suffix : Text := (l.query.map ('?' :: ·)).getD [] ++ (l.fragment.map ('#' :: ·)).getD []

/-- The location as it is written. -/
def text : Text :=
  (l.origin.map Origin.text).getD [] ++ l.place.key ++ l.tail.flatMap ('/' :: ·) ++ l.suffix

/-- The segments of the path. -/
def segments : List Text :=
  [l.place.owner, l.place.repository, pullRequestsSegment, l.place.number] ++ l.tail

theorem isPathName_of_mem_segments : ∀ name ∈ l.segments, IsPathName name := by
  have hnumber : IsPathName l.place.number := l.place.isPathName_number
  have hsection : IsPathName pullRequestsSegment := by decide
  have hfront := List.forall_mem_cons.mpr ⟨l.place.owner_name, List.forall_mem_cons.mpr
    ⟨l.place.repository_name, List.forall_mem_cons.mpr ⟨hsection, List.forall_mem_singleton.mpr
      hnumber⟩⟩⟩
  exact List.forall_mem_append.mpr ⟨hfront, l.tail_names⟩

/-- A query or a fragment ends the path. -/
theorem stopsAt_suffix : StopsAt (!endsPath ·) l.suffix := by
  obtain ⟨origin, place, tail, query, fragment, -⟩ := l
  cases query <;> cases fragment <;> simp [suffix, endsPath]

theorem segments_ne_nil : l.segments ≠ [] := by simp [segments]

theorem text_eq : l.text =
    (l.origin.map Origin.text).getD [] ++ '/' :: join ['/'] l.segments ++ l.suffix := by
  simp [text, segments, Place.key, renderKey, join_cons_eq_flatMap]

/-- The path of a location, and whatever follows it, is read behind a host of the web. -/
theorem path_withPath {u : Url} (hkind : SchemeKind.ofScheme u.scheme = .web) {rest : Text}
    (hrest : StopsAt (!endsPath ·) rest) :
    (u.withPath ['/'] (join ['/'] l.segments ++ rest)).path = '/' :: join ['/'] l.segments :=
  path_withPath_names l.segments_ne_nil l.isPathName_of_mem_segments hkind hrest

theorem visible_path : ∀ c ∈ '/' :: join ['/'] l.segments, 0x20 < c.toNat := by
  refine List.forall_mem_cons.mpr ⟨by decide, fun c hc => ?_⟩
  rcases isPathChar_of_mem_join l.isPathName_of_mem_segments hc with rfl | hc
  · decide
  · exact hc.visible

/-- No second slash stands at the front of the path. -/
theorem exists_path_cons :
    ∃ c path, join ['/'] l.segments = c :: path ∧ SchemeKind.web.isSlash c = false := by
  obtain ⟨c, owner, howner⟩ := List.exists_cons_of_ne_nil l.place.owner_ne_nil
  have hc := (l.place.owner_name.isPathChar c (by simp [howner])).noSlash
  rw [segments, List.cons_append, join_cons_eq_flatMap, howner, List.cons_append]
  exact ⟨c, _, rfl, hc⟩

/-- **Both forms of a location lead to one path.** -/
theorem exists_addressOf? :
    ∃ u, addressOf? l.text = some u ∧ u.path = '/' :: join ['/'] l.segments := by
  have htext := l.text_eq
  -- a bare path is joined to the local base, a whole address keeps its own origin
  cases horigin : l.origin with
  | none =>
    rw [horigin, Option.map_none, Option.getD_none, List.nil_append] at htext
    obtain ⟨rest, hrest, hx⟩ := exists_withoutBreaks_trimmed (List.cons_ne_nil _ _) l.visible_path
      l.stopsAt_suffix
    refine ⟨_, ?_, l.path_withPath (u := localBase) (by decide) hrest⟩
    obtain ⟨c, path, hpath, hc⟩ := l.exists_path_cons
    rw [← htext, hpath] at hx
    rw [hpath]
    exact addressOf?_of_path hc hx
  | some origin =>
    rw [horigin, Option.map_some, Option.getD_some] at htext
    obtain ⟨rest, hrest, hx⟩ := exists_withoutBreaks_trimmed (by simp)
      (List.forall_mem_append.mpr ⟨origin.visible, l.visible_path⟩) l.stopsAt_suffix
    rw [← htext, List.append_assoc, List.cons_append] at hx
    refine ⟨_, addressOf?_of_origin hx, ?_⟩
    exact l.path_withPath (u := origin.address) origin.kind_scheme hrest

/-- The segments are found again between the slashes of the path. -/
theorem pieces_path : pieces '/' ('/' :: join ['/'] l.segments) = [] :: l.segments := by
  have hslash : ∀ name ∈ l.segments, '/' ∉ name := fun name hname hmem =>
    absurd ((l.isPathName_of_mem_segments name hname).chars _ hmem) (by decide)
  rw [pieces, if_pos rfl, pieces_join l.segments_ne_nil hslash]

/-- The number of the key is the whole segment. -/
theorem keyOfPath?_path : keyOfPath? ('/' :: join ['/'] l.segments) = some l.place.key := by
  have hnumber : l.place.number.takeWhile Char.isDigit = l.place.number :=
    List.takeWhile_eq_self_iff.mpr l.place.digits
  rw [keyOfPath?, pieces_path]
  simp [segments, hnumber, l.place.owner_ne_nil, l.place.repository_ne_nil, l.place.number_ne_nil,
    Place.key]

end Location

/-- Every location has the key of its pull request. -/
theorem key?_text (l : Location) : key? l.text = some l.place.key := by
  obtain ⟨u, haddress, hpath⟩ := l.exists_addressOf?
  rw [key?, haddress, Option.bind_some, hpath, l.keyOfPath?_path]

namespace Place

/-- A key is a location of its pull request. -/
def location (place : Place) : Location where
  origin := none
  place := place
  tail := []
  query := none
  fragment := none
  tail_names := List.forall_mem_nil _

theorem text_location (place : Place) : place.location.text = place.key := by
  simp [Location.text, Location.suffix, location]

theorem pieces_key (place : Place) : pieces '/' place.key =
    [[], place.owner, place.repository, pullRequestsSegment, place.number] := by
  have hpath : place.key = '/' :: join ['/'] place.location.segments := by
    rw [← text_location, Location.text_eq]
    simp [Location.suffix, location]
  rw [hpath, Location.pieces_path]
  rfl

/-- The parts of a pull request are found again in its key. -/
theorem key_injective : Function.Injective key := by
  intro place place' h
  have hpieces := congrArg (pieces '/') h
  simp only [pieces_key, List.cons.injEq, and_true, true_and] at hpieces
  exact Place.ext hpieces.1 hpieces.2.1 hpieces.2.2

end Place

/-- **The key of a pull request.**  Every location of a pull request has the key of that pull
request; the key of a key is that key; and two locations have one key exactly if they are of one
pull request. -/
theorem key?_canonical (l l' : Location) :
    key? l.text = some l.place.key ∧ (key? l.text).bind key? = key? l.text ∧
      (key? l.text = key? l'.text ↔ l.place = l'.place) := by
  have hkey : key? l.place.key = some l.place.key := by
    have hlocation := key?_text l.place.location
    rw [Place.text_location] at hlocation
    exact hlocation
  refine ⟨key?_text l, ?_, ?_⟩
  · rw [key?_text, Option.bind_some, hkey]
  · rw [key?_text, key?_text, Option.some_inj, Place.key_injective.eq_iff]

/-- The address of a tab, with a query and a fragment. -/
example : Location.text
    { origin := some ⟨true, ⟨["bitbucket".toList, "org".toList], by simp, by simp, by simp⟩⟩
      place := ⟨"acme".toList, "shop".toList, "42".toList, by decide, by decide, by decide,
        by decide, by simp, by decide⟩
      tail := ["diff".toList]
      query := some "w=1".toList
      fragment := some "chg-src".toList
      tail_names := List.forall_mem_singleton.mpr (by decide) } =
    "https://bitbucket.org/acme/shop/pull-requests/42/diff?w=1#chg-src".toList := by
  decide

end MergeMessage.PullRequest
