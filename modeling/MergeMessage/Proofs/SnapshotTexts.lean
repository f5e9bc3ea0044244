import MergeMessage.Proofs.JsonTexts
import MergeMessage.Proofs.KeptVerdicts

/-!
# The texts of a page snapshot

A snapshot is read from an object by the names of its parts.  So the same snapshot has many texts:
the members stand in any order with any gaps, names and contents have any spelling, parts that are as
in an empty snapshot may be missing, and there may be members under other names, whatever they hold.
All these texts are loaded as that snapshot.  A name of a part must not be given twice.

## Main definitions

* `Snapshot.parts` — the parts of a snapshot under their names.
* `Snapshot.IsTextOf` — the texts of a snapshot.
* `Snapshot.RepeatsName` — the texts in which the name of a part is given twice.

## Main results

* `Snapshot.IsTextOf.ofJson?_eq` — a text of a snapshot stands for it.
* `Snapshot.isTextOf_render` — the printed parts of a snapshot are such a text.
* `Snapshot.RepeatsName.ofJson?_eq` — a text with a repeated name stands for none.
* `loadView_by_names` — what is loaded from the file with such a text.
-/

namespace MergeMessage

namespace PullRequest.Snapshot

open Json Text

/-! ### The texts of a snapshot -/

/-- The parts of a snapshot under their names, as they are written; the address of the ticket's link
may be absent. -/
def parts (s : Snapshot) : List (Text × Option Text) :=
  [("url".toList, some s.location), ("title".toList, some s.rawTitle),
    ("description".toList, some s.rawDescription), ("ticketLinkHref".toList, s.ticketAddress),
    ("ticketLinkText".toList, some s.rawTicketLabel), ("sourceBranch".toList, some s.rawBranch)]

/-- The texts of a part. -/
inductive IsPartText : Option Text → Text → Prop
  /-- What is absent is null. -/
  | absent : IsPartText none "null".toList
  /-- A text is a literal that spells it. -/
  | text {s w : Text} (h : Spells w s) : IsPartText (some s) (literalText w)

/-- What a member of a text for a snapshot is under its name. -/
inductive Gives (s : Snapshot) (m : PaddedMember) (name : Text) : Prop
  /-- It gives a part of the snapshot. -/
  | part (hname : Spells m.name name) (part : Option Text) (hpart : (name, part) ∈ s.parts)
      (hvalue : IsPartText part m.value.body)
  /-- It is any value under another name. -/
  | other (hname : Spells m.name name) (hother : name ∉ keys) (hvalue : IsValue m.value.body)

/-- The texts of a snapshot: an object with gaps around it. -/
inductive IsTextOf (s : Snapshot) : Text → Prop
  /-- The members give parts of the snapshot, none of them twice, or are passed over; the parts that
  they do not give are as in an empty snapshot. -/
  | object {p : Padded} {gap : Gap} {members : List PaddedMember} {names : List Text}
      (hbody : p.body = objectText gap members) (hmembers : List.Forall₂ (Gives s) members names)
      (hunique : ∀ key ∈ keys, names.count key ≤ 1)
      (hmissing : ∀ part ∈ s.parts, part.1 ∉ names → part ∈ parts {}) : IsTextOf s p.text

/-- The texts of objects in which two members have the name of the same part. -/
inductive RepeatsName : Text → Prop
  /-- The two members stand at different places, and all members hold any values. -/
  | object {p : Padded} {gap : Gap} {members : List PaddedMember} {m m' : PaddedMember} {key : Text}
      (hbody : p.body = objectText gap members) (hnames : ∀ m ∈ members, IsLiteral m.name)
      (hvalues : ∀ m ∈ members, IsValue m.value.body) (htwice : List.Sublist [m, m'] members)
      (hkey : key ∈ keys) (hm : Spells m.name key) (hm' : Spells m'.name key) : RepeatsName p.text

/-! ### Parts -/

/-- The value of a part. -/
def partValue : Option Text → Json
  | none => .null
  | some s => .text s

/-- The slot of a part in an object with members of these names. -/
def partSlot (names : List Text) (part : Text × Option Text) : Slot :=
  if part.1 ∈ names then .value (partValue part.2) else .missing

theorem map_fst_parts (s : Snapshot) : s.parts.map Prod.fst = keys := rfl

theorem fst_mem_keys {s : Snapshot} {part : Text × Option Text} (h : part ∈ s.parts) :
    part.1 ∈ keys := by
  rw [← map_fst_parts s]
  exact List.mem_map_of_mem h

/-- No two parts have the same name. -/
theorem parts_unique {s : Snapshot} {name : Text} {part part' : Option Text}
    (h : (name, part) ∈ s.parts) (h' : (name, part') ∈ s.parts) : part = part' := by
  have hnodup : (s.parts.map Prod.fst).Nodup := by
    rw [map_fst_parts]
    decide
  exact (Prod.mk.inj (List.inj_on_of_nodup_map hnodup h h' rfl)).2

theorem IsPartText.reads {part : Option Text} {w : Text} (h : IsPartText part w) :
    Json.Reads w (partValue part) := by
  cases h with
  | absent => exact reads_null
  | text h => exact reads_literalText (string?_of_spells h)

/-- A member is what the name says: the part of that name, if it is one. -/
structure Tells (s : Snapshot) (name : Text) (member : Option Text × Json) : Prop where
  /-- It has this name. -/
  named : member.1 = some name
  /-- It has the value of the part. -/
  holds : ∀ part, (name, part) ∈ s.parts → member.2 = partValue part

theorem Gives.exists_reads {s : Snapshot} {m : PaddedMember} {name : Text} (h : Gives s m name) :
    ∃ member, m.Reads member ∧ Tells s name member := by
  cases h with
  | part hname part hpart hvalue =>
    exact ⟨(some name, partValue part), ⟨string?_of_spells hname, hvalue.reads⟩, rfl,
      fun part' hpart' => by rw [parts_unique hpart hpart']⟩
  | other hname hother hvalue =>
    obtain ⟨j, hj⟩ := hvalue.exists_reads
    exact ⟨(some name, j), ⟨string?_of_spells hname, hj⟩, rfl,
      fun part hpart => absurd (fst_mem_keys hpart) hother⟩

theorem exists_reads_of_gives {s : Snapshot} {ms : List PaddedMember} {names : List Text}
    (h : List.Forall₂ (Gives s) ms names) :
    ∃ members, List.Forall₂ PaddedMember.Reads ms members ∧
      List.Forall₂ (Tells s) names members := by
  induction h with
  | nil => exact ⟨[], .nil, .nil⟩
  | cons hm _ ih =>
    obtain ⟨member, hreads, htells⟩ := hm.exists_reads
    obtain ⟨members, hreads', htells'⟩ := ih
    exact ⟨member :: members, .cons hreads hreads', .cons htells htells'⟩

/-- The values under the name of a part are that part, as often as the name is given. -/
theorem valuesOf_eq_replicate {s : Snapshot} {names : List Text}
    {members : List (Option Text × Json)} (h : List.Forall₂ (Tells s) names members)
    {part : Text × Option Text} (hpart : part ∈ s.parts) :
    valuesOf part.1 members = List.replicate (names.count part.1) (partValue part.2) := by
  induction h with
  | nil => rfl
  | @cons name member names members hmember _ ih =>
    obtain ⟨key, value⟩ := member
    obtain ⟨rfl, hvalue⟩ := hmember
    rw [valuesOf] at ih ⊢
    by_cases hname : name = part.1
    · subst hname
      have hv : value = partValue part.2 := hvalue part.2 hpart
      simp [ih, hv, List.replicate_succ]
    · simp [ih, hname]

theorem memberSlot?_eq_partSlot {s : Snapshot} {names : List Text}
    {members : List (Option Text × Json)} (h : List.Forall₂ (Tells s) names members)
    {part : Text × Option Text} (hpart : part ∈ s.parts) (hunique : names.count part.1 ≤ 1) :
    memberSlot? members part.1 = some (partSlot names part) := by
  rw [memberSlot?, valuesOf_eq_replicate h hpart, partSlot]
  by_cases hmem : part.1 ∈ names
  · have hone : names.count part.1 = 1 := by
      have hpos := List.count_pos_iff.mpr hmem
      omega
    rw [hone, if_pos hmem]
    rfl
  · rw [List.count_eq_zero.mpr hmem, if_neg hmem]
    rfl

/-- A part is read from its slot, or it is as in an empty snapshot. -/
theorem defaulted?_partSlot {α : Type} {read : Json → Option α} {default a : α}
    {names : List Text} {part : Text × Option Text} (hread : read (partValue part.2) = some a)
    (hmissing : part.1 ∉ names → a = default) :
    (partSlot names part).defaulted? read default = some a := by
  by_cases hmem : part.1 ∈ names
  · rw [partSlot, if_pos hmem, Slot.defaulted?, hread]
  · rw [partSlot, if_neg hmem, hmissing hmem]
    rfl

/-! ### Objects -/

/-- An object whose members give the parts of a snapshot stands for it. -/
theorem ofValue?_object {s : Snapshot} {names : List Text} {members : List (Option Text × Json)}
    (h : List.Forall₂ (Tells s) names members) (hunique : ∀ key ∈ keys, names.count key ≤ 1)
    (hmissing : ∀ part ∈ s.parts, part.1 ∉ names → part ∈ parts {}) :
    ofValue? (.object members) = some s := by
  have hkeys : ∀ member ∈ members, member.1 ≠ none := by
    intro member hmember
    obtain ⟨name, htells⟩ := exists_forall₂_iff.mp ⟨names, h.flip⟩ member hmember
    simp [htells.named]
  have hslots : List.Forall₂ (IsMember members) keys (s.parts.map (partSlot names)) := by
    rw [← map_fst_parts s, List.forall₂_map_left_iff, List.forall₂_map_right_iff,
      List.forall₂_same]
    intro part hpart
    rw [← memberSlot?_eq_some_iff]
    exact memberSlot?_eq_partSlot h hpart (hunique _ (fst_mem_keys hpart))
  have hrecord := record?_eq_some_iff.mpr (.object members _ hkeys hslots)
  -- each field is read from its slot
  have htext : ∀ name text, (name, some text) ∈ s.parts → (name, some []) ∈ parts {} →
      (partSlot names (name, some text)).defaulted? Json.text? [] = some text := by
    intro name text hpart hempty
    refine defaulted?_partSlot rfl fun hnot => ?_
    exact Option.some.inj (parts_unique (hmissing _ hpart hnot) hempty)
  have haddress : (partSlot names ("ticketLinkHref".toList, s.ticketAddress)).defaulted?
      Json.optionalText? none = some s.ticketAddress := by
    refine defaulted?_partSlot ?_ fun hnot => ?_
    · cases s.ticketAddress with
      | none => rfl
      | some address => rfl
    · exact parts_unique (hmissing _ (by simp [parts]) hnot) (by simp [parts])
  simp only [ofValue?, hrecord, parts, List.map_cons, List.map_nil, Option.bind_eq_bind,
    Option.bind_some, haddress]
  rw [htext, htext, htext, htext, htext]
  all_goals simp [parts]

/-- **A text of a snapshot stands for it.** -/
theorem IsTextOf.ofJson?_eq {s : Snapshot} {w : Text} (h : IsTextOf s w) :
    ofJson? w = some s := by
  cases h with
  | object hbody hmembers hunique hmissing =>
    obtain ⟨members, hreads, htells⟩ := exists_reads_of_gives hmembers
    have hread := reads_objectText hreads
    rw [ofJson?, Reads.ofStrict?_padded (hbody ▸ hread _), Option.bind_some,
      ofValue?_object htells hunique hmissing]

/-- A part with its name, printed without gaps. -/
def partMember (part : Text × Option Text) : PaddedMember :=
  ⟨.none, part.1.flatMap Json.escapeChar, .none, ⟨.none, (partValue part.2).render, .none⟩⟩

theorem isPartText_render (part : Option Text) : IsPartText part (partValue part).render := by
  cases part with
  | none => exact .absent
  | some text => exact .text (spells_escaped text)

theorem renderMembers_parts (parts : List (Text × Option Text)) :
    renderMembers (parts.map fun part => (some part.1, partValue part.2)) =
      (parts.map partMember).map PaddedMember.text := by
  induction parts with
  | nil => rfl
  | cons part parts ih =>
    rw [List.map_cons, renderMembers, ih, List.map_cons, List.map_cons]
    simp [partMember, PaddedMember.text, Padded.text, Gap.none, literalText, escapeString]

/-- **The printed parts of a snapshot are a text of it.** -/
theorem isTextOf_render (s : Snapshot) : IsTextOf s
    (Json.object (s.parts.map fun part => (some part.1, partValue part.2))).render := by
  have hmembers : List.Forall₂ (Gives s) (s.parts.map partMember) keys := by
    rw [← map_fst_parts s, List.forall₂_map_left_iff, List.forall₂_map_right_iff,
      List.forall₂_same]
    intro part hpart
    exact .part (spells_escaped part.1) part.2 hpart (isPartText_render part.2)
  have hunique : ∀ key ∈ keys, keys.count key ≤ 1 := fun key _ =>
    List.nodup_iff_count_le_one.mp (by decide) key
  have htext : IsTextOf s (Padded.text ⟨.none, objectText .none (s.parts.map partMember), .none⟩) :=
    .object rfl hmembers hunique fun part hpart hnot => absurd (fst_mem_keys hpart) hnot
  rw [render, renderMembers_parts]
  simpa [Padded.text, objectText, Gap.none] using htext

/-- Every member with a name counts for the values under it. -/
theorem length_le_valuesOf {ms given : List PaddedMember} {members : List (Option Text × Json)}
    {key : Text} (h : List.Forall₂ PaddedMember.Reads ms members) (hgiven : given.Sublist ms)
    (hname : ∀ m ∈ given, Spells m.name key) : given.length ≤ (valuesOf key members).length := by
  -- each of the given members adds one value, whatever the others add
  induction h generalizing given with
  | nil =>
    obtain rfl := List.sublist_nil.mp hgiven
    exact Nat.zero_le _
  | @cons m member ms members hm _ ih =>
    have hvalues : (valuesOf key (member :: members)).length =
        (valuesOf key [member]).length + (valuesOf key members).length := by
      rw [← List.length_append]
      exact congrArg List.length (List.filterMap_append (l := [member]) ..)
    rw [hvalues]
    rcases List.sublist_cons_iff.mp hgiven with hrest | ⟨rest, rfl, hrest⟩
    · exact le_trans (ih hrest hname) (Nat.le_add_left _ _)
    · rw [List.forall_mem_cons] at hname
      have hone : valuesOf key [member] = [member.2] := by
        simp [valuesOf, hm.fst_eq hname.1]
      rw [hone, List.length_cons, List.length_singleton, Nat.add_comm]
      exact Nat.add_le_add_left (ih hrest hname.2) 1

/-- An object in which a part has two values stands for no snapshot. -/
theorem ofValue?_eq_none {members : List (Option Text × Json)} {key : Text} (hkey : key ∈ keys)
    (h : 2 ≤ (valuesOf key members).length) : ofValue? (.object members) = none := by
  -- a name given twice has no slot, and then the record has none
  have hslot : memberSlot? members key = none := by
    unfold memberSlot?
    split
    · next hnone => simp [hnone] at h
    · next hone => simp [hone] at h
    · rfl
  have hrecord : record? keys (.object members) = none := by
    rw [Option.eq_none_iff_forall_ne_some]
    intro slots hslots
    cases record?_eq_some_iff.mp hslots with
    | object _ _ _ h =>
      obtain ⟨slot, hmember⟩ := exists_forall₂_iff.mp ⟨slots, h⟩ key hkey
      rw [← memberSlot?_eq_some_iff, hslot] at hmember
      simp at hmember
  rw [ofValue?, hrecord]
  rfl

/-- **A text with a repeated name stands for no snapshot.** -/
theorem RepeatsName.ofJson?_eq {w : Text} (h : RepeatsName w) : ofJson? w = none := by
  cases h with
  | @object p gap ms m m' key hbody hnames hvalues htwice hkey hm hm' =>
    obtain ⟨members, hmembers⟩ := exists_forall₂_iff.mpr fun m hm =>
      PaddedMember.exists_reads (hnames m hm) (hvalues m hm).exists_reads
    have hread := reads_objectText hmembers gap
    rw [ofJson?, Reads.ofStrict?_padded (hbody ▸ hread), Option.bind_some]
    refine ofValue?_eq_none hkey (length_le_valuesOf hmembers htwice ?_)
    rw [List.forall_mem_cons, List.forall_mem_singleton]
    exact ⟨hm, hm'⟩

end PullRequest.Snapshot

/-! ### Loading -/

open Json PullRequest PullRequest.Snapshot Text

/-- **What is loaded from a file with an object of named parts.**  If it holds a text of a snapshot,
a view with the parts of the snapshot is loaded: the address of the view and the one of the ticket's
link as they are, and the other texts without the blanks at their ends.  If the name of a part is
given twice, nothing is loaded. -/
theorem loadView_by_names {m : Type → Type} [Monad m] [LawfulMonad m] {world : World m}
    {path w : Text} (hfile : world.fileAt path = pure (.octets (Text.octets w))) :
    (∀ s, IsTextOf s w → ∃ view, loadView world path = pure (.ok view) ∧
      view.location = s.location ∧ view.title = trim s.rawTitle ∧
      view.description = trim s.rawDescription ∧ view.ticketAddress = s.ticketAddress ∧
      view.ticketLabel = trim s.rawTicketLabel ∧ view.branch = trim s.rawBranch) ∧
    (RepeatsName w → ∃ failure, loadView world path = pure (.error failure) ∧
      failure.causes.head? =
        some ("failed to parse page snapshot ".toList ++ quotedPath path)) := by
  rw [loadView, hfile, pure_bind, FileContent.text_octets]
  constructor
  · intro s hs
    refine ⟨s, ?_, rfl, rfl, rfl, rfl, rfl, rfl⟩
    simp only [hs.ofJson?_eq]
  · intro hrepeats
    simp only [hrepeats.ofJson?_eq]
    exact ⟨_, rfl, rfl⟩

/-- A world where every file holds this text. -/
def viewWorld (w : Text) : World (StateM Nat) where
  __ := quietWorld
  fileAt _ := pure (.octets (Text.octets w))

/-- The name of the address of a view, with an escape. -/
def escapedUrl : Text := "\\u0075rl".toList

theorem spells_escapedUrl : Spells escapedUrl "url".toList := by
  have hdigit : ∀ p ∈ [('0', 0), ('7', 7), ('5', 5)], IsHexDigitOf p.1 p.2 := by
    simp [IsHexDigitOf]
  have hunit : IsUnitEscape "\\u0075".toList ('u').toNat :=
    .digits (hdigit ('0', 0) (by simp)) (hdigit ('0', 0) (by simp)) (hdigit ('7', 7) (by simp))
      (hdigit ('5', 5) (by simp))
  have hrest : Spells "rl".toList "rl".toList := spells_of_isPlain (by simp; decide)
  exact .cons (.unit hunit) hrest

theorem spells_escapedSlash : Spells "\\/x".toList "/x".toList := by
  have hslash : SpellsChar "\\/".toList '/' := .short (by decide)
  have hrest : Spells "x".toList "x".toList := spells_of_isPlain (by simp; decide)
  exact .cons hslash hrest

/-- The address of a view behind an escaped name. -/
def urlMember : PaddedMember :=
  ⟨⟨"\n".toList, by simp [isGap]⟩, escapedUrl, .none, ⟨.none, literalText "\\/x".toList, .none⟩⟩

/-- A title, another member with the name of a part inside, and the address of the view. -/
def strangeMembers : List PaddedMember :=
  [⟨.none, "title".toList, .none,
      ⟨⟨" ".toList, by simp [isGap]⟩, literalText " Add x".toList, .none⟩⟩,
    ⟨.none, "more".toList, .none, ⟨.none, arrayText .none [⟨.none, objectText .none
      [⟨.none, "title".toList, .none, ⟨.none, "null".toList, .none⟩⟩], .none⟩], .none⟩⟩,
    urlMember]

/-- The text with these members. -/
def strangeText : Text :=
  Padded.text ⟨.none, objectText .none strangeMembers, .none⟩

example : strangeText = "\x7b\"title\": \" Add x\",\"more\":[\x7b\"title\":null\x7d],".toList ++
    "\n\"\\u0075rl\":\"\\/x\"\x7d".toList := by
  decide

/-- A text with two addresses of the view. -/
def doubleText : Text :=
  Padded.text ⟨.none, objectText .none [⟨.none, "url".toList, .none,
    ⟨.none, literalText "/x".toList, .none⟩⟩, urlMember], .none⟩

theorem isTextOf_strangeText :
    IsTextOf { location := "/x".toList, rawTitle := " Add x".toList } strangeText := by
  have htitle : Spells "title".toList "title".toList := spells_of_isPlain (by simp; decide)
  have hmore : IsValue (arrayText .none [⟨.none, objectText .none
      [⟨.none, "title".toList, .none, ⟨.none, "null".toList, .none⟩⟩], .none⟩]) := by
    refine .array .none ?_
    rw [List.forall_mem_singleton]
    refine .object .none ?_ ?_
    · rw [List.forall_mem_singleton]
      exact htitle.isLiteral
    · rw [List.forall_mem_singleton]
      exact .null
  have hmembers : List.Forall₂ (Gives { location := "/x".toList, rawTitle := " Add x".toList })
      strangeMembers (["title", "more", "url"].map String.toList) := by
    refine .cons ?_ (.cons ?_ (.cons ?_ .nil))
    · exact .part htitle (some " Add x".toList) (by simp [parts])
        (.text (spells_of_isPlain (by simp; decide)))
    · exact .other (spells_of_isPlain (by simp; decide)) (by decide) hmore
    · exact .part spells_escapedUrl (some "/x".toList) (by simp [parts]) (.text spells_escapedSlash)
  refine .object rfl hmembers (by decide) ?_
  simp [parts]

theorem repeatsName_doubleText : RepeatsName doubleText := by
  have hurl : Spells "url".toList "url".toList := spells_of_isPlain (by simp; decide)
  have hx : Spells "/x".toList "/x".toList := spells_of_isPlain (by simp; decide)
  refine .object rfl ?_ ?_ (List.Sublist.refl _) (by decide) hurl spells_escapedUrl
  · rw [List.forall_mem_cons, List.forall_mem_singleton]
    exact ⟨hurl.isLiteral, spells_escapedUrl.isLiteral⟩
  · rw [List.forall_mem_cons, List.forall_mem_singleton]
    exact ⟨.string hx.isLiteral, .string spells_escapedSlash.isLiteral⟩

/-- A view is loaded from the first text and none from the second one. -/
theorem loadView_escapedUrl :
    (∃ view, loadView (viewWorld strangeText) "view.json".toList = pure (.ok view) ∧
      view.location = "/x".toList ∧ view.title = "Add x".toList ∧ view.description = [] ∧
      view.ticketAddress = none ∧ view.ticketLabel = [] ∧ view.branch = []) ∧
    ∃ failure, loadView (viewWorld doubleText) "view.json".toList = pure (.error failure) ∧
      failure.causes.head? = some "failed to parse page snapshot \"view.json\"".toList := by
  have hfile : ∀ w, (viewWorld w).fileAt "view.json".toList =
      pure (.octets (Text.octets w)) := fun _ => rfl
  exact ⟨(loadView_by_names (hfile strangeText)).1 _ isTextOf_strangeText,
    (loadView_by_names (hfile doubleText)).2 repeatsName_doubleText⟩

end MergeMessage
