import MergeMessage.Proofs.TicketKept
import MergeMessage.Proofs.TicketMoved
import MergeMessage.Proofs.WrappedReplies

/-!
# Tickets that no one mentioned

Tidying takes things away from a reply, and what it puts in are breaks between ids.  Each step
either cuts a part out between two breaks or leaves a space for a mention, so it brings no id in.
There is one exception.  Outside of Title Case the first letter of a description goes to lowercase,
and if it is the first capital of an id, a shorter id is left: `ECHO-1` becomes `eCHO-1`, which
mentions `CHO-1`.

## Main definitions

* `IsCutFrom` — a part of a text between two breaks.
* `headerIn?` — the header that tidying finds in a reply.
* `LosesCapital` — the description in a reply starts with an id that is shortened.

## Main results

* `isCutFrom_unwrap` — unwrapping cuts a part out.
* `ids_append_blankAfter_sublist` — blanking a ticket brings no id in.
* `mem_ids_messageOfReply_iff` — where the tickets of a message stand.
* `message_mentions_no_other_ticket` — the tickets of a message are known, or shortened.
-/

namespace MergeMessage.Commit

open Subject Text Ticket

/-! ### Parts between breaks -/

/-- The text `part` is cut out of `s`: what stands before it is nothing or ends with a character
that is in no id, and what stands behind it is nothing or starts with one. -/
def IsCutFrom (part s : Text) : Prop :=
  ∃ front back, s = front ++ (part ++ back) ∧ (∀ c ∈ front.getLast?, IsTicketBreak c) ∧
    ∀ c ∈ back.head?, IsTicketBreak c

namespace IsCutFrom

theorem refl (s : Text) : IsCutFrom s s := ⟨[], [], by simp, by simp, by simp⟩

theorem of_front {front s : Text} (h : ∀ c ∈ front.getLast?, IsTicketBreak c) :
    IsCutFrom s (front ++ s) :=
  ⟨front, [], by simp, h, by simp⟩

theorem of_back {back s : Text} (h : ∀ c ∈ back.head?, IsTicketBreak c) :
    IsCutFrom s (s ++ back) :=
  ⟨[], back, by simp, by simp, h⟩

theorem trans {part s t : Text} (hpart : IsCutFrom part s) (hs : IsCutFrom s t) :
    IsCutFrom part t := by
  obtain ⟨front, back, rfl, hfront, hback⟩ := hpart
  obtain ⟨front', back', rfl, hfront', hback'⟩ := hs
  refine ⟨front' ++ front, back ++ back', by simp, fun c hc => ?_, fun c hc => ?_⟩
  · rw [List.getLast?_append, Option.mem_def, Option.or_eq_some_iff] at hc
    exact hc.elim (hfront c) fun hc => hfront' c hc.2
  · rw [List.head?_append, Option.mem_def, Option.or_eq_some_iff] at hc
    exact hc.elim (hback c) fun hc => hback' c hc.2

/-- **A part between breaks** has its own ids. -/
theorem ids_sublist {part s : Text} (h : IsCutFrom part s) : (ids part).Sublist (ids s) := by
  obtain ⟨front, back, rfl, hfront, hback⟩ := h
  have hpart : (ids part).Sublist (ids (part ++ back)) := by
    cases back with
    | nil => rw [List.append_nil]
    | cons c back =>
      rw [ids_append_break (hback c rfl)]
      exact List.sublist_append_left _ _
  refine hpart.trans ?_
  rcases List.eq_nil_or_concat front with rfl | ⟨t, c, rfl⟩
  · rw [List.nil_append]
  · rw [List.concat_eq_append, List.append_assoc, List.singleton_append,
      ids_append_break (hfront c (by simp))]
    exact List.sublist_append_right _ _

end IsCutFrom

/-! ### Unwrapping -/

theorem isCutFrom_trim (s : Text) : IsCutFrom s.trim s := by
  obtain ⟨lead, tail, hlead, htail, hs⟩ := exists_trim_append s
  refine ⟨lead, tail, hs, fun c hc => ?_, fun c hc => ?_⟩
  · exact isTicketBreak_of_isBlank (hlead c (List.mem_of_mem_getLast? hc))
  · exact isTicketBreak_of_isBlank (htail c (List.mem_of_mem_head? hc))

theorem isTicketBreak_backtick : IsTicketBreak '\x60' := ⟨by decide, by decide, by decide⟩

/-- An opening fence ends with one of its marks, or with the line feed of its line. -/
theorem isCutFrom_dropOpeningFence (s : Text) : IsCutFrom (dropOpeningFence s) s := by
  unfold dropOpeningFence
  split
  · exact .refl s
  next rest hrest =>
  obtain rfl := List.isPrefixOf?_eq_some_iff_append_eq.mp hrest
  have hfence : IsCutFrom rest (fence ++ rest) := by
    refine .of_front fun c hc => ?_
    obtain rfl : '\x60' = c := Option.some.inj hc
    exact isTicketBreak_backtick
  split
  next info body hsplit =>
    split
    · exact hfence
    · refine .trans ?_ hfence
      -- the line is what stands before the first line feed
      rcases line_cases rest with hline | ⟨line, more, hline, rfl⟩
      · rw [splitOnce?_of_notMem hline] at hsplit
        simp at hsplit
      · have hcut : splitOnce? (line ++ '\n' :: more) ['\n'] = some (line, more) :=
          splitOnce?_append hline [] more
        rw [hcut] at hsplit
        obtain ⟨rfl, rfl⟩ := Prod.mk.inj (Option.some.inj hsplit)
        rw [List.append_cons]
        refine .of_front fun c hc => ?_
        obtain rfl : '\n' = c := by simpa using hc
        exact isTicketBreak_newline
  · exact hfence

theorem isCutFrom_dropClosingFence (s : Text) : IsCutFrom (dropClosingFence s) s := by
  unfold dropClosingFence
  cases hrest : fence.isSuffixOf? s with
  | none => exact .refl s
  | some rest =>
    obtain rfl := List.isSuffixOf?_eq_some_iff_append_eq.mp hrest
    exact .of_back (by rintro c ⟨⟩; exact isTicketBreak_backtick)

theorem isTicketBreak_of_isQuoteMark {c : Char} (h : isQuoteMark c = true) : IsTicketBreak c := by
  rcases isQuoteMark_iff.mp h with rfl | rfl
  · exact ⟨by decide, by decide, by decide⟩
  · exact ⟨by decide, by decide, by decide⟩

theorem isCutFrom_dropFirstIf {p : Char → Bool} (hp : ∀ c, p c = true → IsTicketBreak c)
    (s : Text) : IsCutFrom (s.dropFirstIf p) s := by
  cases s with
  | nil => exact .refl []
  | cons c s =>
    rw [dropFirstIf]
    split
    · next hc =>
      have hcut : IsCutFrom s ([c] ++ s) := .of_front (by simpa using hp c hc)
      exact hcut
    · exact .refl (c :: s)

theorem isCutFrom_dropLastIf {p : Char → Bool} (hp : ∀ c, p c = true → IsTicketBreak c)
    (s : Text) : IsCutFrom (s.dropLastIf p) s := by
  rcases List.eq_nil_or_concat s with rfl | ⟨t, c, rfl⟩
  · exact .refl []
  · rw [List.concat_eq_append, dropLastIf, List.getLast?_concat]
    dsimp only
    split
    · next hc =>
      rw [List.dropLast_concat]
      exact .of_back (by simpa using hp c hc)
    · exact .refl (t ++ [c])

/-- Before the message stands the colon of the label, or a blank character. -/
theorem isCutFrom_dropLabel (s : Text) : IsCutFrom (dropLabel s) s := by
  unfold dropLabel
  split
  · next hpre =>
    obtain ⟨t, ht⟩ := List.isPrefixOf_iff_prefix.mp hpre
    obtain ⟨l, rest, rfl, hl, -⟩ := List.map_eq_append_iff.mp ht.symm
    have hlen : label.length = l.length := by rw [← hl, List.length_map]
    -- the label ends in a colon, and then blank characters may follow: both end an id
    have hlabel : IsCutFrom rest (l ++ rest) := by
      obtain ⟨u, rfl⟩ := exists_label_concat hl
      refine .of_front fun c hc => ?_
      obtain rfl : ':' = c := by simpa using hc
      exact isTicketBreak_of_isMark (by simp)
    have hblanks : IsCutFrom (rest.dropWhile isBlank)
        (rest.takeWhile isBlank ++ rest.dropWhile isBlank) := by
      refine .of_front fun c hc => ?_
      exact isTicketBreak_of_isBlank (List.mem_takeWhile_imp (List.mem_of_mem_getLast? hc))
    rw [List.takeWhile_append_dropWhile] at hblanks
    rw [hlen, List.drop_left]
    exact hblanks.trans hlabel
  · exact .refl s

/-- **Unwrapping** cuts a part out of a reply. -/
theorem isCutFrom_unwrap (reply : Text) : IsCutFrom (unwrap reply) reply := by
  have hquote : ∀ c, isQuoteMark c = true → IsTicketBreak c := fun c => isTicketBreak_of_isQuoteMark
  have hopen := (isCutFrom_dropOpeningFence reply.trim).trans (isCutFrom_trim reply)
  have hclose := (isCutFrom_dropClosingFence _).trans hopen
  have htrim := (isCutFrom_trim _).trans hclose
  have hfirst := (isCutFrom_dropFirstIf hquote _).trans htrim
  have hlast := (isCutFrom_dropLastIf hquote _).trans hfirst
  exact (isCutFrom_dropLabel _).trans hlast

theorem isCutFrom_firstLine (s : Text) : IsCutFrom (firstLine s) s := by
  rcases line_cases s with hline | ⟨line, rest, hline, rfl⟩
  · rw [firstLine_eq_self hline]
    exact .refl s
  · rw [firstLine_append_newline hline]
    refine .of_back fun c hc => ?_
    obtain rfl : '\n' = c := Option.some.inj hc
    exact isTicketBreak_newline

/-! ### Blanking -/

section

variable {id : Text} (hid : IsTicketId id)

include hid

/-- A whole word stands whole: a capital before it or a digit behind it would belong to the word. -/
theorem IsWordBetween.isWholeBetween {before : Option Char} {rest : Text}
    (h : IsWordBetween before id rest) : IsWholeBetween before rest := by
  constructor
  · intro c hc
    have hword := h.not_isWordChar_before hid c hc
    rw [Bool.eq_false_iff]
    intro hupper
    simp [isWordChar_of_isUpper hupper] at hword
  · intro c hc
    have hword := h.not_isWordChar_after hid c hc
    rw [Bool.eq_false_iff]
    intro hdigit
    simp [isWordChar_of_isDigit hdigit] at hword

/-- A mention in a text is read between the ids before it and those after it. -/
theorem ids_append_mention {w lead tail rest : Text} {before : Option Char}
    (hw : ∀ c ∈ w.getLast?, before = some c) (hm : IsMention id before lead tail rest) :
    ids (w ++ (lead ++ (id ++ (tail ++ rest)))) = ids w ++ id :: ids rest := by
  have hlead : ∀ c ∈ lead, IsTicketBreak c := fun c hc =>
    isTicketBreak_of_isBlank (hm.lead_blank c hc)
  have htail : ∀ c ∈ tail, IsTicketBreak c := fun c hc =>
    isTicketBreak_of_isBlank (hm.tail_blank c hc)
  have hwhole := hm.word.isWholeBetween hid
  have hstart : IsWholeBetween (w ++ lead).getLast? (tail ++ rest) := by
    refine ⟨fun c hc => hwhole.start c ?_, hwhole.stop⟩
    rcases List.eq_nil_or_concat lead with rfl | ⟨t, d, rfl⟩
    · rw [List.append_nil] at hc
      exact hw c hc
    · rw [List.concat_eq_append, ← List.append_assoc, List.getLast?_concat] at hc
      rwa [lastRead_of_ne_nil (by simp), List.concat_eq_append, List.getLast?_concat]
  rw [← List.append_assoc, ids_append_whole hid hstart, ids_append_breaks hlead,
    ids_breaks_append htail]

/-- **Blanking brings no id in.**  A mention leaves a space, and what stays behind it is read as it
was before. -/
theorem ids_append_blankAfter_sublist (before : Option Char) (s : Text) :
    ∀ w, (∀ c ∈ w.getLast?, before = some c) →
      (ids (w ++ blankAfter id before s)).Sublist (ids (w ++ s)) := by
  -- for every text `w` that was kept before, since an id may reach over from there
  induction before, s using mention_induction hid with
  | nil before =>
    intro w hw
    rw [blankAfter_nil hid]
  | mention before lead tail rest hm ih =>
    intro w hw
    have hspace : IsTicketBreak ' ' := isTicketBreak_of_isBlank (by decide)
    have hrest := ih [] (by simp)
    rw [blankAfter_mention hid hm, ids_append_break hspace, ids_append_mention hid hw hm]
    exact (List.Sublist.refl _).append (hrest.cons id)
  | keep before c s hnone ih =>
    intro w hw
    have hstep := ih (w ++ [c]) (by simp)
    rwa [List.append_assoc, List.append_assoc, List.singleton_append, List.singleton_append,
      ← blankAfter_keep hnone] at hstep

end

/-! ### Subjects -/

section

variable {ticket : Option Text} (hticket : ∀ id ∈ ticket, IsTicketId id)

include hticket

theorem ids_bareSubject_sublist (line : Text) :
    (ids (bareSubject ticket line)).Sublist (ids line) := by
  cases ticket with
  | none => exact .refl _
  | some id =>
    have hblank : (ids (blankTicket id line)).Sublist (ids line) :=
      ids_append_blankAfter_sublist (hticket id rfl) none line [] (by simp)
    rwa [bareSubject, dropTicket, ids_collapseBlanks, ids_trim]

/-- The repairs before the header is read bring no id in. -/
theorem ids_repaired_sublist (line : Text) :
    (ids (insertColon (closeScopeGap (bareSubject ticket line)))).Sublist (ids line) := by
  rw [ids_insertColon, ids_closeScopeGap]
  exact ids_bareSubject_sublist hticket line

end

/-- The two parts of a text whose first line is changed are read on their own. -/
theorem ids_mapFirstLine (f : Text → Text) (s : Text) :
    ids (mapFirstLine f s) = ids (f (firstLine s)) ++ ids (s.dropWhile (· ≠ '\n')) := by
  rw [mapFirstLine_eq]
  rcases line_cases s with hline | ⟨line, rest, hline, rfl⟩
  · rw [List.dropWhile_eq_nil_iff.mpr (forall_ne_of_notMem hline), ids_nil, List.append_nil,
      List.append_nil]
  · rw [dropWhile_append_stop (forall_ne_of_notMem hline) (by simp),
      ids_append_break isTicketBreak_newline, ids_break_cons isTicketBreak_newline]

theorem ids_firstLine_append_ids (s : Text) :
    ids (firstLine s) ++ ids (s.dropWhile (· ≠ '\n')) = ids s := by
  have hsame := ids_mapFirstLine (fun line => line) s
  rw [mapFirstLine_eq_self rfl] at hsame
  exact hsame.symm

/-! ### The message in a reply -/

/-- The header that tidying finds in a reply, once the ticket is gone from the first line. -/
def headerIn? (ticket : Option Text) (reply : Text) : Option Header :=
  looseHeader? (insertColon (closeScopeGap (bareSubject ticket (firstLine (unwrap reply)))))

/-- The description in a reply starts with the capital `c` and `id`, which make up a longer id.  It
is not in Title Case, so `c` goes to lowercase. -/
structure LosesCapital (ticket : Option Text) (reply : Text) (c : Char) (id : Text) : Prop where
  form : IsTicketId id
  upper : c.isUpper = true
  header : ∃ h ∈ headerIn? ticket reply, ∃ rest, h.description = c :: (id ++ rest) ∧
    StopsAt Char.isDigit rest ∧ isTitleCased (h.description.pieces ' ') = false

/-- A repaired header has the ids of what is left of its description. -/
theorem ids_tidySubject {ticket : Option Text} {reply : Text} {h : Header}
    (hs : headerIn? ticket reply = some h) :
    ids (tidySubject ticket (firstLine (unwrap reply))) = ids (readPart h.description) := by
  unfold headerIn? at hs
  rw [tidySubject_eq, hs]
  dsimp only
  rw [ids_tidyHeader, ids_tidyDescription]

section

variable {ticket : Option Text} (hticket : ∀ id ∈ ticket, IsTicketId id) {reply : Text}

include hticket

/-- The ids of the reply's header were read in its first line. -/
theorem ids_headerIn?_sublist {h : Header} (hs : headerIn? ticket reply = some h) :
    (ids h.description).Sublist (ids (firstLine (unwrap reply))) :=
  (ids_description_sublist hs).trans (ids_repaired_sublist hticket _)

/-- **A repaired subject** mentions what the first line mentioned, or what is left of an id that
lost its first capital. -/
theorem mem_ids_tidySubject {id : Text}
    (hm : id ∈ ids (tidySubject ticket (firstLine (unwrap reply)))) :
    id ∈ ids (firstLine (unwrap reply)) ∨ ∃ c, LosesCapital ticket reply c id := by
  have hid := isTicketId_of_mem_ids hm
  cases hs : headerIn? ticket reply with
  | none =>
    unfold headerIn? at hs
    rw [tidySubject_eq, hs] at hm
    exact Or.inl ((ids_repaired_sublist hticket _).mem hm)
  | some h =>
    rw [ids_tidySubject hs] at hm
    have hdesc := ids_headerIn?_sublist hticket hs
    -- only outside of Title Case does a letter at the start of the description change
    cases htitle : isTitleCased (h.description.pieces ' ') with
    | true =>
      rw [readPart, if_pos htitle] at hm
      exact Or.inl (hdesc.mem hm)
    | false =>
      rw [readPart, if_neg (by simp [htitle])] at hm
      rcases mentions_of_tail hid (mentions_iff.mpr hm) with hm | ⟨c, rest, hc, hrest, heq⟩
      · exact Or.inl (hdesc.mem (mentions_iff.mp hm))
      · exact Or.inr ⟨c, hid, hc, h, hs, rest, heq, hrest, htitle⟩

/-- A footer has the ticket for its one id. -/
theorem mem_ids_withFooter_iff {message id : Text} :
    id ∈ ids (withFooter ticket message) ↔ id ∈ ids message ∨ id ∈ ticket := by
  cases ticket with
  | none => simp [withFooter]
  | some t =>
    have ht : id ∈ some t ↔ id = t := by rw [Option.mem_some_iff, eq_comm]
    rw [ht]
    cases hm : mentions message t with
    | true =>
      rw [withFooter_of_mentions hm]
      refine (or_iff_left_of_imp ?_).symm
      rintro rfl
      exact mentions_iff.mp hm
    | false =>
      rw [withFooter_of_not_mentions hm, ids_footer (hticket t rfl), List.mem_append,
        List.mem_singleton]

/-- The message has the ids of its repaired subject, those of the other lines, and the ticket. -/
theorem mem_ids_messageOfReply_iff {id : Text} :
    id ∈ ids (messageOfReply reply ticket) ↔
      (id ∈ ids (tidySubject ticket (firstLine (unwrap reply))) ∨
        id ∈ ids ((unwrap reply).dropWhile (· ≠ '\n'))) ∨ id ∈ ticket := by
  rw [messageOfReply_eq, mem_ids_withFooter_iff hticket, bodyOfReply, ids_mapFirstLine,
    List.mem_append]

end

namespace LosesCapital

variable {ticket : Option Text} {reply : Text} {c : Char} {id : Text}
  (h : LosesCapital ticket reply c id)

include h

/-- With its capital, the id is one. -/
theorem isTicketId_cons : IsTicketId (c :: id) := by
  obtain ⟨project, number, hp, hn, hproject, hnumber, rfl⟩ := h.form
  exact ⟨c :: project, number, by simp, hn, List.forall_mem_cons.mpr ⟨h.upper, hproject⟩, hnumber,
    rfl⟩

/-- The longer id was read in the first line. -/
theorem mem_ids_firstLine (hticket : ∀ id ∈ ticket, IsTicketId id) :
    c :: id ∈ ids (firstLine (unwrap reply)) := by
  obtain ⟨header, hs, rest, hdesc, hrest, -⟩ := h.header
  refine (ids_headerIn?_sublist hticket hs).mem ?_
  rw [hdesc, ← List.cons_append, ids_append h.isTicketId_cons hrest]
  exact List.mem_cons_self

/-- The shorter id is read in the repaired subject. -/
theorem mem_ids_tidySubject : id ∈ ids (tidySubject ticket (firstLine (unwrap reply))) := by
  obtain ⟨header, hs, rest, hdesc, hrest, htitle⟩ := h.header
  rw [ids_tidySubject hs, readPart, if_neg (by simp [htitle]), hdesc, List.tail_cons,
    ids_append h.form hrest]
  exact List.mem_cons_self

end LosesCapital

/-- **The tickets of a message** are those of the reply and the one that was asked for.  There is
one exception: a description that starts with an id and is not in Title Case loses its first
capital, and then the message mentions the shorter id instead. -/
theorem message_mentions_no_other_ticket {ticket : Option Text}
    (hticket : ∀ id ∈ ticket, IsTicketId id) (reply : Text) :
    (∀ id, mentions (messageOfReply reply ticket) id = true →
      id ∈ ticket ∨ mentions reply id = true ∨ ∃ c, LosesCapital ticket reply c id) ∧
    ∀ c id, LosesCapital ticket reply c id →
      mentions (messageOfReply reply ticket) id = true ∧ mentions reply (c :: id) = true := by
  have hunwrap := (isCutFrom_unwrap reply).ids_sublist
  have hline := (isCutFrom_firstLine (unwrap reply)).ids_sublist.trans hunwrap
  constructor
  · intro id hm
    rw [mentions_iff, mem_ids_messageOfReply_iff hticket] at hm
    rw [mentions_iff]
    -- an id of the message stands in its subject, below it, or is the ticket of the footer
    rcases hm with (hm | hm) | hm
    · rcases mem_ids_tidySubject hticket hm with hm | hlost
      · exact Or.inr (Or.inl (hline.mem hm))
      · exact Or.inr (Or.inr hlost)
    · have hrest : id ∈ ids (unwrap reply) := by
        rw [← ids_firstLine_append_ids]
        exact List.mem_append_right _ hm
      exact Or.inr (Or.inl (hunwrap.mem hrest))
    · exact Or.inl hm
  · intro c id hlost
    rw [mentions_iff, mentions_iff]
    constructor
    · rw [mem_ids_messageOfReply_iff hticket]
      exact Or.inl (Or.inl hlost.mem_ids_tidySubject)
    · exact hline.mem (hlost.mem_ids_firstLine hticket)

/-- An id at the start of a description is shortened. -/
theorem message_mentions_shortened :
    mentions "feat: ECHO-1 helps".toList "CHO-1".toList = false ∧
      LosesCapital none "feat: ECHO-1 helps".toList 'E' "CHO-1".toList ∧
      mentions (messageOfReply "feat: ECHO-1 helps".toList none) "CHO-1".toList = true := by
  have hform : IsTicketId "CHO-1".toList :=
    ⟨"CHO".toList, "1".toList, by decide, by decide, List.all_eq_true.mp (by decide),
      List.all_eq_true.mp (by decide), rfl⟩
  have hheader : headerIn? none "feat: ECHO-1 helps".toList =
      some ⟨"feat".toList, none, false, "ECHO-1 helps".toList⟩ := by decide
  have hlost : LosesCapital none "feat: ECHO-1 helps".toList 'E' "CHO-1".toList :=
    ⟨hform, by decide, _, hheader, " helps".toList, rfl, by simp, by decide⟩
  have hmessage :=
    (message_mentions_no_other_ticket (by simp) "feat: ECHO-1 helps".toList).2 _ _ hlost
  exact ⟨by decide, hlost, hmessage.1⟩

/-- In Title Case, ids stay as they are. -/
example : messageOfReply "feat: ECHO-1 Helps".toList none = "feat: ECHO-1 helps".toList := by decide

end MergeMessage.Commit
