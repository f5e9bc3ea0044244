import MergeMessage.Proofs.Texts
import MergeMessage.Provider.Prompt

/-!
# The parts of a prompt

A prompt is put together from the rules and the parts that have something to say, and then trimmed as
a whole.  The rules start and every part ends, up to the fixed text that closes it, with a character
that is not blank, so trimming takes off no more than blank characters of the last closing text or
label.  What is known of the pull request comes through in full.

## Main definitions

* `PromptPart` — a text between a label and a closing text.
* `promptParts` — the parts of a prompt, in their order.

## Main results

* `isPrefix_trim` — a beginning without blank ends stays when the whole is trimmed.
* `exists_trim_append_of_trimmed` — behind a trimmed beginning, only the end is trimmed.
* `exists_buildPrompt_append` — what stands behind the rules.
* `isPrefix_buildPrompt` — no part loses anything of its text.
* `buildPrompt_keeps_parts` — a prompt has all its parts and nothing else.
-/

namespace MergeMessage

namespace Text

/-- Joined words start as the first one does. -/
theorem head?_join {word : Text} (h : word ≠ []) (sep : Text) (words : List Text) :
    (join sep (word :: words)).head? = word.head? := by
  rw [join_cons_eq_flatMap, List.head?_append_of_ne_nil _ h]

/-- Joined words end as the last one does. -/
theorem getLast?_join {words : List Text} {word : Text} (hlast : words.getLast? = some word)
    (h : word ≠ []) (sep : Text) : (join sep words).getLast? = word.getLast? := by
  obtain ⟨front, rfl⟩ := List.getLast?_eq_some_iff.mp hlast
  cases front with
  | nil => simp [join]
  | cons first front =>
    rw [List.cons_append, join_cons_eq_flatMap, List.flatMap_append, List.flatMap_singleton,
      ← List.append_assoc, ← List.append_assoc, List.getLast?_append_of_ne_nil _ h]

/-- A beginning without blank ends stays when the whole is trimmed. -/
theorem isPrefix_trim {s t : Text} (hs : trim s = s) (h : s <+: t) : s <+: trim t := by
  obtain ⟨more, rfl⟩ := h
  rcases List.eq_nil_or_concat s with rfl | ⟨front, c, rfl⟩
  · exact List.nil_prefix
  · obtain ⟨hstart, hlast⟩ := trim_eq_self_iff.mp hs
    rw [List.concat_eq_append] at *
    have hc : isBlank c = false := hlast c (by simp)
    have hstop : StopsAt isBlank (front ++ [c] ++ more) := by
      rw [List.append_assoc, List.singleton_append, stopsAt_append_cons hc]
      exact (stopsAt_append_cons hc front []).mp hstart
    rw [trim, trimBy, dropWhile_of_stopsAt hstop, List.append_assoc, List.singleton_append,
      dropEndWhile_append_stop hc]
    exact ⟨dropEndWhile isBlank more, by simp⟩

/-- Behind a beginning without blank ends, only blank characters at the end are trimmed. -/
theorem exists_trim_append_of_trimmed {s t : Text} (hs : trim s = s) (hne : s ≠ [])
    (h : s <+: t) : ∃ blanks, (∀ c ∈ blanks, isBlank c = true) ∧ t = trim t ++ blanks := by
  obtain ⟨more, rfl⟩ := h
  obtain ⟨c, s, rfl⟩ := List.exists_cons_of_ne_nil hne
  have hstop : StopsAt isBlank (c :: s ++ more) := by
    simpa using (trim_eq_self_iff.mp hs).1
  obtain ⟨blanks, hblanks, heq⟩ := exists_dropEndWhile_append isBlank (c :: s ++ more)
  exact ⟨blanks, hblanks, by rw [trim, trimBy, dropWhile_of_stopsAt hstop, ← heq]⟩

/-- A text between two ends that are neither empty nor blank at theirs is trimmed. -/
theorem trim_append_of_trimmed {s t : Text} (hs : trim s = s) (hs' : s ≠ []) (ht : trim t = t)
    (ht' : t ≠ []) (middle : Text) : trim (s ++ (middle ++ t)) = s ++ (middle ++ t) := by
  obtain ⟨c, s, rfl⟩ := List.exists_cons_of_ne_nil hs'
  rw [trim_eq_self_iff] at hs ht ⊢
  refine ⟨by simpa using hs.1, fun d hd => ht.2 d ?_⟩
  rwa [List.getLast?_append_of_ne_nil _ (by simp [ht']), List.getLast?_append_of_ne_nil _ ht'] at hd

end Text

open Text

/-- A text between a label and a closing text. -/
structure PromptPart where
  /-- The label before the text. -/
  label : Text
  /-- The text. -/
  text : Text
  /-- What follows the text. -/
  closing : Text

/-- The part as it is written: the text without blanks at its ends between the fixed texts. -/
def PromptPart.render (part : PromptPart) : Text :=
  part.label ++ (part.text.trim ++ part.closing)

/-- Does the part say anything? -/
def PromptPart.speaks (part : PromptPart) : Bool := !part.text.trim.isEmpty

/-- The parts of a prompt in their order: the title always, and the others if they say anything. -/
def promptParts (notes title description : Text) (ticketTitle : Option Text) : List PromptPart :=
  [⟨"User's notes (prioritize this over the PR details):\n".toList, notes, "\n\n".toList⟩].filter
      PromptPart.speaks ++
    ⟨"PR Title: ".toList, title, "\n".toList⟩ ::
      [⟨"Ticket Title: ".toList, ticketTitle.getD [], "\n".toList⟩,
        ⟨"\nPR Description:\n".toList, description, []⟩].filter PromptPart.speaks

/-! ### The whole prompt -/

theorem head?_commitRules : commitRules.head? = some 'G' := by
  rw [commitRules, List.map_cons, head?_join (by decide)]
  rfl

theorem commitRules_ne_nil : commitRules ≠ [] := by
  rintro hnil
  simpa [hnil] using head?_commitRules

/-- The rules start and end with characters that are not blank. -/
theorem trim_commitRules : trim commitRules = commitRules := by
  have hlast : commitRules.getLast? = some '5' := by
    rw [commitRules, getLast?_join rfl (by decide)]
    decide
  rw [trim_eq_self_iff, StopsAt, head?_commitRules, hlast]
  exact ⟨by simp; decide, by simp; decide⟩

/-- A section of a prompt is a part of it, if the part says anything. -/
theorem promptSection_eq (label : String) (text : Text) (closing : String) :
    promptSection label text closing =
      ([⟨label.toList, text, closing.toList⟩].filter PromptPart.speaks).flatMap
        PromptPart.render := by
  unfold promptSection
  cases h : (trim text).isEmpty <;> simp [h, PromptPart.speaks, PromptPart.render]

/-- Blank characters at the ends of its text make no difference to a section. -/
theorem promptSection_trim (label : String) (text : Text) (closing : String) :
    promptSection label text.trim closing = promptSection label text closing := by
  rw [promptSection, trim_trim, promptSection]

/-- A prompt is the trimmed text of the rules and its parts. -/
theorem buildPrompt_eq (notes title description : Text) (ticketTitle : Option Text) :
    buildPrompt notes title description ticketTitle = trim (commitRules ++ ("\n\n".toList ++
      (promptParts notes title description ticketTitle).flatMap PromptPart.render)) := by
  have hpair : ∀ p q : PromptPart, [p, q].filter PromptPart.speaks =
      [p].filter PromptPart.speaks ++ [q].filter PromptPart.speaks := fun p q =>
    List.filter_append [p] [q]
  simp only [buildPrompt, promptSection_eq, promptParts, hpair, List.flatMap_append,
    List.flatMap_cons, PromptPart.render, String.toList_empty, List.append_assoc]

section

variable (notes title description : Text) (ticketTitle : Option Text)

/-- Blank characters at the ends of the texts make no difference, and a blank ticket title is as good
as none. -/
theorem buildPrompt_trim : buildPrompt notes title description ticketTitle =
    buildPrompt notes.trim title.trim description.trim
      ((ticketTitle.map trim).filter (· ≠ [])) := by
  have hticket : ((ticketTitle.map trim).filter (· ≠ [])).getD [] =
      (ticketTitle.getD []).trim := by
    cases ticketTitle with
    | none => rfl
    | some t => by_cases ht : t.trim = [] <;> simp [Option.filter, ht]
  rw [buildPrompt, buildPrompt, hticket, promptSection_trim, promptSection_trim,
    promptSection_trim, trim_trim]

/-- Behind the rules stand the parts, up to blank characters at the end. -/
theorem exists_buildPrompt_append :
    ∃ body blanks, buildPrompt notes title description ticketTitle = commitRules ++ body ∧
      (∀ c ∈ blanks, isBlank c = true) ∧ body ++ blanks = "\n\n".toList ++
        (promptParts notes title description ticketTitle).flatMap PromptPart.render := by
  have hwhole := buildPrompt_eq notes title description ticketTitle
  obtain ⟨blanks, hblanks, heq⟩ := exists_trim_append_of_trimmed trim_commitRules
    commitRules_ne_nil (List.prefix_append commitRules ("\n\n".toList ++
      (promptParts notes title description ticketTitle).flatMap PromptPart.render))
  rw [← hwhole] at heq
  obtain ⟨body, hbody⟩ : commitRules <+: buildPrompt notes title description ticketTitle :=
    hwhole ▸ isPrefix_trim trim_commitRules (List.prefix_append _ _)
  refine ⟨body, blanks, hbody.symm, hblanks, ?_⟩
  rw [← hbody, List.append_assoc] at heq
  exact (List.append_cancel_left heq).symm

variable {notes title description ticketTitle}

/-- Up to the end of the text of a part that says anything, nothing is trimmed. -/
theorem isPrefix_buildPrompt {front back : List PromptPart} {part : PromptPart}
    (hparts : promptParts notes title description ticketTitle = front ++ part :: back)
    (hspeaks : part.speaks = true) :
    commitRules ++ ("\n\n".toList ++ (front.flatMap PromptPart.render ++
      (part.label ++ part.text.trim))) <+: buildPrompt notes title description ticketTitle := by
  have htext : part.text.trim ≠ [] := by simpa [PromptPart.speaks] using hspeaks
  have hsplit : commitRules ++ ("\n\n".toList ++ (front.flatMap PromptPart.render ++
      (part.label ++ part.text.trim))) = commitRules ++ (("\n\n".toList ++
        (front.flatMap PromptPart.render ++ part.label)) ++ part.text.trim) := by
    simp only [List.append_assoc]
  have htrim := trim_append_of_trimmed trim_commitRules commitRules_ne_nil (trim_trim part.text)
    htext ("\n\n".toList ++ (front.flatMap PromptPart.render ++ part.label))
  rw [buildPrompt_eq, hparts]
  refine isPrefix_trim (by rw [hsplit, htrim])
    ⟨part.closing ++ back.flatMap PromptPart.render, ?_⟩
  simp only [List.flatMap_append, List.flatMap_cons, PromptPart.render, List.append_assoc]

end

/-- **The parts of a prompt.**  A prompt is that of its trimmed texts, and a blank ticket title is as
good as none.  It is trimmed and starts with the rules.  Behind them come, up to blank characters at
its very end, exactly the parts that say anything and the title, in their order; and up to the last
character of its text each of these parts is there, so nothing of a text is lost at the end. -/
theorem buildPrompt_keeps_parts (notes title description : Text) (ticketTitle : Option Text) :
    buildPrompt notes title description ticketTitle = buildPrompt notes.trim title.trim
        description.trim ((ticketTitle.map trim).filter (· ≠ [])) ∧
    trim (buildPrompt notes title description ticketTitle) =
      buildPrompt notes title description ticketTitle ∧
    (∃ body blanks, buildPrompt notes title description ticketTitle = commitRules ++ body ∧
      (∀ c ∈ blanks, isBlank c = true) ∧ body ++ blanks = "\n\n".toList ++
        (promptParts notes title description ticketTitle).flatMap PromptPart.render) ∧
    ∀ front part back, promptParts notes title description ticketTitle = front ++ part :: back →
      part.speaks = true →
        commitRules ++ ("\n\n".toList ++ (front.flatMap PromptPart.render ++
          (part.label ++ part.text.trim))) <+: buildPrompt notes title description ticketTitle := by
  refine ⟨buildPrompt_trim .., ?_, exists_buildPrompt_append .., ?_⟩
  · rw [buildPrompt_eq, trim_trim]
  · intro front part back hparts hspeaks
    exact isPrefix_buildPrompt hparts hspeaks

/-- A description at the end of a prompt loses the blank characters at its ends only. -/
theorem buildPrompt_keeps_description :
    promptParts [] "Fix auth".toList "  It failed. \n".toList none =
        [⟨"PR Title: ".toList, "Fix auth".toList, "\n".toList⟩] ++
          [⟨"\nPR Description:\n".toList, "  It failed. \n".toList, []⟩] ∧
      commitRules ++ "\n\nPR Title: Fix auth\n\nPR Description:\nIt failed.".toList <+:
        buildPrompt [] "Fix auth".toList "  It failed. \n".toList none := by
  have hparts : promptParts [] "Fix auth".toList "  It failed. \n".toList none =
      [⟨"PR Title: ".toList, "Fix auth".toList, "\n".toList⟩] ++
        [⟨"\nPR Description:\n".toList, "  It failed. \n".toList, []⟩] := rfl
  have hshown : "\n\nPR Title: Fix auth\n\nPR Description:\nIt failed.".toList = "\n\n".toList ++
      (PromptPart.render ⟨"PR Title: ".toList, "Fix auth".toList, "\n".toList⟩ ++
        ("\nPR Description:\n".toList ++ trim "  It failed. \n".toList)) := by decide
  refine ⟨hparts, ?_⟩
  have hkept := (buildPrompt_keeps_parts _ _ _ _).2.2.2 _ _ _ hparts (by decide)
  rw [List.flatMap_singleton] at hkept
  rw [hshown]
  exact hkept

end MergeMessage
