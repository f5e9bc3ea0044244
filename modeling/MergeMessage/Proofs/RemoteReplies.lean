import MergeMessage.Proofs.JsonRecords
import MergeMessage.Proofs.OneBackend

/-!
# What a reply leads to

A reply of the remote service has a status and a body, and the body may be anything.  Which outcome
it leads to can be said without the readers of bodies: a refusal is reported in the words of the
service if the body has any, a completed chat counts by its first choice, and no other body is
understood.  Only the status tells a refusal from a completed chat, whatever the body looks like.

## Main definitions

* `SaysError`, `IsCompletion` — the two forms of a body that matter.
* `LeadsTo` — what a reply, or the failure to get one, leads to.

## Main results

* `errorText?_eq_some_iff`, `completion?_eq_some_iff` — the readers take just these forms.
* `leadsTo_generatedOf` — every reply leads to its outcome.
* `one_reply_leads_to_outcome` — one request is sent, and the reply to it settles the outcome.
-/

namespace MergeMessage.Remote

open Text Json

/-! ### Bodies -/

/-- A record with an error, which is a record with the words of the service. -/
def SaysError (j : Json) (words : Text) : Prop :=
  ∃ error, IsRecord ["error".toList] j [.value error] ∧
    IsRecord ["message".toList] error [.value (.text words)]

/-- A record with a message, which is a record with a content that may be null or left out. -/
def IsChoice (j : Json) (content : Option Text) : Prop :=
  ∃ message slot, IsRecord ["message".toList] j [.value message] ∧
    IsRecord ["content".toList] message [slot] ∧ IsOptional (fun j s => j = .text s) slot content

/-- A whole number of 32 bits. -/
def IsTokenCount (j : Json) (n : ℕ) : Prop := j = .number (ofNat n) ∧ n < 2 ^ 32

/-- A record with three numbers of tokens. -/
def IsUsage (j : Json) (usage : Usage) : Prop :=
  ∃ prompt completion total,
    IsRecord ["prompt_tokens".toList, "completion_tokens".toList, "total_tokens".toList] j
      [.value prompt, .value completion, .value total] ∧
    IsTokenCount prompt usage.prompt ∧ IsTokenCount completion usage.completion ∧
    IsTokenCount total usage.total

/-- A field with a list of choices, which is empty if the field is left out. -/
inductive HasChoices : Slot → List (Option Text) → Prop
  /-- The object has no such member. -/
  | missing : HasChoices .missing []
  /-- The array ended before this field. -/
  | ended : HasChoices .ended []
  /-- The field is an array of choices. -/
  | array (items : List Json) (contents : List (Option Text))
      (h : List.Forall₂ IsChoice items contents) : HasChoices (.value (.array items)) contents

/-- A record with choices, and with a usage that may be null or left out. -/
def IsCompletion (j : Json) (completion : Completion) : Prop :=
  ∃ choices usage, IsRecord ["choices".toList, "usage".toList] j [choices, usage] ∧
    HasChoices choices completion.choices ∧ IsOptional IsUsage usage completion.usage

/-- The text holds a value of the kind `P`. -/
def Holds (P : Json → Prop) (body : Text) : Prop := ∃ j, ofStrict? body = some j ∧ P j

/-! ### Outcomes -/

/-- What a reply of the service, or the failure to get one, leads to. -/
inductive LeadsTo : Except Failure ChatReply → Generated → Prop
  /-- Nothing came back. -/
  | unsent (failure : Failure) : LeadsTo (.error failure) (.error (.requestFailed failure.chain))
  /-- The service refuses, in words that are not blank. -/
  | refusedInWords (reply : ChatReply) (words : Text) (hstatus : isSuccess reply.status = false)
      (hbody : Holds (SaysError · words) reply.body) (hwords : isAllBlank words = false) :
      LeadsTo (.ok reply) (.error (.requestFailed words))
  /-- The service refuses without a word. -/
  | refused (reply : ChatReply) (hstatus : isSuccess reply.status = false)
      (hbody : ∀ words, Holds (SaysError · words) reply.body → isAllBlank words = true) :
      LeadsTo (.ok reply)
        (.error (.requestFailed ("OpenAI API error: ".toList ++ ofNat reply.status)))
  /-- The body is not understood. -/
  | unreadable (reply : ChatReply) (reason : Text) (hstatus : isSuccess reply.status = true)
      (hbody : ∀ completion, ¬Holds (IsCompletion · completion) reply.body)
      (hreason : "failed to parse OpenAI response:".toList <+: reason) :
      LeadsTo (.ok reply) (.error (.requestFailed reason))
  /-- There is no first choice, or it has no content, or a blank one. -/
  | nothing (reply : ChatReply) (completion : Completion) (hstatus : isSuccess reply.status = true)
      (hbody : Holds (IsCompletion · completion) reply.body)
      (hfirst : ∀ content, completion.choices.head? = some (some content) →
        isAllBlank content = true) : LeadsTo (.ok reply) (.ok none)
  /-- The first choice has a content that is not blank. -/
  | message (reply : ChatReply) (completion : Completion) (content : Text)
      (hstatus : isSuccess reply.status = true)
      (hbody : Holds (IsCompletion · completion) reply.body)
      (hfirst : completion.choices.head? = some (some content))
      (hcontent : isAllBlank content = false) : LeadsTo (.ok reply) (.ok (some content.trim))

/-- Two completed chats that agree on the content of the first choice, whatever else they hold. -/
def SameFirstChoice (reply reply' : Except Failure ChatReply) : Prop :=
  ∃ r r' completion completion', reply = .ok r ∧ reply' = .ok r' ∧
    isSuccess r.status = true ∧ isSuccess r'.status = true ∧
    Holds (IsCompletion · completion) r.body ∧ Holds (IsCompletion · completion') r'.body ∧
    completion.choices.head?.join = completion'.choices.head?.join

/-! ### The readers of bodies -/

theorem slots?_eq_some_iff {keys : List String} {j : Json} {slots : List Slot} :
    slots? keys j = some slots ↔ IsRecord (keys.map String.toList) j slots := record?_eq_some_iff

/-- A record of one field is read field by field. -/
theorem field?_eq_some_iff {α : Type} {key : String} {j : Json} {read : Slot → Option α} {a : α} :
    ((slots? [key] j).bind fun slots => match slots with
      | [slot] => read slot
      | _ => none) = some a ↔ ∃ slot, IsRecord [key.toList] j [slot] ∧ read slot = some a := by
  rw [Option.bind_eq_some_iff]
  constructor
  · rintro ⟨slots, hslots, h⟩
    split at h
    · next slot => exact ⟨slot, slots?_eq_some_iff.mp hslots, h⟩
    · simp at h
  · rintro ⟨slot, hslot, h⟩
    exact ⟨[slot], slots?_eq_some_iff.mpr hslot, h⟩

/-- A record of one text, which may be null or left out. -/
theorem textField?_eq_some_iff {key : String} {j : Json} {content : Option Text} :
    ((slots? [key] j).bind fun slots => match slots with
      | [slot] => slot.optional? text?
      | _ => none) = some content ↔ ∃ slot, IsRecord [key.toList] j [slot] ∧
        IsOptional (fun j s => j = .text s) slot content := by
  refine field?_eq_some_iff.trans ?_
  refine exists_congr fun slot => and_congr_right fun _ => ?_
  exact Slot.optional?_eq_some_iff fun _ _ => text?_eq_some_iff

/-- **The words of a refusal** are read from just the bodies that say them. -/
theorem errorText?_eq_some_iff {j : Json} {words : Text} :
    errorText? j = some (some words) ↔ SaysError j words := by
  unfold errorText?
  refine field?_eq_some_iff.trans ?_
  simp only [Option.bind_eq_bind, Option.bind_eq_some_iff, Option.pure_def, Option.some.injEq]
  constructor
  · rintro ⟨slot, herror, said, hsaid, hjoin⟩
    obtain rfl := Option.join_eq_some_iff.mp hjoin
    cases (Slot.optional?_eq_some_iff fun _ _ => textField?_eq_some_iff).mp hsaid with
    | value error said hne h =>
      obtain ⟨slot, hmessage, h⟩ := h
      cases h with
      | value j s hne h =>
        subst h
        exact ⟨error, herror, hmessage⟩
  · rintro ⟨error, herror, hmessage⟩
    -- an error that is null counts as none, and has no message
    have hne : error ≠ .null := by
      rintro rfl
      cases hmessage
    have hwords : IsOptional (fun j s => j = .text s) (.value (.text words)) (some words) :=
      .value _ _ (by simp [text]) rfl
    have hsaid := textField?_eq_some_iff.mpr ⟨_, hmessage, hwords⟩
    refine ⟨.value error, herror, some (some words), ?_, rfl⟩
    exact (Slot.optional?_eq_some_iff fun _ _ => Iff.rfl).mpr (.value error (some words) hne hsaid)

/-- A choice is read from just the values that are one. -/
theorem choice?_eq_some_iff {j : Json} {content : Option Text} :
    choice? j = some content ↔ IsChoice j content := by
  unfold choice?
  refine field?_eq_some_iff.trans ?_
  simp only [Slot.required?_eq_some_iff]
  constructor
  · rintro ⟨slot, hmessage, message, rfl, h⟩
    obtain ⟨slot, hcontent, h⟩ := textField?_eq_some_iff.mp h
    exact ⟨message, slot, hmessage, hcontent, h⟩
  · rintro ⟨message, slot, hmessage, hcontent, h⟩
    exact ⟨.value message, hmessage, message, rfl,
      textField?_eq_some_iff.mpr ⟨slot, hcontent, h⟩⟩

/-- A number of tokens is read from just the numbers that are one. -/
theorem tokens?_eq_some_iff {j : Json} {n : ℕ} : tokens? j = some n ↔ IsTokenCount j n :=
  natBelow?_eq_some_iff

/-- A usage is read from just the values that are one. -/
theorem usage?_eq_some_iff {j : Json} {usage : Usage} :
    usage? j = some usage ↔ IsUsage j usage := by
  unfold usage?
  simp only [Option.bind_eq_bind, Option.bind_eq_some_iff, slots?_eq_some_iff]
  constructor
  · -- `slots?` gives a slot for each of the three names, in their order
    rintro ⟨slots, hslots, h⟩
    split at h
    · next prompt completion total =>
      simp only [Option.bind_eq_some_iff, Slot.required?_eq_some_iff, Option.pure_def,
        Option.some.injEq] at h
      obtain ⟨p, ⟨prompt, rfl, hp⟩, c, ⟨completion, rfl, hc⟩, t, ⟨total, rfl, ht⟩, rfl⟩ := h
      exact ⟨prompt, completion, total, hslots, tokens?_eq_some_iff.mp hp,
        tokens?_eq_some_iff.mp hc, tokens?_eq_some_iff.mp ht⟩
    · simp at h
  · rintro ⟨prompt, completion, total, hslots, hp, hc, ht⟩
    refine ⟨_, hslots, ?_⟩
    simp [Slot.required?, tokens?_eq_some_iff.mpr hp, tokens?_eq_some_iff.mpr hc,
      tokens?_eq_some_iff.mpr ht]

/-- Choices are read from just the fields that have them. -/
theorem choices?_eq_some_iff {slot : Slot} {contents : List (Option Text)} :
    slot.defaulted? (fun j => do (← j.items).mapM choice?) [] = some contents ↔
      HasChoices slot contents := by
  constructor
  · intro h
    cases slot with
    | missing =>
      obtain rfl := Option.some.inj h
      exact .missing
    | ended =>
      obtain rfl := Option.some.inj h
      exact .ended
    | value j =>
      obtain ⟨items, hitems, h⟩ := Option.bind_eq_some_iff.mp h
      obtain rfl := items_eq_some_iff.mp hitems
      exact .array items contents ((mapM_eq_some_iff.mp h).imp fun _ _ => choice?_eq_some_iff.mp)
  · intro h
    cases h with
    | missing => rfl
    | ended => rfl
    | array items contents h =>
      exact mapM_eq_some_iff.mpr (h.imp fun _ _ => choice?_eq_some_iff.mpr)

/-- **Completed chats** are read from just the bodies that hold them. -/
theorem completion?_eq_some_iff {j : Json} {completion : Completion} :
    completion? j = some completion ↔ IsCompletion j completion := by
  unfold completion?
  simp only [Option.bind_eq_bind, Option.bind_eq_some_iff, slots?_eq_some_iff]
  constructor
  · rintro ⟨slots, hslots, h⟩
    split at h
    · next choices usage =>
      simp only [Option.bind_eq_some_iff, Option.pure_def, Option.some.injEq] at h
      obtain ⟨contents, hcontents, spent, hspent, rfl⟩ := h
      exact ⟨choices, usage, hslots, choices?_eq_some_iff.mp hcontents,
        (Slot.optional?_eq_some_iff fun _ _ => usage?_eq_some_iff).mp hspent⟩
    · simp at h
  · rintro ⟨choices, usage, hslots, hchoices, husage⟩
    refine ⟨_, hslots, ?_⟩
    have hcontents := choices?_eq_some_iff.mpr hchoices
    have hspent := (Slot.optional?_eq_some_iff fun _ _ => usage?_eq_some_iff).mpr husage
    simp only [Option.bind_eq_bind] at hcontents
    simp [hcontents, hspent]

section

variable {body : Text}

theorem errorText?_body_iff {words : Text} :
    ((ofStrict? body).bind errorText?).join = some words ↔ Holds (SaysError · words) body := by
  rw [Option.join_eq_some_iff, Option.bind_eq_some_iff]
  exact exists_congr fun j => and_congr_right fun _ => errorText?_eq_some_iff

theorem completion?_body_iff {completion : Completion} :
    (ofStrict? body).bind completion? = some completion ↔
      Holds (IsCompletion · completion) body := by
  rw [Option.bind_eq_some_iff]
  exact exists_congr fun j => and_congr_right fun _ => completion?_eq_some_iff

end

/-! ### Every reply leads to its outcome -/

/-- A text that is not blank is kept as it is. -/
theorem nonBlank?_eq_some_iff {s t : Text} :
    nonBlank? s = some t ↔ isAllBlank s = false ∧ s = t := by
  unfold nonBlank?
  cases h : isAllBlank s <;> simp

theorem leadsTo_refusal (reply : ChatReply) (hstatus : isSuccess reply.status = false) :
    LeadsTo (.ok reply) (.error (.requestFailed (refusal reply))) := by
  unfold refusal
  split
  · next words h =>
    obtain ⟨said, hsaid, hwords⟩ := Option.bind_eq_some_iff.mp h
    obtain ⟨hblank, rfl⟩ := nonBlank?_eq_some_iff.mp hwords
    exact .refusedInWords reply said hstatus (errorText?_body_iff.mp hsaid) hblank
  · next h =>
    refine .refused reply hstatus fun words hbody => ?_
    rw [← errorText?_body_iff] at hbody
    rw [hbody, Option.bind_some] at h
    by_contra hblank
    have hsome : nonBlank? words = some words :=
      nonBlank?_eq_some_iff.mpr ⟨by simpa using hblank, rfl⟩
    rw [h] at hsome
    simp at hsome

/-- The text of a completed chat is the content of its first choice, if that is not blank. -/
theorem Completion.text?_eq_some_iff {completion : Completion} {message : Text} :
    completion.text? = some message ↔ ∃ content, completion.choices.head? = some (some content) ∧
      isAllBlank content = false ∧ content.trim = message := by
  unfold text?
  split
  · next content hfirst =>
    have hfirst := Option.join_eq_some_iff.mp hfirst
    simp only [Option.map_eq_some_iff, nonBlank?_eq_some_iff, hfirst, Option.some.injEq]
    constructor
    · rintro ⟨_, ⟨hblank, rfl⟩, htrim⟩
      exact ⟨content, rfl, hblank, htrim⟩
    · rintro ⟨_, rfl, hblank, htrim⟩
      exact ⟨content, ⟨hblank, rfl⟩, htrim⟩
  · next hnone =>
    refine iff_of_false (by simp) ?_
    rintro ⟨content, hfirst, -⟩
    simp [hfirst] at hnone

theorem leadsTo_text? (reply : ChatReply) {completion : Completion}
    (hstatus : isSuccess reply.status = true)
    (hbody : Holds (IsCompletion · completion) reply.body) :
    LeadsTo (.ok reply) (.ok completion.text?) := by
  cases htext : completion.text? with
  | some message =>
    obtain ⟨content, hfirst, hblank, rfl⟩ := Completion.text?_eq_some_iff.mp htext
    exact .message reply completion content hstatus hbody hfirst hblank
  | none =>
    refine .nothing reply completion hstatus hbody fun content hfirst => ?_
    by_contra hblank
    have hsome := Completion.text?_eq_some_iff.mpr ⟨content, hfirst, by simpa using hblank, rfl⟩
    rw [htext] at hsome
    simp at hsome

/-- **Every reply leads to its outcome.** -/
theorem leadsTo_generatedOf (reply : Except Failure ChatReply) :
    LeadsTo reply (generatedOf reply) := by
  cases reply with
  | error failure => exact .unsent failure
  | ok reply =>
    rw [generatedOf, interpret]
    cases hstatus : isSuccess reply.status with
    | false => exact leadsTo_refusal reply hstatus
    | true =>
      rw [if_pos rfl]
      split
      · next completion hbody =>
        exact leadsTo_text? reply hstatus (completion?_body_iff.mp hbody)
      · next hbody =>
        refine .unreadable reply _ hstatus (fun completion hcompletion => ?_) ⟨_, rfl⟩
        rw [← completion?_body_iff, hbody] at hcompletion
        simp at hcompletion

namespace LeadsTo

variable {reply : Except Failure ChatReply} {outcome : Generated}

/-- Only a reply of success leads to more than an error. -/
theorem isSuccess_of_ok {generated : Option Text} (h : LeadsTo reply (.ok generated)) :
    ∃ r, reply = .ok r ∧ isSuccess r.status = true := by
  cases h with
  | nothing r completion hstatus hbody hfirst => exact ⟨r, rfl, hstatus⟩
  | message r completion content hstatus hbody hfirst hcontent => exact ⟨r, rfl, hstatus⟩

/-- A message is trimmed, and it is not empty. -/
theorem trim_eq_self {message : Text} (h : LeadsTo reply (.ok (some message))) :
    message ≠ [] ∧ message.trim = message := by
  cases h with
  | message r completion content hstatus hbody hfirst hcontent =>
    refine ⟨fun hnil => ?_, trim_trim content⟩
    rw [trim_eq_nil_iff, hcontent] at hnil
    simp at hnil

/-- A completed chat leads to the text of its first choice and to nothing else. -/
theorem eq_text? {r : ChatReply} {completion : Completion} (h : LeadsTo (.ok r) outcome)
    (hstatus : isSuccess r.status = true) (hbody : Holds (IsCompletion · completion) r.body) :
    outcome = .ok completion.text? := by
  -- a body holds one completion only, so the two successes speak of this one
  have hunique : ∀ other, Holds (IsCompletion · other) r.body → other = completion := by
    intro other hother
    rw [← completion?_body_iff] at hbody hother
    exact Option.some.inj (hother.symm.trans hbody)
  cases h with
  | refusedInWords _ words hrefused _ _ => simp [hstatus] at hrefused
  | refused _ hrefused _ => simp [hstatus] at hrefused
  | unreadable _ reason _ hnone _ => exact absurd hbody (hnone completion)
  | nothing _ other _ hother hfirst =>
    obtain rfl := hunique other hother
    have hnone : other.text? = none := by
      rw [Option.eq_none_iff_forall_ne_some]
      intro message htext
      obtain ⟨content, hcontent, hblank, -⟩ := Completion.text?_eq_some_iff.mp htext
      simp [hfirst content hcontent] at hblank
    rw [hnone]
  | message _ other content _ hother hfirst hcontent =>
    obtain rfl := hunique other hother
    rw [Completion.text?_eq_some_iff.mpr ⟨content, hfirst, hcontent, rfl⟩]

/-- **Only the first choice counts.** -/
theorem eq_of_sameFirstChoice {reply' : Except Failure ChatReply} {outcome' : Generated}
    (hsame : SameFirstChoice reply reply') (h : LeadsTo reply outcome)
    (h' : LeadsTo reply' outcome') : outcome' = outcome := by
  obtain ⟨r, r', completion, completion', rfl, rfl, hr, hr', hbody, hbody', hfirst⟩ := hsame
  rw [h.eq_text? hr hbody, h'.eq_text? hr' hbody', Completion.text?, Completion.text?, hfirst]

end LeadsTo

/-- **One reply leads to the outcome.**  For every prompt the provider sends exactly one request,
and what comes back leads to the outcome.  Only a reply of success leads to more than an error; a
message is trimmed and not empty; and another completed chat with the same first choice, whatever
its other choices and its usage are, leads to the same outcome. -/
theorem one_reply_leads_to_outcome {m : Type → Type} [Monad m] [LawfulMonad m] (note : Reporter m)
    (backends : Backends m) (access : Access) (prompt : Text) :
    Records (fun made outcome => ∃ reply,
        made = [.post (endpoint access.base) access.key ⟨access.model, prompt⟩ reply] ∧
        LeadsTo reply outcome ∧
        (∀ generated, outcome = .ok generated → ∃ r, reply = .ok r ∧ isSuccess r.status = true) ∧
        (∀ message, outcome = .ok (some message) → message ≠ [] ∧ message.trim = message) ∧
        ∀ reply' outcome', SameFirstChoice reply reply' → LeadsTo reply' outcome' →
          outcome' = outcome)
      (generate note.beside backends.recorded.post access prompt) ∧
    Erases (generate note.beside backends.recorded.post access prompt)
      (generate note backends.post access prompt) := by
  refine ⟨records_imp ?_ (records_generate note backends access prompt),
    erases_generate note backends access prompt⟩
  rintro made outcome ⟨reply, hmade, rfl⟩
  have hleads := leadsTo_generatedOf reply
  refine ⟨reply, hmade, hleads, fun generated hok => ?_, fun message hok => ?_,
    fun reply' outcome' hsame hleads' => hleads.eq_of_sameFirstChoice hsame hleads'⟩
  · rw [hok] at hleads
    exact hleads.isSuccess_of_ok
  · rw [hok] at hleads
    exact hleads.trim_eq_self

/-- A refusal in words that start with a blank character. -/
def chiding : ChatReply :=
  ⟨429, "\x7b\"error\":\x7b\"message\":\" slow down\"\x7d\x7d".toList⟩

/-- A service that refuses, and counts how often it is asked. -/
def chidingBackends : Backends (StateM Nat) where
  onDevice _ := return .ok none
  post _ _ _ := do
    modify (· + 1)
    return .ok chiding

/-- The words of a refusal are reported as they are, untrimmed. -/
theorem one_reply_leads_to_words :
    ((generate Reporter.silent.beside chidingBackends.recorded.post ⟨[], [], []⟩ "hi".toList).run
        []).run 0 =
      ((.error (.requestFailed " slow down".toList),
        [.post "/v1/chat/completions".toList [] ⟨[], "hi".toList⟩ (.ok chiding)]), 1) ∧
    LeadsTo (.ok chiding) (.error (.requestFailed " slow down".toList)) := by
  have hrun : ((generate Reporter.silent.beside chidingBackends.recorded.post ⟨[], [], []⟩
      "hi".toList).run []).run 0 =
      ((.error (.requestFailed " slow down".toList),
        [.post "/v1/chat/completions".toList [] ⟨[], "hi".toList⟩ (.ok chiding)]), 1) := by
    cbv
  have hleads := alwaysReturns_state_iff.mp ((one_reply_leads_to_outcome Reporter.silent
    chidingBackends ⟨[], [], []⟩ "hi".toList).1 []) 0
  rw [hrun] at hleads
  obtain ⟨made, hmade, reply, rfl, hleads, -⟩ := hleads
  -- the reply that led to the outcome is the one of the service
  obtain rfl := (Exchange.post.inj (List.cons.inj hmade).1).2.2.2
  exact ⟨hrun, hleads⟩

/-- With a status of success, the same body is a completed chat without choices. -/
example : generatedOf (.ok ⟨200, chiding.body⟩) = .ok none := by cbv

end MergeMessage.Remote
