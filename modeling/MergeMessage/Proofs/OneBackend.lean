import MergeMessage.Generation
import MergeMessage.Proofs.Traces
import MergeMessage.Provider.OnDevice

/-!
# One backend answers

Every exchange with a backend is recorded, with what is asked and what is answered.  The record of a
request for a message, or of a ping, is then a single exchange with the chosen backend, whatever
the backends do: the model on this machine is asked for nothing if the remote service is chosen, and
neither the prompt nor the key leaves this machine if the model on it is.  The outcome follows from
the one answer.  If it is of no use, nothing else is tried.

## Main definitions

* `Exchange`, `Backends.recorded` — an exchange with a backend, and backends that record it.
* `AsksOnDevice`, `AsksRemote` — the one exchange with a backend, and the outcome it leads to.

## Main results

* `records_dispatch_onDevice`, `records_dispatch_remote` — what is asked for a prompt.
* `erases_generate` — the record makes no difference to the message.
* `one_backend_answers` — exactly one backend is asked, and the outcome is what it answers.
-/

namespace MergeMessage

variable {m : Type → Type} [Monad m]

/-- An exchange with a backend: what is asked, and what is answered. -/
inductive Exchange
  /-- The model on this machine is given a prompt. -/
  | onDevice (prompt : Text) (answer : Generated)
  /-- A request is sent to an address with a key. -/
  | post (address key : Text) (request : ChatRequest) (reply : Except Failure ChatReply)

/-- The backends that record every exchange. -/
def Backends.recorded (backends : Backends m) : Backends (StateT (List Exchange) m) where
  onDevice prompt := MergeMessage.recorded (.onDevice prompt) (backends.onDevice prompt)
  post address key request :=
    MergeMessage.recorded (.post address key request) (backends.post address key request)

/-- What comes of the reply of the remote service, or of the failure to get one. -/
def Remote.generatedOf : Except Failure ChatReply → Generated
  | .error failure => .error (.requestFailed failure.chain)
  | .ok reply => (interpret reply).1

/-- What comes of an answer to the prompt of a request: a blank text counts as nothing, and any
other text is tidied. -/
def Request.finish (request : Request) : Generated → Generated
  | .error e => .error e
  | .ok none => .ok none
  | .ok (some reply) =>
    if Text.isAllBlank reply then .ok none
    else .ok (some (Commit.messageOfReply reply (request.ticket.map Ticket.id)))

/-- The model on this machine is asked once and nothing else is: a text that is not blank is the
outcome, a blank one and nothing at all mean that the model is not ready, and a failure stays what
it is. -/
inductive AsksOnDevice (prompt : Text) (finish : Text → Text) : List Exchange → Generated → Prop
  /-- The answer is a text. -/
  | message (reply : Text) (h : Text.isAllBlank reply = false) :
    AsksOnDevice prompt finish [.onDevice prompt (.ok (some reply))] (.ok (some (finish reply)))
  /-- The answer is a blank text. -/
  | blank (reply : Text) (h : Text.isAllBlank reply = true) :
    AsksOnDevice prompt finish [.onDevice prompt (.ok (some reply))] (.error .providerUnavailable)
  /-- There is no answer. -/
  | nothing : AsksOnDevice prompt finish [.onDevice prompt (.ok none)] (.error .providerUnavailable)
  /-- The provider fails. -/
  | failure (e : GenerateError) : AsksOnDevice prompt finish [.onDevice prompt (.error e)] (.error e)

/-- The remote service is asked once with the key and nothing else is, or nothing at all if there is
no key; what it replies leads to the outcome. -/
inductive AsksRemote (settings : Settings) (prompt : Text) (finish : Generated → Generated) :
    List Exchange → Generated → Prop
  /-- There is no key. -/
  | noKey (h : settings.apiKey = none) :
    AsksRemote settings prompt finish [] (.error .missingCredential)
  /-- A request is sent with the key. -/
  | reply (key : Text) (h : settings.apiKey = some key) (reply : Except Failure ChatReply) :
    AsksRemote settings prompt finish
      [.post (Remote.endpoint settings.apiBase) key ⟨settings.model, prompt⟩ reply]
      (finish (Remote.generatedOf reply))

variable [LawfulMonad m]

/-! ### The remote service -/

/-- If nothing comes of a reply, a request has failed. -/
theorem Remote.requestFailed_of_generatedOf {reply : Except Failure ChatReply} {e : GenerateError}
    (h : generatedOf reply = .error e) : ∃ reason, e = .requestFailed reason := by
  cases reply with
  | error failure => exact ⟨failure.chain, (Except.error.inj h).symm⟩
  | ok reply =>
    dsimp only [generatedOf] at h
    unfold interpret at h
    split at h
    · split at h
      · cases h
      · exact ⟨_, (Except.error.inj h).symm⟩
    · exact ⟨_, (Except.error.inj h).symm⟩

theorem Remote.generatedOf_ne_unavailable (reply : Except Failure ChatReply) :
    generatedOf reply ≠ .error .providerUnavailable := by
  intro h
  obtain ⟨reason, hreason⟩ := requestFailed_of_generatedOf h
  cases hreason

/-- The remote provider sends one request. -/
theorem Remote.records_generate (note : Reporter m) (backends : Backends m) (access : Access)
    (prompt : Text) :
    Records (fun made outcome => ∃ reply,
        made = [.post (endpoint access.base) access.key ⟨access.model, prompt⟩ reply] ∧
          outcome = generatedOf reply)
      (generate note.beside backends.recorded.post access prompt) := by
  unfold generate
  refine records_note_bind note _ (records_bind (records_recorded _ (alwaysReturns_true _)) ?_)
  rintro made reply ⟨rfl, -⟩
  cases reply with
  | error failure => exact records_pure ⟨.error failure, by simp, rfl⟩
  | ok reply =>
    dsimp only
    refine records_note_bind note _ ?_
    -- how many tokens were used is noted, if the reply says so
    split
    · exact records_note_bind note _ (records_pure ⟨.ok reply, by simp, rfl⟩)
    · exact records_pure ⟨.ok reply, by simp, rfl⟩

/-! ### The chosen backend -/

/-- If the model on this machine is chosen, it is asked; `q` is what is known of its answers. -/
theorem records_dispatch_onDevice (note : Reporter m) {settings : Settings}
    (h : settings.choice = .onDevice) (backends : Backends m) (prompt : Text)
    {q : Generated → Prop} (hq : AlwaysReturns q (backends.onDevice prompt)) :
    Records (fun made outcome => AsksOnDevice prompt id made outcome ∧
        ∀ answer, made = [.onDevice prompt answer] → q answer)
      (dispatch note.beside settings backends.recorded prompt) := by
  unfold dispatch
  rw [h]
  refine records_bind (records_recorded _ hq) ?_
  rintro made answer ⟨rfl, hanswer⟩
  refine records_pure ⟨?_, by simpa using hanswer⟩
  rw [List.append_nil]
  -- one call was made, so what comes out is read off its answer
  match answer with
  | .error e => exact .failure e
  | .ok none => exact .nothing
  | .ok (some reply) =>
    unfold refuseBlank
    dsimp only
    split
    · next hblank => exact .blank reply hblank
    · next hblank => exact .message reply (by simpa using hblank)

/-- If the remote service is chosen, it is asked with the key, if there is one. -/
theorem records_dispatch_remote (note : Reporter m) {settings : Settings}
    (h : settings.choice = .remote) (backends : Backends m) (prompt : Text) :
    Records (AsksRemote settings prompt id)
      (dispatch note.beside settings backends.recorded prompt) := by
  unfold dispatch
  rw [h]
  dsimp only
  split
  · next hkey => exact records_pure (.noKey hkey)
  · next key hkey =>
    refine records_imp ?_ (Remote.records_generate note backends _ prompt)
    rintro made outcome ⟨reply, rfl, rfl⟩
    exact .reply key hkey reply

/-- A request for a message dispatches its prompt and finishes the answer. -/
theorem records_generate (note : Reporter m) (settings : Settings) (backends : Backends m)
    (request : Request) {p : List Exchange → Generated → Prop}
    (h : Records p (dispatch note.beside settings backends.recorded request.prompt)) :
    Records (fun made outcome => ∃ answer, p made answer ∧ outcome = request.finish answer)
      (generate note.beside settings backends.recorded request) := by
  unfold generate
  refine records_note_bind note _ (records_note_bind note _ (records_bind h ?_))
  intro made answer hp
  match answer with
  | .error e => exact records_pure ⟨.error e, by simpa using hp, rfl⟩
  | .ok none => exact records_pure ⟨.ok none, by simpa using hp, rfl⟩
  | .ok (some reply) =>
    dsimp only
    split
    · next hblank =>
      refine records_note_bind note _ (records_pure ⟨.ok (some reply), by simpa using hp, ?_⟩)
      simp [Request.finish, hblank]
    · next hblank =>
      refine records_note_bind note _ (records_pure ⟨.ok (some reply), by simpa using hp, ?_⟩)
      simp [Request.finish, hblank]

/-! ### Without the record -/

theorem Remote.erases_generate (note : Reporter m) (backends : Backends m) (access : Access)
    (prompt : Text) :
    Erases (generate note.beside backends.recorded.post access prompt)
      (generate note backends.post access prompt) := by
  unfold generate
  refine erases_bind (erases_note note _) fun _ => erases_bind (erases_recorded _ _) ?_
  intro reply
  cases reply with
  | error failure => exact erases_pure _
  | ok reply =>
    dsimp only
    refine erases_bind (erases_note note _) fun _ => ?_
    split
    · exact erases_bind (erases_note note _) fun _ => erases_pure _
    · exact erases_pure _

theorem erases_dispatch (note : Reporter m) (settings : Settings) (backends : Backends m)
    (prompt : Text) :
    Erases (dispatch note.beside settings backends.recorded prompt)
      (dispatch note settings backends prompt) := by
  unfold dispatch
  split
  · exact erases_bind (erases_recorded _ _) fun _ => erases_pure _
  · split
    · exact erases_pure _
    · exact Remote.erases_generate note backends _ prompt

/-- The record makes no difference to what is generated. -/
theorem erases_generate (note : Reporter m) (settings : Settings) (backends : Backends m)
    (request : Request) :
    Erases (generate note.beside settings backends.recorded request)
      (generate note settings backends request) := by
  unfold generate
  refine erases_bind (erases_note note _) fun _ => erases_bind (erases_note note _) fun _ =>
    erases_bind (erases_dispatch note settings backends request.prompt) fun answer => ?_
  match answer with
  | .error e => exact erases_pure _
  | .ok none => exact erases_pure _
  | .ok (some reply) =>
    dsimp only
    split
    · exact erases_bind (erases_note note _) fun _ => erases_pure _
    · exact erases_bind (erases_note note _) fun _ => erases_pure _

/-! ### Outcomes -/

theorem Request.finish_eq_error_iff {request : Request} {answer : Generated} {e : GenerateError} :
    request.finish answer = .error e ↔ answer = .error e := by
  match answer with
  | .error e' => rfl
  | .ok none => simp [finish]
  | .ok (some reply) =>
    unfold finish
    dsimp only
    split <;> simp

/-- A text that is not blank is tidied. -/
theorem AsksOnDevice.finish {request : Request} {made : List Exchange} {outcome : Generated}
    (h : AsksOnDevice request.prompt id made outcome) :
    AsksOnDevice request.prompt
      (fun reply => Commit.messageOfReply reply (request.ticket.map Ticket.id)) made
      (request.finish outcome) := by
  cases h with
  | message reply hreply => simpa [Request.finish, hreply] using AsksOnDevice.message reply hreply
  | blank reply hreply => exact .blank reply hreply
  | nothing => exact .nothing
  | failure e => exact .failure e

theorem AsksRemote.finish {settings : Settings} {request : Request} {made : List Exchange}
    {outcome : Generated} (h : AsksRemote settings request.prompt id made outcome) :
    AsksRemote settings request.prompt request.finish made (request.finish outcome) := by
  cases h with
  | noKey hkey => exact .noKey hkey
  | reply key hkey reply => exact .reply key hkey reply

section

variable {prompt : Text} {made : List Exchange} {outcome : Generated}

theorem AsksOnDevice.ne_nothing {finish : Text → Text}
    (h : AsksOnDevice prompt finish made outcome) : outcome ≠ .ok none := by
  cases h <;> simp

/-- Only the provider itself can say that a key is missing. -/
theorem AsksOnDevice.made_of_missingCredential {finish : Text → Text}
    (h : AsksOnDevice prompt finish made outcome) (hout : outcome = .error .missingCredential) :
    made = [.onDevice prompt (.error .missingCredential)] := by
  cases h with
  | message reply _ => simp at hout
  | blank reply _ => simp at hout
  | nothing => simp at hout
  | failure e => rw [Except.error.inj hout]

theorem AsksRemote.ne_unavailable {settings : Settings} {finish : Generated → Generated}
    (hfinish : ∀ answer, finish answer = .error .providerUnavailable →
      answer = .error .providerUnavailable)
    (h : AsksRemote settings prompt finish made outcome) :
    outcome ≠ .error .providerUnavailable := by
  cases h with
  | noKey _ => simp
  | reply key _ reply => exact fun hout => Remote.generatedOf_ne_unavailable reply (hfinish _ hout)

end

/-- The model on this machine needs no key, whatever its runtime does. -/
theorem OnDevice.alwaysReturns_ne_missingCredential (note : Reporter m) (runtime : LocalRuntime m)
    (prompt : Text) :
    AlwaysReturns (fun answer => answer ≠ .error .missingCredential)
      (generate note runtime prompt) := by
  unfold generate
  refine alwaysReturns_bind (fun availability => ?_) _
  split
  · refine alwaysReturns_bind (fun opened => ?_) _
    match opened with
    | .error failure => exact alwaysReturns_pure (by simp)
    | .ok () =>
      refine alwaysReturns_bind (fun reply => alwaysReturns_bind (fun _ => alwaysReturns_pure ?_) _) _
      cases reply <;> simp [generatedOf]
  · exact alwaysReturns_bind (fun _ => alwaysReturns_pure (by simp)) _

/-- **One backend answers.**  If the model on this machine is chosen, a request for a message and a
ping ask it exactly once and send nothing, and the outcome is its text, that it is not ready, or its
own failure; that a key is missing could only be its own word, and it never says so.  If the remote
service is chosen, nothing is asked of the model on this machine, and exactly one request is sent
with the key, or none without one; the outcome is what comes of the reply. -/
theorem one_backend_answers (note : Reporter m) (settings : Settings) (backends : Backends m)
    (request : Request) :
    (settings.choice = .onDevice →
      Records (fun made outcome =>
          AsksOnDevice request.prompt
            (fun reply => Commit.messageOfReply reply (request.ticket.map Ticket.id)) made outcome ∧
          outcome ≠ .ok none ∧
          (outcome = .error .missingCredential →
            made = [.onDevice request.prompt (.error .missingCredential)]))
        (generate note.beside settings backends.recorded request) ∧
      Records (fun made outcome =>
          AsksOnDevice pingPrompt id made outcome ∧ outcome ≠ .ok none ∧
          (outcome = .error .missingCredential →
            made = [.onDevice pingPrompt (.error .missingCredential)]))
        (ping note.beside settings backends.recorded)) ∧
    (settings.choice = .onDevice →
      (∃ runtime, backends.onDevice = OnDevice.generate note runtime) →
      Records (fun _ outcome => outcome ≠ .error .missingCredential)
        (generate note.beside settings backends.recorded request) ∧
      Records (fun _ outcome => outcome ≠ .error .missingCredential)
        (ping note.beside settings backends.recorded)) ∧
    (settings.choice = .remote →
      Records (fun made outcome =>
          AsksRemote settings request.prompt request.finish made outcome ∧
          outcome ≠ .error .providerUnavailable)
        (generate note.beside settings backends.recorded request) ∧
      Records (fun made outcome =>
          AsksRemote settings pingPrompt id made outcome ∧ outcome ≠ .error .providerUnavailable)
        (ping note.beside settings backends.recorded)) ∧
    Erases (generate note.beside settings backends.recorded request)
      (generate note settings backends request) ∧
    Erases (ping note.beside settings backends.recorded) (ping note settings backends) := by
  refine ⟨fun hchoice => ⟨?_, ?_⟩, fun hchoice => ?_, fun hchoice => ⟨?_, ?_⟩,
    erases_generate note settings backends request, erases_dispatch note settings backends pingPrompt⟩
  · refine records_imp ?_ (records_generate note settings backends request
      (records_dispatch_onDevice note hchoice backends request.prompt (alwaysReturns_true _)))
    rintro made outcome ⟨answer, ⟨hasks, -⟩, rfl⟩
    exact ⟨hasks.finish, hasks.finish.ne_nothing, hasks.finish.made_of_missingCredential⟩
  · refine records_imp ?_
      (records_dispatch_onDevice note hchoice backends pingPrompt (alwaysReturns_true _))
    rintro made outcome ⟨hasks, -⟩
    exact ⟨hasks, hasks.ne_nothing, hasks.made_of_missingCredential⟩
  · rintro ⟨runtime, hruntime⟩
    -- with a provider that never says so, nobody says that a key is missing
    have hnever : ∀ prompt, AlwaysReturns (fun answer => answer ≠ .error .missingCredential)
        (backends.onDevice prompt) := by
      rw [hruntime]
      exact OnDevice.alwaysReturns_ne_missingCredential note runtime
    have hdispatch := fun prompt =>
      records_dispatch_onDevice note hchoice backends prompt (hnever prompt)
    refine ⟨records_imp ?_ (records_generate note settings backends request (hdispatch _)),
      records_imp ?_ (hdispatch pingPrompt)⟩
    · rintro made outcome ⟨answer, ⟨hasks, hmade⟩, rfl⟩ hout
      rw [Request.finish_eq_error_iff] at hout
      exact hmade _ (hasks.made_of_missingCredential hout) rfl
    · rintro made outcome ⟨hasks, hmade⟩ hout
      exact hmade _ (hasks.made_of_missingCredential hout) rfl
  · refine records_imp ?_ (records_generate note settings backends request
      (records_dispatch_remote note hchoice backends request.prompt))
    rintro made outcome ⟨answer, hasks, rfl⟩
    exact ⟨hasks.finish, hasks.finish.ne_unavailable fun _ => Request.finish_eq_error_iff.mp⟩
  · refine records_imp ?_ (records_dispatch_remote note hchoice backends pingPrompt)
    intro made outcome hasks
    exact ⟨hasks, hasks.ne_unavailable fun _ h => h⟩

/-- Backends that count how often they are asked; the model on this machine has nothing to say. -/
def mutedBackends : Backends (StateM Nat) where
  onDevice _ := do
    modify (· + 1)
    return .ok (some " \n".toList)
  post _ _ _ := do
    modify (· + 1)
    return .ok ⟨200, "\x7b\"choices\":[\x7b\"message\":\x7b\"content\":\"fix: x\"\x7d\x7d]\x7d".toList⟩

/-- A key is no reason to ask the remote service instead. -/
theorem one_backend_answers_despite_key :
    ((ping Reporter.silent.beside { apiKey := some "sk-1".toList, provider := some .onDevice }
        mutedBackends.recorded).run []).run 0 =
      ((.error .providerUnavailable, [.onDevice pingPrompt (.ok (some " \n".toList))]), 1) ∧
    AsksOnDevice pingPrompt id [.onDevice pingPrompt (.ok (some " \n".toList))]
      (.error .providerUnavailable) ∧
    AsksRemote { apiKey := none, provider := some .remote } pingPrompt id []
      (.error .missingCredential) := by
  have hlocal : ((ping Reporter.silent.beside
      { apiKey := some "sk-1".toList, provider := some .onDevice }
      mutedBackends.recorded).run []).run 0 =
      ((.error .providerUnavailable, [.onDevice pingPrompt (.ok (some " \n".toList))]), 1) := by
    rfl
  have hremote : ((ping Reporter.silent.beside { apiKey := none, provider := some .remote }
      mutedBackends.recorded).run []).run 0 = ((.error .missingCredential, []), 0) := by
    rfl
  have request : Request := ⟨[], [], [], none⟩
  have hasks := alwaysReturns_state_iff.mp (((one_backend_answers Reporter.silent
    { apiKey := some "sk-1".toList, provider := some .onDevice } mutedBackends request).1 rfl).2 []) 0
  have hkey := alwaysReturns_state_iff.mp (((one_backend_answers Reporter.silent
    { apiKey := none, provider := some .remote } mutedBackends request).2.2.1 rfl).2 []) 0
  rw [hlocal] at hasks
  rw [hremote] at hkey
  obtain ⟨made, rfl, hasks, -, -⟩ := hasks
  obtain ⟨asked, rfl, hkey, -⟩ := hkey
  exact ⟨hlocal, hasks, hkey⟩

end MergeMessage
