import MergeMessage.Proofs.BaseAddresses
import MergeMessage.Proofs.Lockstep
import MergeMessage.Provider.Daemon

/-!
# Visits to the daemon

One prompt to the provider over the daemon is one visit.  It first asks which models are installed,
and only if the model is among them, the model is asked and then unloaded.  Nothing that the host
replies can make the visit longer or shorter in another way, and the reply to the last request is
not part of the result.

Every request that is sent is recorded with its reply.  A request that cannot be sent has none, so
a visit is described by all requests that it tries, of which those that can be sent are recorded.

## Main definitions

* `Delivery`, `Http.Network.recorded` — a request with its reply, and a network that records them.
* `Daemon.Lists` — a reply that lists a model.
* `Daemon.readiness` — what a reply with the installed models says about a model.
* `Daemon.Visit` — the requests of one prompt with their replies, and what comes of them.
* `Daemon.Sends` — of some requests, those that can be sent are.

## Main results

* `Daemon.records_readiness` — one request settles whether the model is ready.
* `Daemon.records_generate` — a prompt is one visit.
* `Daemon.generate_eq_of_agree` — the result does not depend on what comes of unloading the model.
* `Daemon.daemon_visit` — both, for a base address with any slashes at its end.
-/

namespace MergeMessage

variable {m : Type → Type} [Monad m]

/-- A request and the reply to it, if there was one. -/
structure Delivery where
  /-- What is sent. -/
  request : Http.Request
  /-- What comes back. -/
  reply : Option Http.Reply

/-- Can the request be sent at all? -/
def Delivery.isSent (e : Delivery) : Bool := (Http.destination e.request).isOk

/-- The network that records every request that is sent. -/
def Http.Network.recorded (network : Http.Network m) : Http.Network (StateT (List Delivery) m) :=
  fun request => MergeMessage.recorded (.mk request) (network request)

namespace Daemon

/-! ### What is sent -/

/-- What a reply to a request leads to.  That it broke off is found out when its text is read. -/
def received (request : Http.Request) (reply : Option Http.Reply) : Except Fault Http.Reply :=
  match Http.destination request with
  | .error e => .error (.noReply request.address e)
  | .ok u =>
    match reply with
    | none => .error (.noReply request.address (.unanswered (Http.shown u)))
    | some reply =>
      match Http.failureOfStatus? (Http.shown u) reply.status with
      | some reason => .error (.refused request.address reason)
      | none => .ok reply

/-- The text that comes back for a request. -/
def fetched (request : Http.Request) (reply : Option Http.Reply) : Except Fault Text :=
  (received request reply).bind textOf

/-- The names of the installed models in what came back for them. -/
def namesOf? : Except Fault Text → Option (List Text)
  | .error _ => none
  | .ok text => modelNames? text

/-- The answer in what came back for a chat. -/
def contentOf : Except Fault Text → Except Fault Text
  | .error fault => .error fault
  | .ok text =>
    match chatContent? text with
    | some content => .ok content
    | none => .error .undecodable

/-- What the reply to a chat leads to. -/
def generatedFor (request : Http.Request) (reply : Option Http.Reply) : Generated :=
  OnDevice.generatedOf
    ((contentOf (fetched request reply)).mapError fun fault => Failure.ofText fault.message)

/-- The names in a reply with the installed models, if it did not break off. -/
def namesIn? (listing : Http.Reply) : Option (List Text) := listing.text.toOption.bind modelNames?

/-- The reply to the question which models are installed lists the model: there is one, it is no
refusal, and one of the names in it is the model's. -/
def Lists (model : Text) (reply : Option Http.Reply) : Prop :=
  ∃ listing names, reply = some listing ∧ ¬(400 ≤ listing.status ∧ listing.status < 600) ∧
    namesIn? listing = some names ∧ ∃ name ∈ names, modelMatches model name = true

/-- The names in the reply to the question which models are installed, if there is one and it is no
refusal. -/
def listedNames? (listing : Option Http.Reply) : Option (List Text) :=
  listing.bind fun reply =>
    if 400 ≤ reply.status ∧ reply.status < 600 then none else namesIn? reply

/-- What the names of the installed models say about a model.  Without them no runtime answers. -/
def readinessOf (model : Text) : Option (List Text) → Availability
  | none => .unavailable
  | some names => if names.any (modelMatches model) then .available else .downloadable

/-- What the reply to the question which models are installed says about a model. -/
def readiness (model : Text) (listing : Option Http.Reply) : Availability :=
  readinessOf model (listedNames? listing)

/-- The requests of one prompt, with their replies, and what comes of them.  The first asks for what
is there, the others post something. -/
inductive Visit (base model prompt : Text) : List Delivery → Generated → Prop
  /-- The model is not installed. -/
  | notListed (listing : Option Http.Reply) (h : ¬Lists model listing) :
    Visit base model prompt [⟨{ address := base ++ "/api/tags".toList }, listing⟩] (.ok none)
  /-- The model is asked and then unloaded. -/
  | asked (listing reply released : Option Http.Reply) (h : Lists model listing) :
    Visit base model prompt
      [⟨{ address := base ++ "/api/tags".toList }, listing⟩,
        ⟨chatRequest ⟨base, model⟩ prompt, reply⟩,
        ⟨{ address := base ++ "/api/generate".toList
           body := some (.ofMembers [("model", .text model), ("keep_alive", .nat 0)]) }, released⟩]
      (generatedFor (chatRequest ⟨base, model⟩ prompt) reply)

/-- Of the requests that are to be made, those that can be sent are, and the others are left without
a reply. -/
def Sends {α : Type} (p : List Delivery → α → Prop) (made : List Delivery) (a : α) : Prop :=
  ∃ tried, p tried a ∧ made = tried.filter Delivery.isSent ∧
    ∀ e ∈ tried, e.isSent = false → e.reply = none

theorem listedNames?_eq_some_iff {listing : Option Http.Reply} {names : List Text} :
    listedNames? listing = some names ↔ ∃ reply, listing = some reply ∧
      ¬(400 ≤ reply.status ∧ reply.status < 600) ∧ namesIn? reply = some names := by
  simp only [listedNames?, Option.bind_eq_some_iff, Option.ite_none_left_eq_some]

theorem readinessOf_eq_available_iff {model : Text} {listed : Option (List Text)} :
    readinessOf model listed = .available ↔
      ∃ names, listed = some names ∧ ∃ name ∈ names, modelMatches model name = true := by
  cases listed with
  | none => simp [readinessOf]
  | some names =>
    rw [readinessOf]
    split
    · next hany => simpa using hany
    · next hany => simpa using hany

/-- The model can be asked if the reply lists it. -/
theorem readiness_eq_available_iff_lists {model : Text} {listing : Option Http.Reply} :
    readiness model listing = .available ↔ Lists model listing := by
  rw [readiness, readinessOf_eq_available_iff]
  constructor
  · rintro ⟨names, hnames, hmodel⟩
    obtain ⟨reply, hreply, hstatus, hread⟩ := listedNames?_eq_some_iff.mp hnames
    exact ⟨reply, names, hreply, hstatus, hread, hmodel⟩
  · rintro ⟨reply, names, hreply, hstatus, hread, hmodel⟩
    exact ⟨names, listedNames?_eq_some_iff.mpr ⟨reply, hreply, hstatus, hread⟩, hmodel⟩

section

variable [LawfulMonad m]

theorem sends_nil {α : Type} {p : List Delivery → α → Prop} {a : α} (h : p [] a) :
    Sends p [] a :=
  ⟨[], h, rfl, by simp⟩

theorem records_sends_bind {α β : Type} {p : List Delivery → α → Prop}
    {q : List Delivery → β → Prop} {x : StateT (List Delivery) m α}
    {f : α → StateT (List Delivery) m β} (hx : Records (Sends p) x)
    (hf : ∀ tried a, p tried a → Records (Sends fun more b => q (tried ++ more) b) (f a)) :
    Records (Sends q) (x >>= f) := by
  refine records_bind hx ?_
  rintro made a ⟨tried, hp, rfl, htried⟩
  refine records_imp ?_ (hf tried a hp)
  rintro made b ⟨more, hq, rfl, hmore⟩
  exact ⟨tried ++ more, hq, by simp, List.forall_mem_append.mpr ⟨htried, hmore⟩⟩

theorem records_ask (network : Http.Network m) (request : Http.Request) :
    Records (Sends fun tried result => ∃ reply,
        tried = [⟨request, reply⟩] ∧ result = received request reply)
      (ask network.recorded request) := by
  unfold ask Http.send
  cases hdestination : Http.destination request with
  | error e =>
    -- nothing is sent, and no reply is waited for
    have hsent : Delivery.isSent ⟨request, none⟩ = false := by
      simp [Delivery.isSent, hdestination, Except.isOk, Except.toBool]
    refine records_bind (records_pure (p := fun made result => made = [] ∧ result = .error e)
      ⟨rfl, rfl⟩) ?_
    rintro made result ⟨rfl, rfl⟩
    refine records_pure ⟨[⟨request, none⟩], ⟨none, rfl, ?_⟩, ?_, ?_⟩
    · simp [received, hdestination]
    · simp [hsent]
    · simp
  | ok u =>
    have hsent (reply : Option Http.Reply) : Delivery.isSent ⟨request, reply⟩ = true := by
      simp [Delivery.isSent, hdestination, Except.isOk, Except.toBool]
    have hmade (reply : Option Http.Reply) :
        [(⟨request, reply⟩ : Delivery)] = [⟨request, reply⟩].filter Delivery.isSent := by
      simp [hsent]
    rw [bind_assoc]
    refine records_bind (records_recorded (Delivery.mk request) (alwaysReturns_true _)) ?_
    rintro made reply ⟨rfl, -⟩
    -- the request is recorded with what came back
    cases reply with
    | none =>
      rw [pure_bind]
      exact records_pure
        ⟨_, ⟨none, rfl, by simp [received, hdestination]⟩, hmade _, by simp [hsent]⟩
    | some reply =>
      rw [pure_bind]
      dsimp only
      cases hfailure : Http.failureOfStatus? (Http.shown u) reply.status with
      | some reason =>
        exact records_pure
          ⟨_, ⟨some reply, rfl, by simp [received, hdestination, hfailure]⟩, hmade _,
            by simp [hsent]⟩
      | none =>
        exact records_pure
          ⟨_, ⟨some reply, rfl, by simp [received, hdestination, hfailure]⟩, hmade _,
            by simp [hsent]⟩

theorem records_fetch (network : Http.Network m) (request : Http.Request) :
    Records (Sends fun tried result => ∃ reply,
        tried = [⟨request, reply⟩] ∧ result = fetched request reply)
      (fetch network.recorded request) := by
  unfold fetch
  refine records_sends_bind (records_ask network request) ?_
  rintro tried result ⟨reply, rfl, rfl⟩
  exact records_pure (sends_nil ⟨reply, rfl, rfl⟩)

/-- A chat is one request. -/
theorem records_chat (note : Reporter m) (network : Http.Network m) (d : Daemon) (prompt : Text) :
    Records (Sends fun tried result => ∃ reply, tried = [⟨chatRequest d prompt, reply⟩] ∧
        result = contentOf (fetched (chatRequest d prompt) reply))
      (chat note.beside network.recorded d prompt) := by
  unfold chat post
  refine records_note_bind note _ ?_
  rw [bind_assoc]
  refine records_note_bind note _ ?_
  refine records_sends_bind (records_fetch network _) ?_
  rintro tried result ⟨reply, rfl, hresult⟩
  cases result with
  | error fault => exact records_pure (sends_nil ⟨reply, rfl, by simp [← hresult, contentOf]⟩)
  | ok text =>
    refine records_note_bind note _ ?_
    cases hcontent : chatContent? text with
    | none => exact records_pure (sends_nil ⟨reply, rfl, by simp [← hresult, contentOf, hcontent]⟩)
    | some content =>
      exact records_pure (sends_nil ⟨reply, rfl, by simp [← hresult, contentOf, hcontent]⟩)

/-- To unload the model takes one request, whatever the reply to it is. -/
theorem records_unload (note : Reporter m) (network : Http.Network m) (d : Daemon) :
    Records (Sends fun tried _ => ∃ released, tried = [⟨unloadRequest d, released⟩])
      (unload note.beside network.recorded d) := by
  unfold unload post
  rw [bind_assoc]
  refine records_note_bind note _ ?_
  refine records_sends_bind (records_fetch network _) ?_
  rintro tried result ⟨released, rfl, -⟩
  cases result
  -- whether it was unloaded is only noted
  all_goals
    refine records_imp ?_ (records_note note _)
    rintro made ⟨⟩ rfl
    exact sends_nil ⟨released, rfl⟩

/-- What is known of requests that are left without a reply if they cannot be sent. -/
theorem Sends.imp {α : Type} {p q : List Delivery → α → Prop}
    (hpq : ∀ tried a, (∀ e ∈ tried, e.isSent = false → e.reply = none) → p tried a → q tried a)
    {made : List Delivery} {a : α} (h : Sends p made a) : Sends q made a := by
  obtain ⟨tried, hp, hmade, htried⟩ := h
  exact ⟨tried, hpq tried a htried hp, hmade, htried⟩

theorem failureOfStatus?_eq_none_iff {address : Text} {status : Nat} :
    Http.failureOfStatus? address status = none ↔ ¬(400 ≤ status ∧ status < 600) := by
  unfold Http.failureOfStatus?
  simp only [Bool.and_eq_true, decide_eq_true_eq]
  split
  · simp; omega
  · split
    · simp; omega
    · simp; omega

/-- Something comes back if the request can be sent and the reply is no refusal. -/
theorem received_eq_ok_iff {request : Http.Request} {reply : Option Http.Reply} {r : Http.Reply} :
    received request reply = .ok r ↔ (∃ u, Http.destination request = .ok u) ∧ reply = some r ∧
      ¬(400 ≤ r.status ∧ r.status < 600) := by
  unfold received
  -- a request that cannot be sent has no reply, and one that was sent may have none
  cases Http.destination request with
  | error e => simp
  | ok u =>
    cases reply with
    | none => simp
    | some reply =>
      dsimp only
      split
      · next reason hreason =>
        have hfail := mt failureOfStatus?_eq_none_iff.mpr (by rw [hreason]; simp)
        constructor
        · intro h; cases h
        · rintro ⟨-, hr, hstatus⟩
          rw [← Option.some.inj hr] at hstatus
          exact absurd hstatus hfail
      · next hnone =>
        have hstatus := failureOfStatus?_eq_none_iff.mp hnone
        constructor
        · intro h
          obtain rfl := Except.ok.inj h
          exact ⟨⟨u, rfl⟩, rfl, hstatus⟩
        · rintro ⟨-, hr, -⟩
          rw [Option.some.inj hr]

theorem namesOf?_textOf (reply : Http.Reply) : namesOf? (textOf reply) = namesIn? reply := by
  rw [textOf, namesIn?]
  cases reply.text <;> rfl

/-- What the runtime is told of a list is what stands in it. -/
theorem namesOf?_fetched {d : Daemon} {listing : Option Http.Reply}
    (hsent : Delivery.isSent ⟨tagsRequest d, listing⟩ = false → listing = none) :
    namesOf? (fetched (tagsRequest d) listing) = listedNames? listing := by
  have hread {reply : Http.Reply} (h : received (tagsRequest d) listing = .ok reply) :
      listedNames? listing = namesIn? reply := by
    obtain ⟨-, rfl, hstatus⟩ := received_eq_ok_iff.mp h
    simp only [listedNames?, Option.bind_some, if_neg hstatus]
  rw [fetched]
  cases hreceived : received (tagsRequest d) listing with
  | ok reply => exact (namesOf?_textOf reply).trans (hread hreceived).symm
  | error fault =>
    -- a list that was sent and is no refusal would have come back
    refine (Option.eq_none_iff_forall_ne_some.mpr fun names hnames => ?_).symm
    obtain ⟨reply, rfl, hstatus, -⟩ := listedNames?_eq_some_iff.mp hnames
    cases hdestination : Http.destination (tagsRequest d) with
    | ok u =>
      rw [received_eq_ok_iff.mpr ⟨⟨u, hdestination⟩, rfl, hstatus⟩] at hreceived
      cases hreceived
    | error e =>
      have hunsent : Delivery.isSent ⟨tagsRequest d, some reply⟩ = false := by
        simp [Delivery.isSent, hdestination, Except.isOk, Except.toBool]
      cases hsent hunsent

/-- The installed models are listed by one request, and the reply to it settles whether the model
is ready. -/
theorem records_readiness (note : Reporter m) (network : Http.Network m) (d : Daemon) :
    Records (Sends fun tried ready => ∃ listing, tried = [⟨tagsRequest d, listing⟩] ∧
        ready = readiness d.model listing)
      (availability note.beside network.recorded d) := by
  have hreceived : Records (Sends fun tried ready => ∃ listing,
      tried = [⟨tagsRequest d, listing⟩] ∧
        ready = readinessOf d.model (namesOf? (fetched (tagsRequest d) listing)))
      (availability note.beside network.recorded d) := by
    -- the list is fetched once, and read in whatever came back
    unfold availability installedModels
    rw [bind_assoc]
    refine records_sends_bind (records_fetch network _) ?_
    rintro tried result ⟨listing, rfl, hresult⟩
    cases result with
    | error fault =>
      simp only [pure_bind]
      refine records_note_bind note _ (records_pure (sends_nil ⟨listing, rfl, ?_⟩))
      rw [← hresult, namesOf?, readinessOf]
    | ok text =>
      cases hnames : modelNames? text with
      | none =>
        simp only [hnames, pure_bind]
        refine records_note_bind note _ (records_pure (sends_nil ⟨listing, rfl, ?_⟩))
        rw [← hresult, namesOf?, hnames, readinessOf]
      | some names =>
        simp only [hnames, pure_bind]
        split
        · next hany =>
          refine records_pure (sends_nil ⟨listing, rfl, ?_⟩)
          rw [← hresult, namesOf?, hnames, readinessOf, if_pos hany]
        · next hany =>
          refine records_note_bind note _ (records_pure (sends_nil ⟨listing, rfl, ?_⟩))
          rw [← hresult, namesOf?, hnames, readinessOf, if_neg hany]
  -- a request that was not sent has no reply, so nothing is lost by looking at that alone
  refine records_imp (fun made outcome => Sends.imp ?_) hreceived
  rintro tried ready htried ⟨listing, rfl, rfl⟩
  exact ⟨listing, rfl, by rw [namesOf?_fetched (htried _ (List.mem_singleton_self _)), readiness]⟩

/-- A prompt is one visit. -/
theorem records_generate (note : Reporter m) (network : Http.Network m) (d : Daemon)
    (prompt : Text) :
    Records (Sends (Visit d.base d.model prompt))
      (OnDevice.generate note.beside (runtime note.beside network.recorded d) prompt) := by
  unfold OnDevice.generate runtime
  -- the first request settles whether there are others
  refine records_sends_bind (records_readiness note network d) ?_
  rintro tried ready ⟨listing, rfl, hready⟩
  have hlists : ready = .available ↔ Lists d.model listing := by
    rw [hready, readiness_eq_available_iff_lists]
  split
  · next hready =>
    rw [pure_bind]
    dsimp only
    rw [bind_assoc]
    refine records_sends_bind (records_chat note network d prompt) ?_
    rintro tried result ⟨reply, rfl, rfl⟩
    rw [pure_bind]
    -- the model is unloaded whatever came of the chat
    refine records_sends_bind (records_unload note network d) ?_
    rintro tried ⟨⟩ ⟨released, rfl⟩
    exact records_pure (sends_nil (.asked listing reply released (hlists.mp hready)))
  · next hready =>
    refine records_note_bind note _ (records_pure (sends_nil ?_))
    exact .notListed listing (mt hlists.mpr hready)

end

/-! ### Base addresses -/

/-- An address has a base, whatever slashes follow it. -/
theorem ofAddress_append {base : Text} (hbase : ∀ c ∈ base.getLast?, c ≠ '/') (model : Text)
    (slashes : Nat) : ofAddress (base ++ List.replicate slashes '/') model = ⟨base, model⟩ := by
  rw [ofAddress, Text.dropEndWhile_append_of_pos (by simp),
    Text.dropEndWhile_eq_self_iff.mpr fun c hc => by simpa using hbase c hc]

theorem isService_tags : Url.IsService "api/tags".toList :=
  Url.isService_of_segments (a := "api".toList) (b := "tags".toList)
    (by decide) (by decide) (by decide) (by decide) (by decide)

theorem isService_chat : Url.IsService "api/chat".toList :=
  Url.isService_of_segments (a := "api".toList) (b := "chat".toList)
    (by decide) (by decide) (by decide) (by decide) (by decide)

theorem isService_generate : Url.IsService "api/generate".toList :=
  Url.isService_of_segments (a := "api".toList) (b := "generate".toList)
    (by decide) (by decide) (by decide) (by decide) (by decide)

/-- A request to a service without a key is sent if there is room for the service. -/
theorem isSent_of_hasRoom {room : Nat} {base : Text} (h : Http.HasRoom room base) {t : Text}
    (ht : Url.IsService t) (hroom : ('/' :: t).length ≤ room) (body : Option Json)
    (reply : Option Http.Reply) :
    Delivery.isSent ⟨{ address := base ++ '/' :: t, body }, reply⟩ = true := by
  obtain ⟨v, hv, hreach⟩ := Http.isReachable_append h ht hroom
  simp [Delivery.isSent, Http.destination, hv, hreach, Except.isOk, Except.toBool]

/-- Behind an address with room for the services, all requests of a visit are sent. -/
theorem Visit.isSent {base model prompt : Text} {tried : List Delivery} {outcome : Generated}
    (h : Visit base model prompt tried outcome) (hroom : Http.HasRoom 13 base) :
    ∀ e ∈ tried, e.isSent = true := by
  -- the longest path of a service has thirteen characters
  have htags := isSent_of_hasRoom hroom isService_tags (by decide) none
  have hchat := isSent_of_hasRoom hroom isService_chat (by decide)
    (chatRequest ⟨base, model⟩ prompt).body
  have hunload := isSent_of_hasRoom hroom isService_generate (by decide)
    (unloadRequest ⟨base, model⟩).body
  cases h with
  | notListed listing _ => simpa using htags listing
  | asked listing reply released _ =>
    refine List.forall_mem_cons.mpr ⟨htags listing, List.forall_mem_cons.mpr ⟨hchat reply, ?_⟩⟩
    exact List.forall_mem_singleton.mpr (hunload released)

theorem Sends.visit {base model prompt : Text} {made : List Delivery} {outcome : Generated}
    (h : Sends (Visit base model prompt) made outcome) (hroom : Http.HasRoom 13 base) :
    Visit base model prompt made outcome := by
  obtain ⟨tried, hvisit, rfl, -⟩ := h
  rwa [List.filter_eq_self.mpr (hvisit.isSent hroom)]

/-! ### Two hosts -/

section

variable {σ : Type}

theorem fst_run_bind {α β : Type} {x : StateM σ α} {f g : α → StateM σ β}
    (h : ∀ a s, ((f a).run s).1 = ((g a).run s).1) (s : σ) :
    ((x >>= f).run s).1 = ((x >>= g).run s).1 :=
  h _ _

/-- What a provider over the daemon returns does not depend on what comes of unloading the model. -/
theorem generate_eq_of_agree (note : Reporter (StateM σ))
    {network network' : Http.Network (StateM σ)}
    {d : Daemon} (hagree : ∀ request, request.address ≠ d.service "/api/generate" →
      network request = network' request) (prompt : Text) (s : σ) :
    ((OnDevice.generate note (d.runtime note network) prompt).run s).1 =
      ((OnDevice.generate note (d.runtime note network') prompt).run s).1 := by
  have hother {path : String} (h : path.toList ≠ "/api/generate".toList) :
      d.service path ≠ d.service "/api/generate" := fun heq => h (List.append_cancel_left heq)
  have havailability : d.availability note network = d.availability note network' :=
    lockstep_eq.availability (fun _ => rfl) (hagree _ (hother (by decide)))
  have hchat : d.chat note network prompt = d.chat note network' prompt :=
    lockstep_eq.chat (fun _ => rfl) (hagree _ (hother (by decide)))
  unfold OnDevice.generate runtime
  dsimp only
  rw [havailability]
  refine fst_run_bind (fun ready s => ?_) s
  split
  · rw [pure_bind, pure_bind]
    dsimp only
    rw [hchat]
    refine fst_run_bind (fun reply s => ?_) s
    -- the model is unloaded in two ways, and then the reply is returned
    rfl
  · rfl

end

/-- **A visit to the daemon.**  Whatever the host does, one prompt to the provider over a daemon is
one visit: the installed models are asked for, and if they list the model, it is asked and then
unloaded, whether it answered or not; what is returned follows from the reply of the chat.  Of these
requests, those that can be sent are, and behind an address with room for the services that is each
of them.  Recording them makes no difference, and two hosts that differ only in what comes of
unloading a model lead to the same result. -/
theorem daemon_visit [LawfulMonad m] (note : Reporter m) (network : Http.Network m)
    (base model prompt : Text) (slashes : Nat) (hbase : ∀ c ∈ base.getLast?, c ≠ '/') :
    Records (fun made outcome => Sends (Visit base model prompt) made outcome ∧
        (Http.HasRoom 13 base → Visit base model prompt made outcome))
      (OnDevice.generate note.beside
        ((ofAddress (base ++ List.replicate slashes '/') model).runtime note.beside
          network.recorded) prompt) ∧
    Erases
      (OnDevice.generate note.beside
        ((ofAddress (base ++ List.replicate slashes '/') model).runtime note.beside
          network.recorded) prompt)
      (OnDevice.generate note
        ((ofAddress (base ++ List.replicate slashes '/') model).runtime note network) prompt) ∧
    ∀ {σ : Type} (note : Reporter (StateM σ)) (host host' : Http.Network (StateM σ)),
      (∀ request, request.address ≠ base ++ "/api/generate".toList → host request = host' request) →
      ∀ s,
        ((OnDevice.generate note
          ((ofAddress (base ++ List.replicate slashes '/') model).runtime note host)
          prompt).run s).1 =
        ((OnDevice.generate note
          ((ofAddress (base ++ List.replicate slashes '/') model).runtime note host')
          prompt).run s).1 := by
  rw [ofAddress_append hbase]
  refine ⟨?_, ?_, ?_⟩
  · exact records_imp (fun made outcome h => ⟨h, h.visit⟩)
      (records_generate note network ⟨base, model⟩ prompt)
  · exact lockstep_erases.daemonGenerate (erases_note note)
      (fun request => erases_recorded _ _) prompt
  · intro σ note host host' hagree s
    exact generate_eq_of_agree (d := ⟨base, model⟩) note hagree prompt s

/-- A host that has the model, loses the connection in the chat and refuses to unload the model. -/
def failingHost : Http.Network (StateM Nat) := fun request => do
  modify (· + 1)
  if request.address = "http://localhost:11434/api/tags".toList then
    return some {
      status := 200
      body := Text.octets "\x7b\"models\":[\x7b\"name\":\"llama3.2:latest\"\x7d]\x7d".toList }
  else if request.address = "http://localhost:11434/api/chat".toList then return none
  else return some { status := 500, body := [] }

theorem getLast?_localhost : "http://localhost:11434".toList.getLast? = some '4' := by decide

theorem hasRoom_localhost : Http.HasRoom 13 "http://localhost:11434".toList where
  parses := ⟨⟨"http".toList, [], none, some "localhost".toList, some 11434, ['/'], none, none⟩,
    by decide +kernel, by decide +kernel, by decide +kernel⟩
  visible := by
    rw [getLast?_localhost]
    simp

/-- The record of one prompt to the model on the failing host. -/
def failingVisit : Generated × List Delivery :=
  (((OnDevice.generate Reporter.silent.beside
    ((ofAddress ("http://localhost:11434".toList ++ List.replicate 2 '/') "llama3.2".toList).runtime
      Reporter.silent.beside failingHost.recorded) "why?".toList).run []).run 0).1

/-- The model is unloaded after the chat has failed, and that this fails makes no difference. -/
theorem daemon_visit_failing :
    Visit "http://localhost:11434".toList "llama3.2".toList "why?".toList failingVisit.2
      failingVisit.1 ∧
    (failingVisit.2.map fun e => (e.request.address, e.request.body.isSome, e.reply)) =
      [("http://localhost:11434/api/tags".toList, false,
          some {
            status := 200
            body := Text.octets
              "\x7b\"models\":[\x7b\"name\":\"llama3.2:latest\"\x7d]\x7d".toList }),
        ("http://localhost:11434/api/chat".toList, true, none),
        ("http://localhost:11434/api/generate".toList, true, some { status := 500, body := [] })] ∧
    failingVisit.1 = .error (.requestFailed ("Error calling Ollama at " ++
      "http://localhost:11434/api/chat: error sending request for url " ++
      "(http://localhost:11434/api/chat)").toList) := by
  refine ⟨?_, by decide +kernel, by decide +kernel⟩
  obtain ⟨made, hmade, -, hvisit⟩ := alwaysReturns_state_iff.mp
    ((daemon_visit Reporter.silent failingHost "http://localhost:11434".toList "llama3.2".toList
      "why?".toList 2 (by simp)).1 []) 0
  have hmade : failingVisit.2 = made := hmade
  rw [hmade]
  exact hvisit hasRoom_localhost

end Daemon

end MergeMessage
