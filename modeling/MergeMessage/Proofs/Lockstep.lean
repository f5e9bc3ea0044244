import MergeMessage.Program.Run
import MergeMessage.Proofs.Traces

/-!
# Runs in lockstep

A run is put together of what its world does, by `pure` and `bind` alone.  So a relation between
computations that sequences keep holds between two runs of the program, in whatever monads, as soon
as it holds between the things that the two worlds do.  Each part of the program asks for those
things only that it uses.

## Main definitions

* `Lockstep` — a relation between computations that sequences keep.

## Main results

* `lockstep_eq`, `lockstep_erases`, `lockstep_recordsOnly` — such relations.
* `Lockstep.run` — two runs are related if their worlds are.
-/

namespace MergeMessage

/-- A relation between computations that holds for those that do nothing, and for sequences if it
holds for their steps. -/
structure Lockstep {m n : Type → Type} [Monad m] [Monad n] (R : ∀ α : Type, m α → n α → Prop) :
    Prop where
  pure : ∀ {α : Type} (a : α), R α (Pure.pure a) (Pure.pure a)
  bind : ∀ {α β : Type} {x : m α} {y : n α} {f : α → m β} {g : α → n β}, R α x y →
    (∀ a, R β (f a) (g a)) → R β (x >>= f) (y >>= g)

/-! ### Relations -/

section

variable {m : Type → Type} [Monad m] {ε : Type}

theorem lockstep_eq : Lockstep fun α (x y : m α) => x = y where
  pure _ := rfl
  bind h hf := by rw [h, funext hf]

theorem lockstep_erases [LawfulMonad m] :
    Lockstep fun α (x : StateT (List ε) m α) (y : m α) => Erases x y where
  pure := erases_pure
  bind := erases_bind

/-- Only events that satisfy `p` are recorded. -/
def RecordsOnly {α : Type} (p : ε → Prop) (x : StateT (List ε) m α) : Prop :=
  Records (fun made _ => ∀ e ∈ made, p e) x

theorem recordsOnly_recorded [LawfulMonad m] {α : Type} {p : ε → Prop} {event : α → ε}
    (h : ∀ a, p (event a)) (x : m α) : RecordsOnly p (recorded event x) := by
  refine records_imp ?_ (records_recorded event (alwaysReturns_true x))
  rintro made a ⟨rfl, -⟩
  simpa using h a

theorem recordsOnly_imp [LawfulMonad m] {α : Type} {p q : ε → Prop} (hpq : ∀ e, p e → q e)
    {x : StateT (List ε) m α} (h : RecordsOnly p x) : RecordsOnly q x :=
  records_imp (fun _ _ hmade e he => hpq e (hmade e he)) h

/-- A computation goes in lockstep with itself and records only such events. -/
theorem lockstep_recordsOnly [LawfulMonad m] (p : ε → Prop) :
    Lockstep fun α (x y : StateT (List ε) m α) => x = y ∧ RecordsOnly p x where
  pure _ := ⟨rfl, records_pure (by simp)⟩
  bind hx hf := by
    refine ⟨lockstep_eq.bind hx.1 fun a => (hf a).1, ?_⟩
    refine records_bind hx.2 fun made a hmade => records_imp ?_ (hf a).2
    intro more b hmore
    exact List.forall_mem_append.mpr ⟨hmade, hmore⟩

end

/-- The end of the command that generates: what comes of the answer to a request. -/
def finishGenerate {m : Type → Type} [Monad m] (world : World m) (keep : Bool) (title : Text) :
    Generated → m Outcome
  | .error e => return .error (Failure.ofText e.message)
  | .ok none => do
    world.complain "The provider returned an empty message.\n".toList
    return .ok false
  | .ok (some message) => presentMessage world keep title message

namespace Lockstep

variable {m n : Type → Type} [Monad m] [Monad n] {R : ∀ α : Type, m α → n α → Prop}
  (h : Lockstep R)

include h

theorem forM {α : Type} {f : α → m Unit} {g : α → n Unit} (hf : ∀ a, R Unit (f a) (g a))
    (as : List α) : R Unit (as.forM f) (as.forM g) := by
  induction as with
  | nil => exact h.pure _
  | cons a as ih => exact h.bind (hf a) fun _ => ih

/-! ### Requests -/

theorem send {network : Http.Network m} {network' : Http.Network n} {request : Http.Request}
    (hnetwork : R _ (network request) (network' request)) :
    R _ (Http.send network request) (Http.send network' request) := by
  unfold Http.send
  split
  · exact h.pure _
  · refine h.bind hnetwork fun reply => ?_
    cases reply <;> exact h.pure _

theorem transport {network : Http.Network m} {network' : Http.Network n}
    (hnetwork : ∀ request, R _ (network request) (network' request)) (address key : Text)
    (request : ChatRequest) :
    R _ (Remote.transport network address key request)
      (Remote.transport network' address key request) := by
  refine h.bind (h.send (hnetwork _)) fun result => ?_
  cases result with
  | error e => exact h.pure _
  | ok received =>
    dsimp only
    split <;> exact h.pure _

section

variable {note : Reporter m} {note' : Reporter n} (hnote : ∀ entry, R _ (note entry) (note' entry))

include hnote

theorem remoteGenerate {post : Transport m} {post' : Transport n}
    (hpost : ∀ address key request, R _ (post address key request) (post' address key request))
    (access : Remote.Access) (prompt : Text) :
    R _ (Remote.generate note post access prompt) (Remote.generate note' post' access prompt) := by
  refine h.bind (hnote _) fun _ => h.bind (hpost _ _ _) fun reply => ?_
  cases reply with
  | error failure => exact h.pure _
  | ok reply =>
    refine h.bind (hnote _) fun _ => ?_
    dsimp only
    split
    · exact h.bind (hnote _) fun _ => h.pure _
    · exact h.pure _

end

/-! ### The daemon -/

section

variable {network : Http.Network m} {network' : Http.Network n}

theorem ask {request : Http.Request} (hnetwork : R _ (network request) (network' request)) :
    R _ (Daemon.ask network request) (Daemon.ask network' request) := by
  refine h.bind (h.send hnetwork) fun result => ?_
  cases result with
  | error e => exact h.pure _
  | ok received =>
    obtain ⟨address, reply⟩ := received
    dsimp only
    split <;> exact h.pure _

theorem fetch {request : Http.Request} (hnetwork : R _ (network request) (network' request)) :
    R _ (Daemon.fetch network request) (Daemon.fetch network' request) :=
  h.bind (h.ask hnetwork) fun _ => h.pure _

variable {note : Reporter m} {note' : Reporter n} (hnote : ∀ entry, R _ (note entry) (note' entry))
  {d : Daemon}

include hnote

theorem availability
    (hnetwork : R _ (network d.tagsRequest) (network' d.tagsRequest)) :
    R _ (d.availability note network) (d.availability note' network') := by
  refine h.bind (h.bind (h.fetch hnetwork) fun result => ?_) fun result => ?_
  · cases result with
    | error fault => exact h.pure _
    | ok reply =>
      dsimp only
      split <;> exact h.pure _
  · cases result with
    | error fault => exact h.bind (hnote _) fun _ => h.pure _
    | ok names =>
      dsimp only
      split
      · exact h.pure _
      · exact h.bind (hnote _) fun _ => h.pure _

theorem daemonPost {request : Http.Request}
    (hnetwork : R _ (network request) (network' request)) :
    R _ (Daemon.post note network request) (Daemon.post note' network' request) :=
  h.bind (hnote _) fun _ => h.fetch hnetwork

theorem chat {prompt : Text}
    (hnetwork : R _ (network (d.chatRequest prompt)) (network' (d.chatRequest prompt))) :
    R _ (d.chat note network prompt) (d.chat note' network' prompt) := by
  refine h.bind (hnote _) fun _ => h.bind (h.daemonPost hnote hnetwork) fun result => ?_
  cases result with
  | error fault => exact h.pure _
  | ok reply =>
    refine h.bind (hnote _) fun _ => ?_
    split <;> exact h.pure _

theorem unload (hnetwork : R _ (network d.unloadRequest) (network' d.unloadRequest)) :
    R _ (d.unload note network) (d.unload note' network') := by
  refine h.bind (h.daemonPost hnote hnetwork) fun result => ?_
  cases result <;> exact hnote _

theorem download (hnetwork : R _ (network d.pullRequest) (network' d.pullRequest)) :
    R _ (d.download note network) (d.download note' network') := by
  refine h.bind (hnote _) fun _ => h.bind (h.ask hnetwork) fun result => ?_
  cases result <;> exact h.pure _

/-- The provider over the daemon. -/
theorem daemonGenerate (hnetwork : ∀ request, R _ (network request) (network' request))
    (prompt : Text) :
    R _ (OnDevice.generate note (d.runtime note network) prompt)
      (OnDevice.generate note' (d.runtime note' network') prompt) := by
  refine h.bind (h.availability hnote (hnetwork _)) fun availability => ?_
  split
  · refine h.bind (h.pure _) fun opened => ?_
    cases opened with
    | error failure => exact h.pure _
    | ok _ =>
      exact h.bind (h.bind (h.chat hnote (hnetwork _)) fun _ => h.pure _) fun reply =>
        h.bind (h.unload hnote (hnetwork _)) fun _ => h.pure _
  · exact h.bind (hnote _) fun _ => h.pure _

end

/-! ### Generating -/

section

variable {note : Reporter m} {note' : Reporter n} (hnote : ∀ entry, R _ (note entry) (note' entry))
  {backends : Backends m} {backends' : Backends n}
  (honDevice : ∀ prompt, R _ (backends.onDevice prompt) (backends'.onDevice prompt))
  (hpost : ∀ address key request,
    R _ (backends.post address key request) (backends'.post address key request))

include hnote honDevice hpost

theorem dispatch (settings : Settings) (prompt : Text) :
    R _ (dispatch note settings backends prompt) (dispatch note' settings backends' prompt) := by
  unfold MergeMessage.dispatch
  split
  · exact h.bind (honDevice prompt) fun _ => h.pure _
  · split
    · exact h.pure _
    · exact h.remoteGenerate hnote hpost _ prompt

theorem generate (settings : Settings) (request : Request) :
    R _ (generate note settings backends request) (generate note' settings backends' request) := by
  refine h.bind (hnote _) fun _ => h.bind (hnote _) fun _ =>
    h.bind (h.dispatch hnote honDevice hpost settings request.prompt) fun answer => ?_
  match answer with
  | .error e => exact h.pure _
  | .ok none => exact h.pure _
  | .ok (some reply) =>
    dsimp only
    split <;> exact h.bind (hnote _) fun _ => h.pure _

end

/-! ### The world -/

section

variable {note : Reporter m} {note' : Reporter n} (hnote : ∀ entry, R _ (note entry) (note' entry))
  {world : World m} {world' : World n} (henvironment : world.environment = world'.environment)
  (hhome : world.home = world'.home)
  (hfile : ∀ path, R _ (world.fileAt path) (world'.fileAt path))
  (hinput : R _ world.input world'.input)
  (hbranch : R _ (world.askGit .branch) (world'.askGit .branch))
  (hdirectory : R _ (world.askGit .directory) (world'.askGit .directory))
  (hnetwork : ∀ request, R _ (world.network request) (world'.network request))
  (hstore : ∀ path content, R _ (world.store path content) (world'.store path content))
  (hprint : ∀ text, R _ (world.print text) (world'.print text))
  (hcomplain : ∀ text, R _ (world.complain text) (world'.complain text))

include hnote hnetwork in
theorem generateWith (settings : Settings) (request : Request) :
    R _ (MergeMessage.generate note settings (backendsOf world note settings) request)
      (MergeMessage.generate note' settings (backendsOf world' note' settings) request) :=
  h.generate hnote (h.daemonGenerate hnote hnetwork) (h.transport hnetwork) settings request

/-! #### What is loaded -/

include hnote hfile hhome in
theorem loadFileSettings :
    R _ (loadFileSettings world note) (loadFileSettings world' note') := by
  unfold MergeMessage.loadFileSettings
  rw [hhome]
  split
  · exact h.pure _
  · refine h.bind (hfile _) fun content => ?_
    cases content with
    | missing => exact h.pure _
    | unreadable => exact h.pure _
    | octets data =>
      dsimp only
      split
      · exact h.pure _
      · exact h.bind (hnote _) fun _ => h.pure _

include hfile in
theorem loadView (path : Text) : R _ (loadView world path) (loadView world' path) := by
  refine h.bind (hfile path) fun content => ?_
  split
  · exact h.pure _
  · split <;> exact h.pure _

include hnote hfile in
theorem loadViews (learned : Learned) (paths : List Text) :
    R _ (loadViews world note learned paths) (loadViews world' note' learned paths) := by
  induction paths generalizing learned with
  | nil => exact h.pure _
  | cons path paths ih =>
    refine h.bind (h.loadView hfile path) fun loaded => ?_
    cases loaded with
    | error failure => exact h.pure _
    | ok view => exact h.bind (h.forM hnote _) fun _ => ih _

/-! #### The repository -/

theorem askGit {query : GitQuery} (hgit : R _ (world.askGit query) (world'.askGit query)) :
    R _ (Repository.ask world query) (Repository.ask world' query) := by
  refine h.bind hgit fun answer => ?_
  cases answer <;> exact h.pure _

include hnote hbranch in
theorem branchOf (options : GenerateOptions) (learned : Learned) :
    R _ (branchOf world note options learned) (branchOf world' note' options learned) := by
  unfold MergeMessage.branchOf
  split
  · exact h.pure _
  · refine h.bind (h.bind (h.askGit hbranch) fun answer => ?_) fun _ => h.pure _
    cases answer with
    | ok name => exact h.pure _
    | error failure => exact h.bind (hnote _) fun _ => h.pure _

include hdirectory hstore in
theorem keepMessage (message : Text) :
    R _ (Repository.keepMessage world message) (Repository.keepMessage world' message) := by
  refine h.bind (h.askGit hdirectory) fun answer => ?_
  cases answer with
  | error failure => exact h.pure _
  | ok directory =>
    refine h.bind (hstore _ _) fun stored => ?_
    cases stored <;> exact h.pure _

/-! #### Commands -/

include henvironment hdirectory hstore hprint in
theorem presentMessage (keep : Bool) (title message : Text) :
    R _ (presentMessage world keep title message) (presentMessage world' keep title message) := by
  unfold MergeMessage.presentMessage
  rw [henvironment]
  refine h.bind (hprint _) fun _ => h.bind (hprint _) fun _ => ?_
  split
  · refine h.bind (h.keepMessage hdirectory hstore message) fun kept => ?_
    cases kept with
    | error failure => exact h.pure _
    | ok path => exact h.bind (hprint _) fun _ => h.pure _
  · exact h.pure _

include henvironment hdirectory hstore hprint hcomplain in
theorem finishGenerate (keep : Bool) (title : Text) (generated : Generated) :
    R _ (finishGenerate world keep title generated)
      (finishGenerate world' keep title generated) := by
  match generated with
  | .error e => exact h.pure _
  | .ok none => exact h.bind (hcomplain _) fun _ => h.pure _
  | .ok (some message) =>
    exact h.presentMessage henvironment hdirectory hstore hprint keep title message

include hnote henvironment hfile hbranch hdirectory hnetwork hstore hprint hcomplain in
theorem runGenerate (settings : Settings) (options : GenerateOptions) :
    R _ (runGenerate world note settings options) (runGenerate world' note' settings options) := by
  refine h.bind (h.loadViews hnote hfile _ _) fun loaded => ?_
  cases loaded with
  | error failure => exact h.pure _
  | ok learned =>
    refine h.bind (h.branchOf hnote hbranch options learned) fun branch => ?_
    have hfinish := h.finishGenerate henvironment hdirectory hstore hprint hcomplain options.apply
    have hgenerate := h.generateWith hnote hnetwork settings
    dsimp only
    split
    · exact h.bind (hnote _) fun _ => h.bind (hnote _) fun _ => h.bind (hnote _) fun _ =>
        h.bind (hnote _) fun _ => h.bind (hgenerate _) (hfinish _)
    · exact h.bind (hnote _) fun _ => h.bind (hnote _) fun _ =>
        h.bind (hnote _) fun _ => h.bind (hgenerate _) (hfinish _)

include hfile hinput in
theorem readMessage (source : MessageSource) :
    R _ (readMessage world source) (readMessage world' source) := by
  cases source with
  | argument message => exact h.pure _
  | file path =>
    refine h.bind (hfile path) fun content => ?_
    split <;> exact h.pure _
  | input =>
    refine h.bind hinput fun octets => ?_
    split <;> exact h.pure _

include hnote henvironment hfile hinput hprint in
theorem runLint (source : MessageSource) (title : Option Text) :
    R _ (runLint world note source title) (runLint world' note' source title) := by
  unfold MergeMessage.runLint
  rw [henvironment]
  refine h.bind (h.readMessage hfile hinput source) fun message => ?_
  cases message with
  | error failure => exact h.pure _
  | ok message => exact h.bind (hnote _) fun _ => h.bind (hprint _) fun _ => h.pure _

include hnote hnetwork in
theorem lookForModel (settings : Settings) :
    R _ (lookForModel world note settings) (lookForModel world' note' settings) :=
  h.bind (hnote _) fun _ => h.availability hnote (hnetwork _)

include hnote henvironment hnetwork hprint in
theorem runStatus (settings : Settings) :
    R _ (runStatus world note settings) (runStatus world' note' settings) := by
  unfold MergeMessage.runStatus
  rw [henvironment]
  exact h.bind (h.lookForModel hnote hnetwork settings) fun _ => h.bind (hprint _) fun _ => h.pure _

include hnote henvironment hnetwork hprint in
theorem runPull (settings : Settings) :
    R _ (runPull world note settings) (runPull world' note' settings) := by
  unfold MergeMessage.runPull
  rw [henvironment]
  refine h.bind (h.lookForModel hnote hnetwork settings) fun availability => ?_
  split
  · exact h.bind (hprint _) fun _ => h.pure _
  · refine h.bind (h.download hnote (hnetwork _)) fun result => ?_
    split
    · exact h.pure _
    · exact h.bind (hprint _) fun _ => h.pure _

include hnote henvironment hnetwork hprint in
theorem runCheck (settings : Settings) :
    R _ (runCheck world note settings) (runCheck world' note' settings) := by
  unfold MergeMessage.runCheck
  rw [henvironment]
  refine h.bind (hnote _) fun _ => h.bind (hnote _) fun _ => h.bind (h.dispatch hnote
    (h.daemonGenerate hnote hnetwork) (h.transport hnetwork) settings pingPrompt) fun answer => ?_
  cases answer with
  | error e => exact h.pure _
  | ok reply =>
    dsimp only
    split <;> exact h.bind (hprint _) fun _ => h.pure _

include hnote hhome henvironment hfile in
theorem withSettings {command : Settings → m Outcome} {command' : Settings → n Outcome}
    (hcommand : ∀ settings, R _ (command settings) (command' settings)) (options : GlobalOptions) :
    R _ (withSettings world note options command) (withSettings world' note' options command') := by
  unfold MergeMessage.withSettings loadSettings
  rw [henvironment]
  refine h.bind (h.bind (h.loadFileSettings hnote hhome hfile) fun _ => h.pure _) fun loaded => ?_
  cases loaded with
  | error failure => exact h.pure _
  | ok settings => exact hcommand settings

include hcomplain in
theorem statusOf (outcome : Outcome) : R _ (statusOf world outcome) (statusOf world' outcome) := by
  match outcome with
  | .ok true => exact h.pure _
  | .ok false => exact h.pure _
  | .error failure => exact h.bind (hcomplain _) fun _ => h.pure _

/-! #### Runs -/

include hnote henvironment hhome hfile hinput hbranch hdirectory hnetwork hstore hprint hcomplain in
theorem runCommand (line : CommandLine) :
    R _ (runCommand world note line) (runCommand world' note' line) := by
  unfold MergeMessage.runCommand
  split
  · exact h.runLint hnote henvironment hfile hinput hprint _ _
  · exact h.withSettings hnote henvironment hhome hfile (fun settings =>
      h.runGenerate hnote henvironment hfile hbranch hdirectory hnetwork hstore hprint hcomplain
        settings _) _
  · exact h.withSettings hnote henvironment hhome hfile
      (h.runStatus hnote henvironment hnetwork hprint) _
  · exact h.withSettings hnote henvironment hhome hfile
      (h.runPull hnote henvironment hnetwork hprint) _
  · exact h.withSettings hnote henvironment hhome hfile
      (h.runCheck hnote henvironment hnetwork hprint) _

include hcomplain in
theorem reporter (logger : Logger) (entry : LogEntry) :
    R _ (logger.reporter world.complain entry) (logger.reporter world'.complain entry) := by
  unfold Logger.reporter
  split
  · exact hcomplain _
  · exact h.pure _

include henvironment hhome hfile hinput hbranch hdirectory hnetwork hstore hprint hcomplain in
/-- **Two runs are related if their worlds are.** -/
theorem run (words : List Text) : R _ (run world words) (run world' words) := by
  unfold MergeMessage.run
  rw [henvironment]
  split
  · split
    · exact h.bind (hprint _) fun _ => h.pure _
    · exact h.bind (hcomplain _) fun _ => h.pure _
  · exact h.bind (h.forM (fun complaint => hcomplain _) _) fun _ =>
      h.bind (h.runCommand (h.reporter hcomplain _) henvironment hhome hfile hinput hbranch
        hdirectory hnetwork hstore hprint hcomplain _) fun outcome => h.statusOf hcomplain outcome

end

end Lockstep

end MergeMessage
