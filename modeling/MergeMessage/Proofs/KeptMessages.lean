import MergeMessage.Proofs.WorldRecords

/-!
# What a run writes

Of all commands, only the one that generates writes a file, and it does so as the last thing but
one: everything that can fail comes before.  First the settings file and the views of a page are
read, and nothing is sent before all of them are; then a backend is asked; the message is shown with
the verdict on it; and only if it is to be kept, git is asked for the repository, and the message is
written there.

A run is described by what it does, in order: what loads, what prepares, and what is done with the
answer.  What it means for the files follows from that.

## Main definitions

* `AsksToGenerate`, `AsksToKeep` — what the words of a command line ask for.
* `RefusesSettings`, `RefusesView` — what a run cannot go on with.
* `Keeps`, `Finishes` — how a message is kept, and what is done with an answer.
* `Completes`, `Generates` — what the command that generates does.
* `KeepsMessage` — a run that keeps a message.

## Main results

* `records_run`, `records_run_generate` — what a run does, and one that asks for a message.
* `recordsOnly_run` — any other run writes no file.
* `run_changes_files_with_message` — files change only with a message that was shown.
-/

namespace MergeMessage

open Terminal WorldEvent

variable {m : Type → Type} [Monad m]

/-! ### What is asked for -/

/-- The words ask for a message, with these options. -/
def AsksToGenerate (environment : Environment) (words : List Text) (options : GenerateOptions) :
    Prop :=
  ∃ line, CommandLine.parse environment words = .ok line ∧ line.command = .generate options

/-- The words of a command line ask for one thing only. -/
theorem AsksToGenerate.unique {environment : Environment} {words : List Text}
    {options options' : GenerateOptions} (h : AsksToGenerate environment words options)
    (h' : AsksToGenerate environment words options') : options = options' := by
  obtain ⟨line, hline, hcommand⟩ := h
  obtain ⟨line', hline', hcommand'⟩ := h'
  rw [hline] at hline'
  obtain rfl := Except.ok.inj hline'
  rw [hcommand] at hcommand'
  exact Command.generate.inj hcommand'

/-- The words ask for a message that is kept for the next commit. -/
def AsksToKeep (environment : Environment) (words : List Text) : Prop :=
  ∃ options, AsksToGenerate environment words options ∧ options.apply = true

/-- The settings file is refused: it cannot be read, or it holds no settings. -/
def RefusesSettings (home : Option Text) (files : Files) : Prop :=
  ∃ directory, home = some directory ∧
    (files (settingsPath directory) = .unreadable ∨
      ∃ data e, files (settingsPath directory) = .octets data ∧
        FileSettings.ofOctets data = .error e)

/-- The view of a page is refused: the file has no text, or its text is no view. -/
def RefusesView (content : FileContent) : Prop :=
  ∀ s, content.text = .ok s → PullRequest.Snapshot.ofJson? s = none

theorem isPreparation_of_complaint (e : WorldEvent) (h : ∃ text, e = .complained text) :
    e.isPreparation = true := by
  obtain ⟨text, rfl⟩ := h
  rfl

theorem isStored_of_complaint (e : WorldEvent) (h : ∃ text, e = .complained text) :
    e.isStored = false := by
  obtain ⟨text, rfl⟩ := h
  rfl

theorem isLoading_of_complaints {notes : List WorldEvent}
    (h : ∀ e ∈ notes, ∃ text, e = .complained text) : ∀ e ∈ notes, e.isLoading = true := by
  intro e he
  obtain ⟨text, rfl⟩ := h e he
  rfl

/-! ### What comes of an answer -/

/-- What is said about a message: the message as it is shown, and the verdict on it. -/
def preview (environment : Environment) (title message : Text) : List Text :=
  [previewText message,
    verdictText (isColoured environment) (Commit.lint message (some title))]

/-- How a message is kept: the repository is asked for, and the message is written there. -/
inductive Keeps (message : Text) : List WorldEvent → Except Failure Text → Prop
  /-- Git does not say where the repository is. -/
  | notAsked (fault : GitFault) (failure : Failure) :
    Keeps message [.asked .directory (.error fault)] (.error failure)
  /-- The message cannot be written. -/
  | notStored (directory reason : Text) (failure : Failure) :
    Keeps message
      [.asked .directory (.ok directory),
        .stored (Repository.messagePath (Text.trim directory)) (message ++ ['\n']) (.error reason)]
      (.error failure)
  /-- The message is written. -/
  | kept (directory : Text) :
    Keeps message
      [.asked .directory (.ok directory),
        .stored (Repository.messagePath (Text.trim directory)) (message ++ ['\n']) (.ok ())]
      (.ok (Repository.messagePath (Text.trim directory)))

/-- What is done with an answer, and how the command ends: a message is shown with the verdict for
this title, and then it is kept if that was asked for. -/
inductive Finishes (environment : Environment) (keep : Bool) (title : Text) :
    List WorldEvent → Outcome → Prop
  /-- There is no answer. -/
  | failed (failure : Failure) : Finishes environment keep title [] (.error failure)
  /-- The answer is empty. -/
  | empty (text : Text) : Finishes environment keep title [.complained text] (.ok false)
  /-- The message is shown, and that is all that was asked for. -/
  | shown (message : Text) (h : keep = false) :
    Finishes environment keep title ((preview environment title message).map .printed) (.ok true)
  /-- The message cannot be kept. -/
  | notKept (message : Text) (made : List WorldEvent) (failure : Failure)
      (h : Keeps message made (.error failure)) :
    Finishes environment keep title ((preview environment title message).map .printed ++ made)
      (.error failure)
  /-- The message is kept. -/
  | kept (message : Text) (made : List WorldEvent) (path : Text) (hkeep : keep = true)
      (h : Keeps message made (.ok path)) :
    Finishes environment keep title
      ((preview environment title message).map .printed ++ made ++
        [.printed ("Wrote message to ".toList ++ path ++ ['\n'])])
      (.ok true)

/-- First something is prepared, and then something is done with an answer.  A title that is given
with the options is the one that counts. -/
def Completes (environment : Environment) (options : GenerateOptions) (made : List WorldEvent)
    (outcome : Outcome) : Prop :=
  ∃ title before after, (∀ given ∈ options.title, given = title) ∧ made = before ++ after ∧
    (∀ e ∈ before, e.isPreparation = true) ∧
    Finishes environment options.apply title after outcome

theorem mem_title_eq_titleOf {options : GenerateOptions} {given : Text} (h : given ∈ options.title)
    (learned : Learned) : given = titleOf options learned := by
  rw [titleOf, Option.mem_def.mp h]
  rfl

section

variable {environment : Environment} {options : GenerateOptions} {made : List WorldEvent}
  {outcome : Outcome}

theorem Completes.prepend {first : List WorldEvent} (hfirst : ∀ e ∈ first, e.isPreparation = true)
    (h : Completes environment options made outcome) :
    Completes environment options (first ++ made) outcome := by
  obtain ⟨title, before, after, htitle, rfl, hbefore, hafter⟩ := h
  exact ⟨title, first ++ before, after, htitle, by simp,
    List.forall_mem_append.mpr ⟨hfirst, hbefore⟩, hafter⟩

/-- A run of the command that generates: where what it needs is refused, it does no more than
load. -/
structure Generates (refuses : Files → Prop) (environment : Environment) (options : GenerateOptions)
    (made : List WorldEvent) (outcome : Outcome) : Prop where
  completes : Completes environment options made outcome
  refused : ∀ files, Shows files made → refuses files →
    (∀ e ∈ made, e.isLoading = true) ∧ ∃ failure, outcome = .error failure

/-- A run that fails while it loads. -/
theorem Generates.of_loading {refuses : Files → Prop} (h : ∀ e ∈ made, e.isLoading = true)
    (failure : Failure) : Generates refuses environment options made (.error failure) where
  completes := ⟨titleOf options {}, made, [], fun _ hgiven => mem_title_eq_titleOf hgiven {},
    by simp, fun e he => isPreparation_of_isLoading (h e he), .failed failure⟩
  refused _ _ _ := ⟨h, failure, rfl⟩

/-- What is loaded first does not count as refused if the run goes on. -/
theorem Generates.prepend {refuses refuses' : Files → Prop} {first : List WorldEvent}
    (hfirst : ∀ e ∈ first, e.isLoading = true)
    (hrefuses : ∀ files, Shows files first → refuses' files → refuses files)
    (h : Generates refuses environment options made outcome) :
    Generates refuses' environment options (first ++ made) outcome where
  completes := h.completes.prepend fun e he => isPreparation_of_isLoading (hfirst e he)
  refused files hshows hrefused := by
    obtain ⟨hmade, hfailure⟩ :=
      h.refused files hshows.append_right (hrefuses files hshows.append_left hrefused)
    exact ⟨List.forall_mem_append.mpr ⟨hfirst, hmade⟩, hfailure⟩

end

variable [LawfulMonad m]

/-! ### Keeping -/

theorem records_printed (world : World m) (text : Text) :
    Records (fun made _ => made = [.printed text]) (world.recorded.print text) :=
  records_imp (fun _ _ h => h.1) (records_recorded _ (alwaysReturns_true _))

theorem records_keepMessage (world : World m) (message : Text) :
    Records (Keeps message) (Repository.keepMessage world.recorded message) := by
  unfold Repository.keepMessage Repository.ask
  rw [bind_assoc]
  refine records_bind (records_recorded _ (alwaysReturns_true _)) ?_
  rintro made answer ⟨rfl, -⟩
  -- there is something to write to only if git says where the repository is
  cases answer with
  | error fault =>
    rw [pure_bind]
    exact records_pure (.notAsked fault _)
  | ok directory =>
    rw [pure_bind]
    refine records_bind (records_recorded _ (alwaysReturns_true _)) ?_
    rintro made stored ⟨rfl, -⟩
    cases stored with
    | error reason => exact records_pure (.notStored directory reason _)
    | ok _ => exact records_pure (.kept directory)

theorem records_presentMessage (world : World m) (keep : Bool) (title message : Text) :
    Records (Finishes world.environment keep title)
      (presentMessage world.recorded keep title message) := by
  unfold presentMessage
  refine records_bind (records_printed world _) ?_
  rintro made ⟨⟩ rfl
  refine records_bind (records_printed world _) ?_
  rintro made ⟨⟩ rfl
  split
  · next hkeep =>
    refine records_bind (records_keepMessage world message) ?_
    intro made kept hkept
    cases kept with
    | error failure =>
      refine records_pure ?_
      simpa [preview] using Finishes.notKept message made failure hkept
    | ok path =>
      refine records_bind (records_printed world _) ?_
      rintro made ⟨⟩ rfl
      refine records_pure ?_
      simpa [preview] using Finishes.kept message _ path hkeep hkept
  · next hkeep => exact records_pure (.shown message (by simpa using hkeep))

theorem records_finishGenerate (world : World m) (keep : Bool) (title : Text)
    (generated : Generated) :
    Records (Finishes world.environment keep title)
      (finishGenerate world.recorded keep title generated) := by
  match generated with
  | .error e => exact records_pure (.failed _)
  | .ok none =>
    refine records_bind (records_recorded _ (alwaysReturns_true _)) ?_
    rintro made ⟨⟩ ⟨rfl, -⟩
    exact records_pure (.empty _)
  | .ok (some message) => exact records_presentMessage world keep title message

/-! ### Loading -/

section

variable {note : Reporter (StateT (List WorldEvent) m)}
  (hnote : ∀ entry, RecordsOnly (fun e => ∃ text, e = .complained text) (note entry))

theorem records_loadView (world : World m) (path : Text) :
    Records (fun made result => ∃ content, made = [.read path content] ∧
        (RefusesView content → ∃ failure, result = .error failure))
      (loadView world.recorded path) := by
  unfold loadView
  refine records_bind (records_recorded _ (alwaysReturns_true _)) ?_
  rintro made content ⟨rfl, -⟩
  split
  · exact records_pure ⟨content, rfl, fun _ => ⟨_, rfl⟩⟩
  · next s hs =>
    split
    · exact records_pure ⟨content, rfl, fun _ => ⟨_, rfl⟩⟩
    · next view hview =>
      refine records_pure ⟨content, rfl, fun hrefused => ?_⟩
      rw [hrefused s hs] at hview
      cases hview

include hnote

theorem records_loadViews (world : World m) (learned : Learned) (paths : List Text) :
    Records (fun made result => (∀ e ∈ made, e.isLoading = true) ∧
        ∀ files, Shows files made → (∃ path ∈ paths, RefusesView (files path)) →
          ∃ failure, result = .error failure)
      (loadViews world.recorded note learned paths) := by
  -- the induction is on the paths, whatever was learned from those before
  induction paths generalizing learned with
  | nil => exact records_pure ⟨by simp, by simp⟩
  | cons path paths ih =>
    unfold loadViews
    refine records_bind (records_loadView world path) ?_
    rintro made loaded ⟨content, rfl, hrefused⟩
    cases loaded with
    | error failure => exact records_pure ⟨by simp [isLoading], fun _ _ _ => ⟨failure, rfl⟩⟩
    | ok view =>
      refine records_bind ((lockstep_recordsOnly _).forM (fun entry => ⟨rfl, hnote entry⟩) _).2 ?_
      intro notes _ hnotes
      refine records_imp ?_ (ih _)
      rintro more result ⟨hmore, hresult⟩
      refine ⟨?_, fun files hshows hpaths => ?_⟩
      · simpa [isLoading, or_imp, forall_and] using ⟨isLoading_of_complaints hnotes, hmore⟩
      · obtain ⟨refused, hmem, hview⟩ := hpaths
        rcases List.mem_cons.mp hmem with rfl | hmem
        · -- then the command would not have gone on
          have hcontent := hshows refused content (by simp)
          rw [← hcontent] at hview
          obtain ⟨failure, hfailure⟩ := hrefused hview
          cases hfailure
        · exact hresult files hshows.append_right.append_right ⟨refused, hmem, hview⟩

theorem records_loadFileSettings (world : World m) :
    Records (fun made result => (∀ e ∈ made, e.isLoading = true) ∧
        ∀ files, Shows files made → RefusesSettings world.home files →
          ∃ failure, result = .error failure)
      (loadFileSettings world.recorded note) := by
  unfold loadFileSettings
  rw [World.recorded_home]
  split
  · next hhome =>
    refine records_pure ⟨by simp, fun files _ hrefused => ?_⟩
    obtain ⟨directory, hdirectory, -⟩ := hrefused
    rw [hhome] at hdirectory
    cases hdirectory
  · next home hhome =>
    dsimp only
    refine records_bind (records_recorded _ (alwaysReturns_true _)) ?_
    rintro made content ⟨rfl, -⟩
    -- the settings file that was read is the one that is refused
    have hfound (more : List WorldEvent) {files : Files}
        (hshows : Shows files ([.read (settingsPath home) content] ++ more))
        (hrefused : RefusesSettings world.home files) :
        content = .unreadable ∨
          ∃ data e, content = .octets data ∧ FileSettings.ofOctets data = .error e := by
      obtain ⟨directory, hdirectory, hcontent⟩ := hrefused
      rw [hhome] at hdirectory
      rwa [← Option.some.inj hdirectory, ← hshows (settingsPath home) content (by simp)] at hcontent
    -- a settings file that is missing is no failure, unlike one that cannot be read
    cases content with
    | missing =>
      refine records_pure ⟨by simp [isLoading], fun files hshows hrefused => ?_⟩
      simpa using hfound [] hshows hrefused
    | unreadable => exact records_pure ⟨by simp [isLoading], fun _ _ _ => ⟨_, rfl⟩⟩
    | octets data =>
      dsimp only
      split
      · exact records_pure ⟨by simp [isLoading], fun _ _ _ => ⟨_, rfl⟩⟩
      · next file hfile =>
        refine records_bind (hnote _) ?_
        intro notes _ hnotes
        refine records_pure ⟨?_, fun files hshows hrefused => ?_⟩
        · simpa [isLoading] using isLoading_of_complaints hnotes
        · rcases hfound _ hshows hrefused with hcontent | ⟨data', e, hdata, he⟩
          · cases hcontent
          · rw [← FileContent.octets.inj hdata, hfile] at he
            cases he

end

/-! ### Commands -/

section

variable {note : Reporter (StateT (List WorldEvent) m)}
  (hnote : ∀ entry, RecordsOnly (fun e => ∃ text, e = .complained text) (note entry))

include hnote

omit hnote in
theorem records_completes_bind {α : Type} {environment : Environment} {options : GenerateOptions}
    {x : StateT (List WorldEvent) m α} {f : α → StateT (List WorldEvent) m Outcome}
    (hx : RecordsOnly (fun e => e.isPreparation = true) x)
    (hf : ∀ a, Records (Completes environment options) (f a)) :
    Records (Completes environment options) (x >>= f) :=
  records_bind hx fun _ a hmade => records_imp (fun _ _ h => h.prepend hmade) (hf a)

theorem records_runGenerate (world : World m) (settings : Settings) (options : GenerateOptions) :
    Records (Generates (fun files => ∃ path ∈ options.pages, RefusesView (files path))
        world.environment options)
      (runGenerate world.recorded note settings options) := by
  unfold runGenerate
  refine records_bind (records_loadViews hnote world {} options.pages) ?_
  rintro made loaded ⟨hmade, hrefused⟩
  cases loaded with
  | error failure => exact records_pure (by simpa using Generates.of_loading hmade failure)
  | ok learned =>
    have hlock := lockstep_recordsOnly (m := m) fun e : WorldEvent => e.isPreparation = true
    -- no view was refused
    suffices hrest : Records (Completes world.environment options) _ by
      refine records_imp (fun more outcome h => ⟨h.prepend fun e he =>
        isPreparation_of_isLoading (hmade e he), fun files hshows hviews => ?_⟩) hrest
      obtain ⟨failure, hfailure⟩ := hrefused files hshows.append_left hviews
      cases hfailure
    have hnote (entry : LogEntry) := recordsOnly_imp isPreparation_of_complaint (hnote entry)
    have hbranch : Records _ (branchOf world.recorded note options learned) :=
      And.right (hlock.branchOf (fun entry => ⟨rfl, hnote entry⟩)
        ⟨rfl, recordsOnly_askGit world .branch fun _ => rfl⟩ options learned)
    have hgenerate (request : Request) : Records _
        (generate note settings (backendsOf world.recorded note settings) request) :=
      And.right (hlock.generateWith (fun entry => ⟨rfl, hnote entry⟩)
        (fun request => ⟨rfl, recordsOnly_network world request fun _ => rfl⟩) settings request)
    refine records_completes_bind hbranch fun branch => ?_
    -- whatever is generated, the title was settled before
    have hfinish (generated : Generated) : Records (Completes world.environment options)
        (finishGenerate world.recorded options.apply (titleOf options learned) generated) :=
      records_imp (fun made _ h =>
          ⟨_, [], made, fun _ hgiven => mem_title_eq_titleOf hgiven learned, rfl, by simp, h⟩)
        (records_finishGenerate world options.apply _ generated)
    dsimp only
    -- a context that is cached is noted, and makes no other difference
    split
    · exact records_completes_bind (hnote _) fun _ => records_completes_bind (hnote _) fun _ =>
        records_completes_bind (hnote _) fun _ => records_completes_bind (hnote _) fun _ =>
          records_completes_bind (hgenerate _) hfinish
    · exact records_completes_bind (hnote _) fun _ => records_completes_bind (hnote _) fun _ =>
        records_completes_bind (hnote _) fun _ => records_completes_bind (hgenerate _) hfinish

theorem records_generateCommand (world : World m) (options : GlobalOptions)
    (generateOptions : GenerateOptions) :
    Records (Generates (fun files => RefusesSettings world.home files ∨
          ∃ path ∈ generateOptions.pages, RefusesView (files path))
        world.environment generateOptions)
      (withSettings world.recorded note options fun settings =>
        runGenerate world.recorded note settings generateOptions) := by
  unfold withSettings loadSettings
  rw [bind_assoc]
  refine records_bind (records_loadFileSettings hnote world) ?_
  rintro made loaded ⟨hmade, hrefused⟩
  rw [pure_bind]
  cases loaded with
  | error failure => exact records_pure (by simpa using Generates.of_loading hmade failure)
  | ok file =>
    refine records_imp (fun more outcome h => h.prepend hmade ?_)
      (records_runGenerate hnote world _ generateOptions)
    -- a settings file that is refused would have ended the command here
    rintro files hshows (hsettings | hviews)
    · obtain ⟨failure, hfailure⟩ := hrefused files hshows hsettings
      cases hfailure
    · exact hviews

/-- The other commands write no file. -/
theorem recordsOnly_runCommand (world : World m) {line : CommandLine}
    (h : ∀ options, line.command ≠ .generate options) :
    RecordsOnly (fun e => e.isStored = false) (runCommand world.recorded note line) := by
  -- of the parts of such a command none writes, so the command does not either
  have hlock := lockstep_recordsOnly (m := m) fun e : WorldEvent => e.isStored = false
  have hnote (entry : LogEntry) :
      note entry = _ ∧ RecordsOnly (fun e => e.isStored = false) (note entry) :=
    ⟨rfl, recordsOnly_imp isStored_of_complaint (hnote entry)⟩
  have hfile (path : Text) : world.recorded.fileAt path = _ ∧
      RecordsOnly (fun e => e.isStored = false) (world.recorded.fileAt path) :=
    ⟨rfl, recordsOnly_fileAt world path fun _ => rfl⟩
  have hnetwork (request : Http.Request) : world.recorded.network request = _ ∧
      RecordsOnly (fun e => e.isStored = false) (world.recorded.network request) :=
    ⟨rfl, recordsOnly_network world request fun _ => rfl⟩
  have hprint (text : Text) : world.recorded.print text = _ ∧
      RecordsOnly (fun e => e.isStored = false) (world.recorded.print text) :=
    ⟨rfl, recordsOnly_print world text rfl⟩
  unfold runCommand
  split
  · exact And.right (hlock.runLint hnote rfl hfile ⟨rfl, recordsOnly_input world fun _ => rfl⟩
      hprint _ _)
  · next options hcommand => exact absurd hcommand (h options)
  · exact And.right (hlock.withSettings hnote rfl rfl hfile
      (hlock.runStatus hnote rfl hnetwork hprint) _)
  · exact And.right (hlock.withSettings hnote rfl rfl hfile
      (hlock.runPull hnote rfl hnetwork hprint) _)
  · exact And.right (hlock.withSettings hnote rfl rfl hfile
      (hlock.runCheck hnote rfl hnetwork hprint) _)

end

/-! ### Runs -/

/-- The log goes to the standard error output. -/
theorem recordsOnly_reporter (world : World m) (logger : Logger) (entry : LogEntry) :
    RecordsOnly (fun e => ∃ text, e = .complained text)
      (logger.reporter world.recorded.complain entry) :=
  And.right ((lockstep_recordsOnly _).reporter
    (fun text => ⟨rfl, recordsOnly_complain world text ⟨text, rfl⟩⟩) logger entry)

/-- **A run is its command**, with complaints before and after it, and its status says whether the
command succeeded. -/
theorem records_run (world : World m) {words : List Text} {line : CommandLine}
    (hparse : CommandLine.parse world.environment words = .ok line)
    {p : List WorldEvent → Outcome → Prop}
    (h : ∀ note, (∀ entry, RecordsOnly (fun e => ∃ text, e = .complained text) (note entry)) →
      Records p (runCommand world.recorded note line)) :
    Records (fun made status => ∃ outcome before core after, made = before ++ core ++ after ∧
        (∀ e ∈ before ++ after, ∃ text, e = .complained text) ∧ p core outcome ∧
        (outcome = .ok true ∧ status = 0 ∨ outcome ≠ .ok true ∧ status = 1))
      (run world.recorded words) := by
  have hcomplain (text : Text) :
      RecordsOnly (fun e => ∃ text, e = .complained text) (world.recorded.complain text) :=
    recordsOnly_complain world text ⟨text, rfl⟩
  unfold run
  rw [World.recorded_environment, hparse]
  dsimp only
  refine records_bind ((lockstep_recordsOnly _).forM
    (fun complaint => ⟨rfl, hcomplain (complaint ++ ['\n'])⟩) _).2 ?_
  intro before _ hbefore
  refine records_bind (h _ (recordsOnly_reporter world _)) ?_
  intro core outcome hcore
  -- only a failure is complained of when the command is done
  match outcome with
  | .ok true =>
    exact records_pure
      ⟨_, before, core, [], by simp, by simpa using hbefore, hcore, .inl ⟨rfl, rfl⟩⟩
  | .ok false =>
    exact records_pure
      ⟨_, before, core, [], by simp, by simpa using hbefore, hcore, .inr ⟨by simp, rfl⟩⟩
  | .error failure =>
    refine records_bind (hcomplain _) ?_
    intro after _ hafter
    exact records_pure ⟨_, before, core, after, by simp,
      List.forall_mem_append.mpr ⟨hbefore, hafter⟩, hcore, .inr ⟨by simp, rfl⟩⟩

/-- A run that asks for a message. -/
theorem records_run_generate (world : World m) {words : List Text} {options : GenerateOptions}
    (h : AsksToGenerate world.environment words options) :
    Records (fun made status => ∃ outcome before core after, made = before ++ core ++ after ∧
        (∀ e ∈ before ++ after, ∃ text, e = .complained text) ∧
        Generates (fun files => RefusesSettings world.home files ∨
          ∃ path ∈ options.pages, RefusesView (files path)) world.environment options core outcome ∧
        (outcome = .ok true ∧ status = 0 ∨ outcome ≠ .ok true ∧ status = 1))
      (run world.recorded words) := by
  obtain ⟨line, hparse, hcommand⟩ := h
  refine records_run world hparse fun note hnote => ?_
  unfold runCommand
  rw [hcommand]
  exact records_generateCommand hnote world line.options options

/-- A run that asks for no message writes no file. -/
theorem recordsOnly_run (world : World m) {words : List Text}
    (h : ∀ options, ¬AsksToGenerate world.environment words options) :
    RecordsOnly (fun e => e.isStored = false) (run world.recorded words) := by
  have hcomplain (text : Text) :
      RecordsOnly (fun e => e.isStored = false) (world.recorded.complain text) :=
    recordsOnly_complain world text rfl
  have hprint (text : Text) :
      RecordsOnly (fun e => e.isStored = false) (world.recorded.print text) :=
    recordsOnly_print world text rfl
  have hlock := lockstep_recordsOnly (m := m) fun e : WorldEvent => e.isStored = false
  unfold run
  rw [World.recorded_environment]
  -- a command line that is refused leads to one text, printed or complained
  split
  · split
    · exact And.right (hlock.bind ⟨rfl, hprint _⟩ fun _ => hlock.pure _)
    · exact And.right (hlock.bind ⟨rfl, hcomplain _⟩ fun _ => hlock.pure _)
  · next line hparse =>
    have hcommand (options : GenerateOptions) : line.command ≠ .generate options :=
      fun hcommand => h options ⟨line, hparse, hcommand⟩
    exact And.right (hlock.bind (hlock.forM (fun complaint => ⟨rfl, hcomplain _⟩) _) fun _ =>
      hlock.bind ⟨rfl, recordsOnly_runCommand (recordsOnly_reporter world _) world hcommand⟩
        fun outcome =>
        hlock.statusOf (fun text => ⟨rfl, hcomplain text⟩) outcome)

/-! ### Files -/

theorem filesAfter_preparation {before : List WorldEvent}
    (h : ∀ e ∈ before, e.isPreparation = true) (files : Files) : filesAfter files before = files :=
  filesAfter_eq_self (fun e he => isStored_of_isPreparation (h e he)) files

theorem printed?_preparation {before : List WorldEvent}
    (h : ∀ e ∈ before, e.isPreparation = true) : before.filterMap WorldEvent.printed? = [] :=
  List.filterMap_eq_nil_iff.mpr fun e he => printed?_of_isPreparation (h e he)

theorem directory?_preparation {before : List WorldEvent}
    (h : ∀ e ∈ before, e.isPreparation = true) : before.filterMap WorldEvent.directory? = [] :=
  List.filterMap_eq_nil_iff.mpr fun e he => directory?_of_isPreparation (h e he)

/-- Unless a message is kept, no file changes. -/
theorem Completes.filesAfter_eq {environment : Environment} {options : GenerateOptions}
    {made : List WorldEvent} {outcome : Outcome} (h : Completes environment options made outcome)
    (hnot : options.apply = false ∨ outcome ≠ .ok true) (files : Files) :
    filesAfter files made = files := by
  obtain ⟨title, before, after, -, rfl, hbefore, hafter⟩ := h
  rw [filesAfter_append, filesAfter_preparation hbefore]
  cases hafter with
  | failed failure => rfl
  | empty text => rfl
  | shown message _ => rfl
  | notKept message made failure hkeeps => cases hkeeps <;> rfl
  | kept message made path hkeep _ => simp [hkeep] at hnot

/-- What a run shows and does that keeps a message. -/
structure KeepsMessage (environment : Environment) (title message directory : Text)
    (made : List WorldEvent) : Prop where
  /-- The message is shown, the verdict on it, and then where it was written. -/
  shows : made.filterMap WorldEvent.printed? = preview environment title message ++
    ["Wrote message to ".toList ++ Repository.messagePath (Text.trim directory) ++ ['\n']]
  /-- This is where the repository is. -/
  asks : made.filterMap WorldEvent.directory? = [.ok directory]
  /-- The message and a line feed are written there, and no other file changes. -/
  stores : ∀ files, filesAfter files made = Function.update files
    (Repository.messagePath (Text.trim directory)) (.octets (Text.octets (message ++ ['\n'])))

/-- What is prepared leaves no trace in files or on the standard output. -/
theorem KeepsMessage.around {environment : Environment} {title message directory : Text}
    {before core after : List WorldEvent} (hbefore : ∀ e ∈ before, e.isPreparation = true)
    (hafter : ∀ e ∈ after, e.isPreparation = true)
    (h : KeepsMessage environment title message directory core) :
    KeepsMessage environment title message directory (before ++ core ++ after) where
  shows := by
    rw [List.filterMap_append, List.filterMap_append, printed?_preparation hbefore,
      printed?_preparation hafter, h.shows, List.append_nil, List.nil_append]
  asks := by
    rw [List.filterMap_append, List.filterMap_append, directory?_preparation hbefore,
      directory?_preparation hafter, h.asks, List.append_nil, List.nil_append]
  stores files := by
    rw [filesAfter_append, filesAfter_append, filesAfter_preparation hbefore, h.stores,
      filesAfter_preparation hafter]

/-- A run that succeeds has kept a message if that was asked for. -/
theorem Completes.keepsMessage {environment : Environment} {options : GenerateOptions}
    {before core after : List WorldEvent} (hbefore : ∀ e ∈ before, e.isPreparation = true)
    (hafter : ∀ e ∈ after, e.isPreparation = true)
    (h : Completes environment options core (.ok true)) (happly : options.apply = true) :
    ∃ title message directory, (∀ given ∈ options.title, given = title) ∧
      KeepsMessage environment title message directory (before ++ core ++ after) := by
  obtain ⟨title, prepared, finished, htitle, rfl, hprepared, hfinished⟩ := h
  cases hfinished with
  | shown message hkeep => simp [happly] at hkeep
  | kept message made path _ hkeeps =>
    cases hkeeps with
    | kept directory =>
      -- around the message nothing is printed, asked or written
      refine ⟨title, message, directory, htitle, .around hbefore hafter ⟨?_, ?_, fun files => ?_⟩⟩
      · rw [List.filterMap_append, printed?_preparation hprepared]
        rfl
      · rw [List.filterMap_append, directory?_preparation hprepared]
        rfl
      · rw [filesAfter_append, filesAfter_preparation hprepared]
        rfl

/-- **Files change only with a message.**  Whatever the world does, a run changes no file unless it
asks for a message to be kept and succeeds; then it has shown the message with its verdict, and only
the file for the next commit changes, which then holds that message and a line feed.  If the
settings file or any view of a page is refused, such a run fails and sends nothing.  Keeping the
record that says so makes no difference to the run. -/
theorem run_changes_files_with_message (world : World m) (words : List Text) :
    Records (fun made status =>
        (¬(AsksToKeep world.environment words ∧ status = 0) →
          ∀ files, filesAfter files made = files) ∧
        (AsksToKeep world.environment words → status = 0 → ∃ title message directory,
          KeepsMessage world.environment title message directory made) ∧
        ∀ options, AsksToGenerate world.environment words options → ∀ files, Shows files made →
          (RefusesSettings world.home files ∨ ∃ path ∈ options.pages, RefusesView (files path)) →
          status = 1 ∧ ∀ e ∈ made, e.isSent = false)
      (run world.recorded words) ∧
    Erases (run world.recorded words) (run world words) := by
  refine ⟨?_, erases_run world words⟩
  -- a run that asks for anything but a message writes nothing at all
  by_cases hgenerate : ∃ options, AsksToGenerate world.environment words options
  · obtain ⟨options, hoptions⟩ := hgenerate
    refine records_imp ?_ (records_run_generate world hoptions)
    rintro made status ⟨outcome, before, core, after, rfl, hcomplaints, hcore, hstatus⟩
    rw [List.forall_mem_append] at hcomplaints
    have hbefore e he := isPreparation_of_complaint e (hcomplaints.1 e he)
    have hafter e he := isPreparation_of_complaint e (hcomplaints.2 e he)
    have hkeep : AsksToKeep world.environment words ↔ options.apply = true :=
      ⟨fun ⟨_, h, happly⟩ => h.unique hoptions ▸ happly, fun h => ⟨options, hoptions, h⟩⟩
    have hsucceeds : outcome = .ok true ↔ status = 0 := by
      rcases hstatus with ⟨ho, hs⟩ | ⟨ho, hs⟩ <;> simp [ho, hs]
    rw [hkeep, ← hsucceeds]
    -- what stands before the core and behind it are complaints, which change no file
    refine ⟨fun hnot files => ?_, fun happly hok => ?_, fun _ h files hshows hrefused => ?_⟩
    · rw [filesAfter_append, filesAfter_append, filesAfter_preparation hbefore,
        filesAfter_preparation hafter]
      refine hcore.completes.filesAfter_eq ?_ files
      rwa [not_and_or, Bool.not_eq_true] at hnot
    · obtain ⟨title, message, directory, -, hkeeps⟩ :=
        (hok ▸ hcore.completes).keepsMessage hbefore hafter happly
      exact ⟨title, message, directory, hkeeps⟩
    · rw [h.unique hoptions] at hrefused
      obtain ⟨hloading, failure, rfl⟩ :=
        hcore.refused files hshows.append_left.append_right hrefused
      refine ⟨by simpa using hstatus, ?_⟩
      -- the settings and the views are loaded before anything is sent
      rw [List.forall_mem_append, List.forall_mem_append]
      exact ⟨⟨fun e he => isSent_of_isLoading (isLoading_of_complaints hcomplaints.1 e he),
        fun e he => isSent_of_isLoading (hloading e he)⟩,
        fun e he => isSent_of_isLoading (isLoading_of_complaints hcomplaints.2 e he)⟩
  · rw [not_exists] at hgenerate
    refine records_imp ?_ (recordsOnly_run world hgenerate)
    intro made status hmade
    refine ⟨fun _ files => filesAfter_eq_self hmade files, ?_, ?_⟩
    · rintro ⟨options, hoptions, -⟩
      exact absurd hoptions (hgenerate options)
    · exact fun options hoptions => absurd hoptions (hgenerate options)

/-- What a host replies that has the model, which answers with this text in JSON. -/
def answeringHost (answer : Text) (request : Http.Request) : Http.Reply where
  status := 200
  body := Text.octets <|
    if request.address = "http://localhost:11434/api/tags".toList then
      "\x7b\"models\":[\x7b\"name\":\"llama3.2\"\x7d]\x7d".toList
    else "\x7b\"message\":\x7b\"content\":\"".toList ++ answer ++ "\"\x7d\x7d".toList

/-- A world with a repository and with a daemon that answers, but without any files. -/
def quietWorld : World (StateM Nat) where
  environment := fun _ => none
  home := none
  fileAt _ := pure .missing
  input := pure []
  askGit
    | .branch => pure (.ok "main\n".toList)
    | .directory => pure (.ok ".git\n".toList)
  network request := pure (some (answeringHost "feat: add x".toList request))
  store _ _ := pure (.ok ())
  print _ := pure ()
  complain _ := pure ()

/-- The status and the record of a run in the quiet world. -/
def quietRun (words : List String) : Nat × List WorldEvent :=
  (((run quietWorld.recorded (words.map String.toList)).run []).run 0).1

/-- A message is kept, and with a view that is not there nothing changes. -/
theorem quietRun_changes_files_with_message :
    (∀ files, filesAfter files (quietRun ["generate", "--apply"]).2 = Function.update files
      ".git/COMMIT_EDITMSG".toList (.octets (Text.octets "feat: add x\n".toList))) ∧
    (quietRun ["generate", "--apply", "--page", "view.json"]).1 = 1 ∧
    ∀ files,
      filesAfter files (quietRun ["generate", "--apply", "--page", "view.json"]).2 = files := by
  refine ⟨fun files => ?_, by decide +kernel, ?_⟩
  · obtain ⟨made, hmade, -, hkeeps, -⟩ := alwaysReturns_state_iff.mp
      ((run_changes_files_with_message quietWorld
        (["generate", "--apply"].map String.toList)).1 []) 0
    have hmade : (quietRun ["generate", "--apply"]).2 = made := hmade
    have hstatus : (quietRun ["generate", "--apply"]).1 = 0 := by decide +kernel
    obtain ⟨title, message, directory, hkeeps⟩ := hkeeps ⟨_, ⟨_, rfl, rfl⟩, rfl⟩ hstatus
    have hshown : (quietRun ["generate", "--apply"]).2.filterMap WorldEvent.printed? =
        [previewText "feat: add x".toList, "✔ Looks good.\n".toList,
          "Wrote message to .git/COMMIT_EDITMSG\n".toList] := by decide +kernel
    have hasked : ((quietRun ["generate", "--apply"]).2.filterMap WorldEvent.directory?).map
        Except.toOption = [some ".git\n".toList] := by decide +kernel
    rw [hmade, hkeeps.shows] at hshown
    rw [hmade, hkeeps.asks] at hasked
    -- the message and the directory are read off what the run printed and asked
    obtain rfl : message = "feat: add x".toList :=
      List.append_cancel_left (List.append_cancel_right (List.cons.inj hshown).1)
    obtain rfl : directory = ".git\n".toList := Option.some.inj (List.cons.inj hasked).1
    rw [hmade, hkeeps.stores]
    rfl
  · obtain ⟨made, hmade, hunchanged, -⟩ := alwaysReturns_state_iff.mp
      ((run_changes_files_with_message quietWorld
        (["generate", "--apply", "--page", "view.json"].map String.toList)).1 []) 0
    have hmade : (quietRun ["generate", "--apply", "--page", "view.json"]).2 = made := hmade
    rw [hmade]
    refine hunchanged fun h => ?_
    have hstatus : (quietRun ["generate", "--apply", "--page", "view.json"]).1 = 1 := by
      decide +kernel
    exact absurd (hstatus.symm.trans h.2) (by decide)

end MergeMessage
