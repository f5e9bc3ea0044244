import Mathlib.Logic.Relation
import MergeMessage.Program.Generate
import MergeMessage.Proofs.GivenOptions
import MergeMessage.Proofs.OneBackend

/-!
# Where settings come from

Every setting has its own sources, which are asked in a fixed order.  The first one that says
anything is taken, whatever the others say and whatever other settings come from.  A key is taken
from its first source even if it is blank; then there is none.  So no settings hold a blank key, and
a key can only be missed by a run that was told to use the remote service.

Of the command line only the values matter that its words give to options.  An option may be moved
from one side of the command to the other, and past other options.

## Main definitions

* `firstSet` — what the first source says that says anything.
* `TakesFirstSource` — settings of which each is what the first of its sources says.
* `Settings.LackKey` — settings that choose the remote service by name and hold no key.
* `Moves` — an option with its value is moved in a command line.

## Main results

* `lastValue?_of_moves` — moving options makes no difference to their values.
* `takesFirstSource_resolve` — the settings of a run take the first source.
* `missingCredential_of_generate`, `missingCredential_of_ping` — when a key is missed.
* `settings_take_first_source` — all of this for the settings that a run loads.
-/

namespace MergeMessage

open Text CommandLine

/-! ### Moved options -/

namespace CommandLine

/-- Does every option in the words have its value, and do options go on behind them?  The first word
may be the value of an option that waits for one. -/
def isClosed : (awaited : Option Param) → List Text → Bool
  | awaited, [] => awaited.isNone
  | some _, _ :: words => isClosed none words
  | none, word :: words => word ≠ ['-', '-'] && isClosed (said word).2 words

theorem valuesFrom_append {awaited : Option Param} {words : List Text}
    (h : isClosed awaited words = true) (more : List Text) :
    valuesFrom awaited (words ++ more) = valuesFrom awaited words ++ valuesFrom none more := by
  -- the awaited option goes with the words; closed words leave none awaited behind them
  induction words generalizing awaited with
  | nil =>
    cases awaited with
    | none => rfl
    | some p => cases h
  | cons word words ih =>
    cases awaited with
    | some p =>
      rw [List.cons_append, valuesFrom, valuesFrom, ih h]
      rfl
    | none =>
      rw [isClosed, Bool.and_eq_true, decide_eq_true_eq] at h
      obtain ⟨hword, hwords⟩ := h
      rw [List.cons_append, valuesFrom, valuesFrom, if_neg hword, if_neg hword, ih hwords,
        List.append_assoc]

/-- The ways to write an option with its value. -/
inductive Spells (p : Param) (value : Text) : List Text → Prop
  /-- The value stands behind an equals sign. -/
  | joined (name : Text) (h : Param.ofName? name = some p) :
    Spells p value ['-' :: '-' :: (name ++ '=' :: value)]
  /-- The value is the next word. -/
  | apart (name : Text) (h : Param.ofName? name = some p) :
    Spells p value ['-' :: '-' :: name, value]

/-- Written either way, an option is given its value. -/
theorem Spells.valuesFrom_eq {p : Param} {value : Text} {option : List Text}
    (h : Spells p value option) : valuesFrom none option = [(p, value)] ∧ isClosed none option := by
  cases h with
  | joined name hname =>
    have hword : '-' :: '-' :: (name ++ '=' :: value) ≠ ['-', '-'] := by simp
    have hsplit : splitOnce? (name ++ '=' :: value) ['='] = some (name, value) :=
      Commit.splitOnce?_append (equals_notMem_of_ofName? hname).1 [] value
    have hsaid : said ('-' :: '-' :: (name ++ '=' :: value)) = ([(p, value)], none) := by
      rw [said_dashes, hsplit]
      dsimp only
      rw [hname]
      rfl
    rw [valuesFrom, if_neg hword, isClosed, hsaid]
    exact ⟨rfl, by simp [isClosed]⟩
  | apart name hname =>
    obtain ⟨hequals, hnil⟩ := equals_notMem_of_ofName? hname
    have hword : '-' :: '-' :: name ≠ ['-', '-'] := by simpa using hnil
    have hsaid : said ('-' :: '-' :: name) = ([], some p) := by
      rw [said_dashes, Commit.splitOnce?_of_notMem hequals []]
      exact congrArg (Prod.mk []) hname
    rw [valuesFrom, if_neg hword, isClosed, hsaid]
    exact ⟨rfl, by simp [isClosed, hnil]⟩

/-- An option with its value is moved past words that give that option no other value. -/
inductive Moves : List Text → List Text → Prop
  /-- The option comes behind the words that stood behind it. -/
  | later {p : Param} {value : Text} {option front between : List Text} (back : List Text)
    (hoption : Spells p value option) (hfront : isClosed none front = true)
    (hbetween : isClosed none between = true)
    (hfree : valuesFor p (valuesFrom none between) = []) :
    Moves (front ++ (option ++ (between ++ back))) (front ++ (between ++ (option ++ back)))

/-- The last value of an option is the same wherever options are moved. -/
theorem lastValue?_of_moves {words moved : List Text} (h : Relation.EqvGen Moves words moved)
    (p : Param) : lastValue? words p = lastValue? moved p := by
  induction h with
  | rel words moved hmove =>
    obtain ⟨back, hoption, hfront, hbetween, hfree⟩ := hmove
    next q value option front between =>
    obtain ⟨hvalues, hclosed⟩ := hoption.valuesFrom_eq
    unfold lastValue?
    -- the values of the moved option stand before or behind those of the words between
    rw [valuesFrom_append hfront, valuesFrom_append hclosed, valuesFrom_append hbetween,
      valuesFrom_append hfront, valuesFrom_append hbetween, valuesFrom_append hclosed, hvalues]
    simp only [valuesFor_append]
    by_cases hq : q = p
    · subst hq
      rw [hfree, List.nil_append, List.nil_append]
    · rw [valuesFor_singleton_of_ne hq, List.nil_append, List.nil_append]
  | refl words => rfl
  | symm words moved _ ih => exact ih.symm
  | trans words between moved _ _ ih ih' => exact ih.trans ih'

end CommandLine

/-! ### Sources -/

/-- What the first source says that says anything. -/
def firstSet {α : Type} (sources : List (Option α)) : Option α := sources.findSome? id

theorem firstSet_cons {α : Type} (source : Option α) (sources : List (Option α)) :
    firstSet (source :: sources) = source.or (firstSet sources) := by
  cases source <;> rfl

theorem firstSet_nil {α : Type} : firstSet ([] : List (Option α)) = none := rfl

theorem mem_of_firstSet {α : Type} {sources : List (Option α)} {a : α}
    (h : firstSet sources = some a) : some a ∈ sources := by
  obtain ⟨source, hsource, rfl⟩ := List.exists_of_findSome?_eq_some h
  exact hsource

/-- The entries of the table in what is found where the settings file is; if nothing is, there are
none. -/
def FileContent.entries? : FileContent → Option (List (Text × Toml))
  | .missing => some []
  | .unreadable => none
  | .octets data => data.text?.bind Toml.ofFile?

namespace FileSettings

/-- The text under a key. -/
def textUnder? (entries : List (Text × Toml)) (key : String) : Option Text :=
  (Toml.lookup? key.toList entries).bind textOf?

/-- The provider that is named under its key. -/
def providerIn? (entries : List (Text × Toml)) : Option ProviderChoice :=
  (Toml.lookup? "provider".toList entries).bind providerOf?

theorem setting?_eq_some {α : Type} {entries : List (Text × Toml)} {key : String}
    {read : Toml → Option α} {setting : Option α} (h : setting? entries key read = some setting) :
    setting = (Toml.lookup? key.toList entries).bind read := by
  unfold setting? at h
  cases hfound : Toml.lookup? key.toList entries with
  | none =>
    rw [hfound] at h
    exact (Option.some.inj h).symm
  | some value =>
    rw [hfound] at h
    obtain ⟨a, hread, rfl⟩ := Option.map_eq_some_iff.mp h
    exact hread.symm

/-- Every setting of a file stands under its own key. -/
theorem ofEntries?_eq_some {entries : List (Text × Toml)} {file : FileSettings}
    (h : ofEntries? entries = some file) :
    file =
      { provider := providerIn? entries
        apiKey := textUnder? entries "openai_api_key"
        model := textUnder? entries "model"
        apiBase := textUnder? entries "api_base_url"
        localAddress := textUnder? entries "local_url"
        localModel := textUnder? entries "local_model" } := by
  unfold ofEntries? at h
  simp only [Option.bind_eq_bind, Option.bind_eq_some_iff, Option.pure_def] at h
  obtain ⟨provider, hprovider, apiKey, hapiKey, model, hmodel, apiBase, hapiBase, localAddress,
    hlocalAddress, localModel, hlocalModel, h⟩ := h
  obtain rfl := Option.some.inj h
  rw [setting?_eq_some hprovider, setting?_eq_some hapiKey, setting?_eq_some hmodel,
    setting?_eq_some hapiBase, setting?_eq_some hlocalAddress, setting?_eq_some hlocalModel]
  rfl

end FileSettings

/-- The names of providers that the sources give: the command line, the environment, the file. -/
def providerSources (words : List Text) (environment : Environment) (entries : List (Text × Toml)) :
    List (Option Text) :=
  [lastValue? words .provider, environment "MERGEBOT_PROVIDER".toList,
    (FileSettings.providerIn? entries).map ProviderChoice.name]

/-- The keys that the sources give, blank ones among them. -/
def keySources (words : List Text) (environment : Environment) (entries : List (Text × Toml)) :
    List (Option Text) :=
  [lastValue? words .apiKey, environment "OPENAI_API_KEY".toList,
    FileSettings.textUnder? entries "openai_api_key"]

/-- Each of the settings is what the first of its sources says, and a blank key is none. -/
structure TakesFirstSource (words : List Text) (environment : Environment)
    (entries : List (Text × Toml)) (settings : Settings) : Prop where
  provider : settings.provider.map ProviderChoice.name =
    firstSet (providerSources words environment entries)
  apiKey : settings.apiKey =
    (firstSet (keySources words environment entries)).filter fun key => !isAllBlank key
  model : some settings.model =
    firstSet [lastValue? words .model, environment "MERGEBOT_MODEL".toList,
      FileSettings.textUnder? entries "model", some "gpt-3.5-turbo".toList]
  localAddress : some settings.localAddress =
    firstSet [lastValue? words .localAddress, FileSettings.textUnder? entries "local_url",
      some "http://localhost:11434".toList]
  localModel : some settings.localModel =
    firstSet [lastValue? words .localModel, FileSettings.textUnder? entries "local_model",
      some "llama3.2".toList]
  apiBase : some settings.apiBase =
    firstSet [FileSettings.textUnder? entries "api_base_url", some "https://api.openai.com".toList]

theorem bind_nonBlank? (source : Option Text) :
    source.bind nonBlank? = source.filter fun key => !isAllBlank key := by
  cases source with
  | none => rfl
  | some key =>
    rw [Option.bind_some, Option.filter_some]
    unfold nonBlank?
    cases isAllBlank key <;> rfl

/-- The settings of a run take the first source. -/
theorem takesFirstSource_resolve {words : List Text} {environment : Environment}
    {entries : List (Text × Toml)} {options : GlobalOptions} {file : FileSettings}
    (hoptions : OptionsOf words environment options)
    (hfile : FileSettings.ofEntries? entries = some file) :
    TakesFirstSource words environment entries (Settings.resolve options environment file) := by
  rw [FileSettings.ofEntries?_eq_some hfile]
  unfold Settings.resolve
  constructor
  · dsimp only
    rw [Option.map_or, hoptions.provider]
    simp only [providerSources, firstSet_cons, firstSet_nil, Option.or_assoc, Option.or_none]
  · dsimp only
    rw [bind_nonBlank?, hoptions.apiKey]
    simp only [keySources, firstSet_cons, firstSet_nil, Option.or_assoc, Option.or_none]
  · dsimp only
    rw [← Option.or_some, hoptions.model]
    simp only [firstSet_cons, firstSet_nil, Option.or_assoc, Option.or_none]
  · dsimp only
    rw [← Option.or_some, hoptions.localAddress]
    simp only [firstSet_cons, firstSet_nil, Option.or_assoc, Option.or_none]
  · dsimp only
    rw [← Option.or_some, hoptions.localModel]
    simp only [firstSet_cons, firstSet_nil, Option.or_assoc, Option.or_none]
  · dsimp only
    rw [← Option.or_some]
    simp only [firstSet_cons, firstSet_nil, Option.or_none]

/-- Names of providers tell them apart. -/
theorem map_name_inj {one other : Option ProviderChoice}
    (h : one.map ProviderChoice.name = other.map ProviderChoice.name) : one = other := by
  refine Option.map_injective (fun choice choice' hname => ?_) h
  rw [← Option.some_inj, ← ProviderChoice.ofName?_name, hname, ProviderChoice.ofName?_name]

/-- The sources leave no choice, and of the words only the last values of options are asked. -/
theorem TakesFirstSource.eq_of_lastValue? {words moved : List Text} {environment : Environment}
    {entries : List (Text × Toml)} {settings settings' : Settings}
    (h : TakesFirstSource words environment entries settings)
    (h' : TakesFirstSource moved environment entries settings')
    (hlast : ∀ p, lastValue? words p = lastValue? moved p) : settings = settings' := by
  -- the command line enters each field through its last values alone
  have hprovider : settings.provider = settings'.provider := by
    apply map_name_inj
    rw [h.provider, h'.provider, providerSources, providerSources, hlast]
  have hapiKey : settings.apiKey = settings'.apiKey := by
    rw [h.apiKey, h'.apiKey, keySources, keySources, hlast]
  have hmodel : settings.model = settings'.model := by
    rw [← Option.some_inj, h.model, h'.model, hlast]
  have hapiBase : settings.apiBase = settings'.apiBase := by
    rw [← Option.some_inj, h.apiBase, h'.apiBase]
  have hlocalAddress : settings.localAddress = settings'.localAddress := by
    rw [← Option.some_inj, h.localAddress, h'.localAddress, hlast]
  have hlocalModel : settings.localModel = settings'.localModel := by
    rw [← Option.some_inj, h.localModel, h'.localModel, hlast]
  cases settings
  cases settings'
  simp_all only

/-! ### A run -/

section

variable {m : Type → Type} [Monad m]

/-- Whenever the settings file is looked for, this is found. -/
def World.HoldsFile (world : World m) (content : FileContent) : Prop :=
  match world.home with
  | none => content = .missing
  | some home => AlwaysReturns (· = content) (world.fileAt (settingsPath home))

variable [LawfulMonad m] {world : World m} {content : FileContent} {entries : List (Text × Toml)}
  {file : FileSettings}

theorem alwaysReturns_loadFileSettings (note : Reporter m) (hcontent : world.HoldsFile content)
    (hentries : content.entries? = some entries)
    (hfile : FileSettings.ofEntries? entries = some file) :
    AlwaysReturns (· = .ok file) (loadFileSettings world note) := by
  -- without a file nothing is set
  have hmissing : content = .missing → file = {} := by
    rintro rfl
    obtain rfl := Option.some.inj hentries
    exact (Option.some.inj hfile).symm
  unfold loadFileSettings
  unfold World.HoldsFile at hcontent
  cases hhome : world.home with
  | none =>
    rw [hhome] at hcontent
    exact alwaysReturns_pure (by rw [hmissing hcontent])
  | some home =>
    rw [hhome] at hcontent
    refine alwaysReturns_bind_of hcontent ?_
    rintro found rfl
    match found, hentries with
    | .missing, _ => exact alwaysReturns_pure (by rw [hmissing rfl])
    | .octets data, hentries =>
      obtain ⟨s, htext, htable⟩ := Option.bind_eq_some_iff.mp hentries
      have hoctets : FileSettings.ofOctets data = .ok file := by
        unfold FileSettings.ofOctets FileSettings.ofText?
        rw [htext]
        dsimp only
        rw [htable, Option.bind_some, hfile]
      dsimp only
      rw [hoctets]
      refine alwaysReturns_bind (fun _ => ?_) _
      exact alwaysReturns_pure rfl

theorem alwaysReturns_loadSettings (note : Reporter m) (hcontent : world.HoldsFile content)
    (hentries : content.entries? = some entries)
    (hfile : FileSettings.ofEntries? entries = some file) (options : GlobalOptions) :
    AlwaysReturns (· = .ok (Settings.resolve options world.environment file))
      (loadSettings world note options) := by
  unfold loadSettings
  refine alwaysReturns_bind_of (alwaysReturns_loadFileSettings note hcontent hentries hfile) ?_
  rintro loaded rfl
  exact alwaysReturns_pure rfl

/-! ### Missing keys -/

/-- The settings choose the remote service by name, and there is no key for it. -/
def Settings.LackKey (settings : Settings) : Prop :=
  settings.provider = some .remote ∧ settings.apiKey = none

theorem lackKey_of_choice {settings : Settings} (hchoice : settings.choice = .remote)
    (hkey : settings.apiKey = none) : settings.LackKey := by
  unfold Settings.choice at hchoice
  rw [hkey] at hchoice
  cases hprovider : settings.provider with
  | none =>
    rw [hprovider] at hchoice
    cases hchoice
  | some choice =>
    rw [hprovider] at hchoice
    exact ⟨by rw [hprovider, show choice = .remote from hchoice], hkey⟩

/-- Only settings that choose the remote service by name can lead to a missing key. -/
theorem records_dispatch_missingCredential (note : Reporter m) (settings : Settings)
    (runtime : LocalRuntime m) (post : Transport m) (prompt : Text) :
    Records (fun _ outcome => outcome = .error .missingCredential → settings.LackKey)
      (dispatch note.beside settings
        (Backends.recorded ⟨OnDevice.generate note runtime, post⟩) prompt) := by
  cases hchoice : settings.choice with
  | onDevice =>
    refine records_imp ?_ (records_dispatch_onDevice note hchoice _ prompt
      (OnDevice.alwaysReturns_ne_missingCredential note runtime prompt))
    rintro made outcome ⟨hasks, hmade⟩ hout
    exact absurd rfl (hmade _ (hasks.made_of_missingCredential hout))
  | remote =>
    refine records_imp ?_ (records_dispatch_remote note hchoice _ prompt)
    intro made outcome hasks hout
    cases hasks with
    | noKey hkey => exact lackKey_of_choice hchoice hkey
    | reply key hkey reply =>
      obtain ⟨reason, hreason⟩ := Remote.requestFailed_of_generatedOf hout
      cases hreason

theorem missingCredential_of_ping (note : Reporter m) (settings : Settings)
    (runtime : LocalRuntime m) (post : Transport m) :
    AlwaysReturns (fun outcome => outcome = .error .missingCredential → settings.LackKey)
      (ping note settings ⟨OnDevice.generate note runtime, post⟩) := by
  refine alwaysReturns_imp ?_ (alwaysReturns_of_records
    (records_dispatch_missingCredential note settings runtime post pingPrompt)
    (erases_dispatch note settings _ pingPrompt))
  rintro outcome ⟨-, hlack⟩
  exact hlack

theorem missingCredential_of_generate (note : Reporter m) (settings : Settings)
    (runtime : LocalRuntime m) (post : Transport m) (request : Request) :
    AlwaysReturns (fun outcome => outcome = .error .missingCredential → settings.LackKey)
      (generate note settings ⟨OnDevice.generate note runtime, post⟩ request) := by
  refine alwaysReturns_imp ?_ (alwaysReturns_of_records
    (records_generate note settings _ request
      (records_dispatch_missingCredential note settings runtime post request.prompt))
    (erases_generate note settings _ request))
  rintro outcome ⟨-, answer, hlack, rfl⟩ hout
  exact hlack (Request.finish_eq_error_iff.mp hout)

/-! ### Settings from their sources -/

/-- **Settings take the first source.**  For a command line, an environment and a settings file that
can be read, the settings are loaded; each is what the first of its sources says, and they hold no
blank key.  Moving options in the command line makes no difference to them.  If a request for a
message or a ping misses a key, some source has named the remote service. -/
theorem settings_take_first_source (note : Reporter m) {words : List Text} {line : CommandLine}
    (hline : parse world.environment words = .ok line) (hcontent : world.HoldsFile content)
    (hentries : content.entries? = some entries)
    (hfile : FileSettings.ofEntries? entries = some file) :
    ∃ settings,
      AlwaysReturns (· = .ok settings) (loadSettings world note line.options) ∧
      TakesFirstSource words world.environment entries settings ∧
      (∀ key, settings.apiKey = some key → isAllBlank key = false) ∧
      (∀ moved line', Relation.EqvGen Moves words moved →
        parse world.environment moved = .ok line' →
        AlwaysReturns (· = .ok settings) (loadSettings world note line'.options)) ∧
      ∀ runtime post,
        (∀ request, AlwaysReturns
          (fun outcome => outcome = .error .missingCredential → settings.apiKey = none ∧
            some ProviderChoice.remote.name ∈ providerSources words world.environment entries)
          (generate note settings ⟨OnDevice.generate note runtime, post⟩ request)) ∧
        AlwaysReturns
          (fun outcome => outcome = .error .missingCredential → settings.apiKey = none ∧
            some ProviderChoice.remote.name ∈ providerSources words world.environment entries)
          (ping note settings ⟨OnDevice.generate note runtime, post⟩) := by
  have htakes := takesFirstSource_resolve (options_of_parse hline) hfile
  have hremote : (Settings.resolve line.options world.environment file).LackKey →
      (Settings.resolve line.options world.environment file).apiKey = none ∧
      some ProviderChoice.remote.name ∈ providerSources words world.environment entries := by
    rintro ⟨hprovider, hkey⟩
    refine ⟨hkey, mem_of_firstSet ?_⟩
    rw [← htakes.provider, hprovider]
    rfl
  -- the key, the moved options, and the two commands that ask a backend
  refine ⟨_, alwaysReturns_loadSettings note hcontent hentries hfile line.options, htakes, ?_, ?_,
    fun runtime post => ⟨fun request => ?_, ?_⟩⟩
  · intro key hkey
    rw [htakes.apiKey, Option.filter_eq_some_iff] at hkey
    simpa using hkey.2
  · intro moved line' hmoves hline'
    have htakes' := takesFirstSource_resolve (options_of_parse hline') hfile
    rw [← htakes'.eq_of_lastValue? htakes (fun p => (lastValue?_of_moves hmoves p).symm)]
    exact alwaysReturns_loadSettings note hcontent hentries hfile line'.options
  · refine alwaysReturns_imp ?_ (missingCredential_of_generate note _ runtime post request)
    exact fun outcome hlack hout => hremote (hlack hout)
  · refine alwaysReturns_imp ?_ (missingCredential_of_ping note _ runtime post)
    exact fun outcome hlack hout => hremote (hlack hout)

end

/-- A world whose environment and settings file both name a provider and a key. -/
def crowdedWorld : World Id where
  environment name :=
    if name = "MERGEBOT_PROVIDER".toList then some "remote".toList
    else if name = "OPENAI_API_KEY".toList then some "sk-1".toList
    else none
  home := some "/home/u".toList
  fileAt path :=
    if path = "/home/u/.config/mergebot.toml".toList then
      .octets (octets "provider = \"on-device\"\nopenai_api_key = \"sk-2\"\nmodel = \"c\"\n".toList)
    else .missing
  input := []
  askGit _ := .error (.notAsked [])
  network _ := none
  store _ _ := .ok ()
  print _ := ()
  complain _ := ()

/-- The entries of the settings file in that world. -/
def crowdedEntries : List (Text × Toml) :=
  [("provider".toList, .text "on-device".toList), ("openai_api_key".toList, .text "sk-2".toList),
    ("model".toList, .text "c".toList)]

/-- A command line with a blank key before the command. -/
def crowdedWords : List Text :=
  ["--model", "a", "--api-key", " ", "check", "--model=b"].map String.toList

/-- A blank key on the command line hides the other keys, before the command and behind it. -/
theorem settings_take_first_source_crowded :
    ∃ settings,
      (∀ line, parse crowdedWorld.environment
          (["--model", "a", "check", "--api-key", " ", "--model=b"].map String.toList) = .ok line →
        loadSettings crowdedWorld Reporter.silent line.options = Except.ok settings) ∧
      settings.apiKey = none ∧ settings.provider = some .remote ∧ settings.model = "b".toList ∧
      settings.localModel = "llama3.2".toList ∧
      ping Reporter.silent settings (backendsOf crowdedWorld Reporter.silent settings) =
        Except.error .missingCredential ∧
      some "remote".toList ∈
        providerSources crowdedWords crowdedWorld.environment crowdedEntries := by
  have hline : parse crowdedWorld.environment crowdedWords =
      .ok ⟨⟨0, some .remote, some " ".toList, some "b".toList, none, none⟩, .check⟩ := by
    decide
  have hcontent : crowdedWorld.HoldsFile (crowdedWorld.fileAt (settingsPath "/home/u".toList)) :=
    alwaysReturns_pure rfl
  have hentries : (crowdedWorld.fileAt (settingsPath "/home/u".toList)).entries? =
      some crowdedEntries := by
    cbv
  obtain ⟨settings, -, htakes, -, hmoves, hasked⟩ :=
    settings_take_first_source Reporter.silent hline hcontent hentries rfl
  have hkey : settings.apiKey = none := htakes.apiKey
  have hprovider : settings.provider = some .remote := map_name_inj htakes.provider
  have hping : ping Reporter.silent settings (backendsOf crowdedWorld Reporter.silent settings) =
      Except.error .missingCredential := by
    unfold ping dispatch Settings.choice
    rw [hprovider, hkey]
    rfl
  have hmoved : Moves crowdedWords
      (["--model", "a", "check", "--api-key", " ", "--model=b"].map String.toList) := by
    have hspelled : Spells .apiKey " ".toList ["--api-key".toList, " ".toList] :=
      .apart "api-key".toList (by decide)
    have hfront : isClosed none ["--model".toList, "a".toList] = true := by decide
    have hbetween : isClosed none ["check".toList] = true := by decide
    exact .later ["--model=b".toList] hspelled hfront hbetween (by decide)
  refine ⟨settings, ?_, hkey, hprovider, Option.some.inj htakes.model,
    Option.some.inj htakes.localModel, hping, ?_⟩
  · intro line hmovedLine
    obtain ⟨⟨loaded, hloaded⟩, hload⟩ := hmoves _ line (.rel _ _ hmoved) hmovedLine
    exact hload.symm.trans hloaded
  · obtain ⟨⟨outcome, houtcome⟩, hsame⟩ := (hasked _ _).2
    exact (houtcome (hsame.trans hping)).2

end MergeMessage
