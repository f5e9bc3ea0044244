import MergeMessage.CommandLine.Reader
import MergeMessage.Proofs.Subjects

/-!
# What options are given

A command line is read in two scopes, and the value of an option is left open until the next option
comes.  What the options are given in the end can be said without any of that.  The words are gone
through once, from left to right: a word with the name of an option gives it what stands behind the
equals sign, or else the next word.  Whether the command comes before or behind it plays no part,
except that the last value counts if an option is given one on both sides.

## Main definitions

* `said`, `valuesFrom`, `lastValue?` — the values in words, gone through once.
* `Given.IsSound` — what the reader makes sure of: values are admitted, and most options have one.
* `Reading.Gains` — what a step of the reader comes to.
* `OptionsOf` — the options of all commands, by what is in the words and in the environment.

## Main results

* `Reading.values_of_addWord` — the reader takes from a word what the word says.
* `values_of_readWords` — the values that are read in a scope are those in its words.
* `options_of_parse` — the value of an option on a command line is the last one in its words.
-/

namespace MergeMessage.CommandLine

open Text Commit

/-! ### Values in words -/

/-- The option with a value that has this name, in whatever scope. -/
def Param.ofName? (name : Text) : Option Param :=
  ((Scope.globalParams ++ (Scope.params (some .lint) ++ Scope.params (some .generate))).find?
    fun (n, _) => n.toList = name).map Prod.snd

/-- The value that a word gives an option, if it does, and the option that it leaves waiting for
one. -/
def said : Text → List (Param × Text) × Option Param
  | '-' :: '-' :: named =>
    match splitOnce? named ['='] with
    | some (name, value) => (((Param.ofName? name).map fun p => (p, value)).toList, none)
    | none => ([], Param.ofName? named)
  | _ => ([], none)

/-- The values that words give options, from left to right; the first word is the value of an option
that waits for one.  After two dashes alone no options follow. -/
def valuesFrom : (awaited : Option Param) → List Text → List (Param × Text)
  | _, [] => []
  | some p, word :: words => (p, word) :: valuesFrom none words
  | none, word :: words =>
    if word = ['-', '-'] then [] else (said word).1 ++ valuesFrom (said word).2 words

/-- The values of one option among all that are given. -/
def valuesFor (p : Param) (values : List (Param × Text)) : List Text :=
  values.filterMap fun (q, value) => if q = p then some value else none

/-- The last value that words give an option, wherever it stands. -/
def lastValue? (words : List Text) (p : Param) : Option Text :=
  (valuesFor p (valuesFrom none words)).getLast?

theorem valuesFor_append (p : Param) (values more : List (Param × Text)) :
    valuesFor p (values ++ more) = valuesFor p values ++ valuesFor p more :=
  List.filterMap_append

theorem valuesFor_singleton_of_ne {p q : Param} (h : q ≠ p) (value : Text) :
    valuesFor p [(q, value)] = [] := by
  simp [valuesFor, h]

theorem valuesFor_singleton_self (p : Param) (value : Text) :
    valuesFor p [(p, value)] = [value] := by
  simp [valuesFor]

/-- What is said with a name depends on whether a value stands behind an equals sign. -/
theorem said_dashes (named : Text) :
    said ('-' :: '-' :: named) =
      match splitOnce? named ['='] with
      | some (name, value) => (((Param.ofName? name).map fun p => (p, value)).toList, none)
      | none => ([], Param.ofName? named) :=
  rfl

/-! ### Names -/

/-- What holds of all entries of a table of names holds of what is found there. -/
theorem of_find?_name {α : Type} {q : Text → α → Prop} {table : List (String × α)} {name : Text}
    {a : α} (hall : ∀ e ∈ table, q e.1.toList e.2)
    (h : (table.find? fun (n, _) => n.toList = name).map Prod.snd = some a) : q name a := by
  obtain ⟨e, hfind, rfl⟩ := Option.map_eq_some_iff.mp h
  have hname : e.1.toList = name := by simpa using List.find?_some hfind
  rw [← hname]
  exact hall e (List.mem_of_find?_eq_some hfind)

/-- The names of options mean the same in every scope. -/
theorem ofName?_of_param? {scope : Scope} {name : Text} {p : Param}
    (h : scope.param? name = some p) : Param.ofName? name = some p := by
  have hnames : ∀ e ∈ scope.params ++ Scope.globalParams, Param.ofName? e.1.toList = some e.2 := by
    rcases scope with _ | command
    · decide
    · cases command <;> decide
  exact of_find?_name (q := fun name p => Param.ofName? name = some p) hnames h

/-- An option without a value has the name of no option with one. -/
theorem ofName?_of_flag? {scope : Scope} {name : Text} {flag : Flag}
    (h : scope.flag? name = some flag) : Param.ofName? name = none := by
  have hnames : ∀ e ∈ scope.flags, Param.ofName? e.1.toList = none := by
    rcases scope with _ | command
    · decide
    · cases command <;> decide
  exact of_find?_name (q := fun name _ => Param.ofName? name = none) hnames h

/-- The name of a command is no option. -/
theorem said_of_isCommand {word : Text} {command : Name} (h : Name.ofText? word = some command) :
    word ≠ ['-', '-'] ∧ said word = ([], none) := by
  refine of_find?_name (q := fun word _ => word ≠ ['-', '-'] ∧ said word = ([], none)) ?_ h
  decide

/-- The name of an option is not empty, and no equals sign stands in it. -/
theorem equals_notMem_of_ofName? {name : Text} {p : Param} (h : Param.ofName? name = some p) :
    '=' ∉ name ∧ name ≠ [] := by
  refine of_find?_name (q := fun name _ => '=' ∉ name ∧ name ≠ []) ?_ h
  decide

/-! ### Given values -/

theorem bind_eq_ok {ε α β : Type} {x : Except ε α} {f : α → Except ε β} {b : β}
    (h : x >>= f = .ok b) : ∃ a, x = .ok a ∧ f a = .ok b := by
  cases x with
  | error e => cases h
  | ok a => exact ⟨a, rfl, h⟩

namespace Given

/-- Every value is one that can be given, and only what may be given more than once has more than
one. -/
structure IsSound (given : Given) : Prop where
  admits : ∀ p value, value ∈ given.valuesOf p → p.admits value = true
  single : ∀ p, p.isRepeatable = false → (given.valuesOf p).length ≤ 1

theorem isSound_empty : IsSound {} := by
  constructor <;> simp [valuesOf]

/-- Flags do not matter. -/
theorem IsSound.congr {given other : Given} (h : given.IsSound)
    (hvalues : other.values = given.values) : other.IsSound := by
  have hsame : ∀ p, other.valuesOf p = given.valuesOf p := by
    intro p
    rw [valuesOf, valuesOf, hvalues]
  constructor
  · intro p value hvalue
    rw [hsame] at hvalue
    exact h.admits p value hvalue
  · intro p hp
    rw [hsame]
    exact h.single p hp

/-- A value is put behind the others, and only where there may be one more. -/
theorem add_ok {given given' : Given} {p : Param} {value : Text}
    (h : given.add p value = .ok given') :
    given'.values = given.values ++ [(p, value)] ∧ (given.IsSound → given'.IsSound) := by
  unfold add at h
  split at h
  · cases h
  · next hfree =>
    split at h
    · next hadmits =>
      obtain rfl := Except.ok.inj h
      refine ⟨rfl, fun hsound => ?_⟩
      have hvalues : ∀ q, valuesOf { given with values := given.values ++ [(p, value)] } q =
          given.valuesOf q ++ valuesFor q [(p, value)] :=
        fun q => valuesFor_append q given.values [(p, value)]
      constructor
      · intro q other hother
        rw [hvalues, List.mem_append] at hother
        -- the values of before are admitted already, and of the others there is only the new one
        rcases hother with hother | hother
        · exact hsound.admits q other hother
        · by_cases hq : p = q
          · subst hq
            rw [valuesFor_singleton_self, List.mem_singleton] at hother
            rwa [hother]
          · rw [valuesFor_singleton_of_ne hq] at hother
            exact absurd hother List.not_mem_nil
      · intro q hq
        rw [hvalues, List.length_append]
        by_cases hpq : p = q
        · -- it may be given once, and was not given before
          subst hpq
          have hnone : given.valuesOf p = [] := by
            simpa [has, value?, hq] using hfree
          rw [hnone, valuesFor_singleton_self]
          exact le_refl _
        · rw [valuesFor_singleton_of_ne hpq]
          exact hsound.single q hq
    · cases h

theorem raise_ok {given given' : Given} {flag : Flag} (h : given.raise flag = .ok given') :
    given'.values = given.values := by
  cases flag with
  | verbose => obtain rfl := Except.ok.inj h; rfl
  | help => cases h
  | version => cases h
  | apply =>
    unfold raise at h
    dsimp only at h
    split at h
    · cases h
    · obtain rfl := Except.ok.inj h; rfl

end Given

/-! ### One word -/

namespace Reading

/-- The option that waits for its value. -/
def awaited? (r : Reading) : Option Param :=
  match r.pending with
  | .awaited p => some p
  | _ => none

/-- The values that were read, the one that was not looked at yet included. -/
def values (r : Reading) : List (Param × Text) :=
  match r.pending with
  | .held p value => r.given.values ++ [(p, value)]
  | _ => r.given.values

/-- If no option waits for a value, the reader goes on with `new` values behind those before it. -/
structure Gains (r : Reading) (new : List (Param × Text)) (awaited : Option Param) (r' : Reading) :
    Prop where
  idle : r.awaited? = none
  values_eq : r'.values = r.values ++ new
  awaited_eq : r'.awaited? = awaited
  isSound : r.given.IsSound → r'.given.IsSound

variable {r r' : Reading} {scope : Scope}

theorem settle_ok {given : Given} (h : r.settle = .ok given) :
    r.awaited? = none ∧ given.values = r.values ∧ (r.given.IsSound → given.IsSound) := by
  unfold settle at h
  unfold awaited? values
  cases hpending : r.pending with
  | nothing =>
    rw [hpending] at h
    obtain rfl := Except.ok.inj h
    exact ⟨rfl, rfl, id⟩
  | awaited p => rw [hpending] at h; cases h
  | held p value =>
    rw [hpending] at h
    exact ⟨rfl, Given.add_ok h⟩

theorem raise_ok {flag : Flag} (h : r.raise flag = .ok r') : r.Gains [] none r' := by
  obtain ⟨given, hsettle, h⟩ := bind_eq_ok h
  obtain ⟨raised, hraise, h⟩ := bind_eq_ok h
  obtain rfl := Except.ok.inj h
  obtain ⟨hidle, hvalues, hsound⟩ := settle_ok hsettle
  have hraised := Given.raise_ok hraise
  refine ⟨hidle, ?_, rfl, fun h => (hsound h).congr hraised⟩
  rw [List.append_nil, ← hvalues, ← hraised]
  rfl

/-- A word with a name gives what it says. -/
theorem addNamed_ok {named : Text} (h : r.addNamed scope named = .ok r') :
    r.Gains (said ('-' :: '-' :: named)).1 (said ('-' :: '-' :: named)).2 r' := by
  unfold addNamed at h
  rw [said_dashes]
  -- a value may follow the name behind an equals sign
  cases hsplit : splitOnce? named ['='] with
  | none =>
    rw [hsplit] at h
    dsimp only at h ⊢
    cases hparam : scope.param? named with
    | some p =>
      rw [hparam] at h
      obtain ⟨given, hsettle, h⟩ := bind_eq_ok h
      obtain rfl := Except.ok.inj h
      obtain ⟨hidle, hvalues, hsound⟩ := settle_ok hsettle
      rw [ofName?_of_param? hparam]
      exact ⟨hidle, by rw [List.append_nil, ← hvalues]; rfl, rfl, hsound⟩
    | none =>
      rw [hparam] at h
      dsimp only at h
      -- a flag waits for no value
      cases hflag : scope.flag? named with
      | none => rw [hflag] at h; cases h
      | some flag =>
        rw [hflag] at h
        rw [ofName?_of_flag? hflag]
        exact raise_ok h
  | some cut =>
    obtain ⟨name, value⟩ := cut
    rw [hsplit] at h
    dsimp only at h ⊢
    cases hparam : scope.param? name with
    | some p =>
      rw [hparam] at h
      obtain ⟨given, hsettle, h⟩ := bind_eq_ok h
      obtain ⟨added, hadd, h⟩ := bind_eq_ok h
      obtain rfl := Except.ok.inj h
      obtain ⟨hidle, hvalues, hsound⟩ := settle_ok hsettle
      obtain ⟨hadded, hsound'⟩ := Given.add_ok hadd
      rw [ofName?_of_param? hparam]
      refine ⟨hidle, ?_, rfl, fun h => hsound' (hsound h)⟩
      rw [← hvalues]
      exact hadded
    | none =>
      rw [hparam] at h
      dsimp only at h
      -- neither a flag nor an unknown name may have a value
      cases hflag : scope.flag? name <;> rw [hflag] at h <;> cases h

theorem addLetters_ok {c : Char} {letters : Text} (h : r.addLetters scope (c :: letters) = .ok r') :
    r.Gains [] none r' := by
  -- each letter is a flag of its own, and gains no value
  induction letters generalizing r c with
  | nil =>
    unfold addLetters at h
    cases hflag : scope.letter? c with
    | none => rw [hflag] at h; cases h
    | some flag =>
      rw [hflag] at h
      obtain ⟨raised, hraise, h⟩ := bind_eq_ok h
      obtain rfl := Except.ok.inj h
      exact raise_ok hraise
  | cons d letters ih =>
    unfold addLetters at h
    cases hflag : scope.letter? c with
    | none => rw [hflag] at h; cases h
    | some flag =>
      rw [hflag] at h
      obtain ⟨raised, hraise, h⟩ := bind_eq_ok h
      have hfirst := raise_ok hraise
      have hothers := ih h
      refine ⟨hfirst.idle, ?_, hothers.awaited_eq, fun h => hothers.isSound (hfirst.isSound h)⟩
      rw [hothers.values_eq, hfirst.values_eq, List.append_nil]

/-- An argument without a name is the message to lint. -/
theorem addArgument_ok {trailing : Bool} {word : Text}
    (h : r.addArgument scope trailing word = .ok r') : r.Gains [(.message, word)] none r' := by
  unfold addArgument at h
  cases hargument : scope.argument? with
  | none =>
    rw [hargument] at h
    dsimp only at h
    split at h <;> cases h
  | some p =>
    -- the message is the only parameter that stands without a name
    have hp : p = .message := by
      unfold Scope.argument? at hargument
      split at hargument
      · exact (Option.some.inj hargument).symm
      · cases hargument
    subst hp
    rw [hargument] at h
    dsimp only at h
    split at h
    · cases h
    · obtain ⟨given, hsettle, h⟩ := bind_eq_ok h
      obtain rfl := Except.ok.inj h
      obtain ⟨hidle, hvalues, hsound⟩ := settle_ok hsettle
      exact ⟨hidle, by rw [← hvalues]; rfl, rfl, hsound⟩

variable {p : Param} {word : Text}

/-- What a word says is what it adds to the values, whatever words come behind it. -/
theorem Gains.values_of_word {new : List (Param × Text)} (h : r.Gains new (said word).2 r')
    (hword : word ≠ ['-', '-']) (hnew : valuesFor p new = valuesFor p (said word).1)
    (words : List Text) :
    valuesFor p (r.values ++ valuesFrom r.awaited? (word :: words)) =
      valuesFor p (r'.values ++ valuesFrom r'.awaited? words) := by
  rw [h.idle, h.values_eq, h.awaited_eq, valuesFrom, if_neg hword]
  simp only [valuesFor_append, hnew, List.append_assoc]

/-- The reader takes from a word what the word says, unless it is the message to lint. -/
theorem values_of_addWord (h : r.addWord scope word = .ok r') (hword : word ≠ ['-', '-'])
    (hp : p ≠ .message) :
    (∀ words, valuesFor p (r.values ++ valuesFrom r.awaited? (word :: words)) =
      valuesFor p (r'.values ++ valuesFrom r'.awaited? words)) ∧
      (r.given.IsSound → r'.given.IsSound) := by
  unfold addWord at h
  -- the word names an option, is a row of letters, or stands without a name
  split at h
  · next named =>
    have hgains := addNamed_ok h
    exact ⟨hgains.values_of_word hword rfl, hgains.isSound⟩
  · next c letters hnamed =>
    have hsaid : said ('-' :: c :: letters) = ([], none) := by
      unfold said
      split
      · next hsame => exact absurd (List.cons.inj (List.cons.inj hsame).2).1 hnamed
      · rfl
    have hgains := addLetters_ok h
    rw [← show (said ('-' :: c :: letters)).2 = none by rw [hsaid]] at hgains
    exact ⟨hgains.values_of_word hword (by rw [hsaid]), hgains.isSound⟩
  · next hnamed hletters =>
    have hsaid : said word = ([], none) := by
      unfold said
      split
      · next named => exact absurd rfl (hnamed named)
      · rfl
    have hargument : r.addArgument scope false word = .ok r' → r.Gains [(.message, word)] none r' :=
      addArgument_ok
    have hmessage : valuesFor p [(.message, word)] = valuesFor p (said word).1 := by
      rw [hsaid]
      exact valuesFor_singleton_of_ne hp.symm word
    rw [← show (said word).2 = none by rw [hsaid]] at hargument
    cases hpending : r.pending with
    | awaited q =>
      -- the word is the value that an option waits for
      rw [hpending] at h
      obtain rfl := Except.ok.inj h
      refine ⟨fun words => ?_, id⟩
      unfold values awaited?
      rw [hpending]
      dsimp only
      rw [valuesFrom, List.append_assoc]
      rfl
    | nothing =>
      rw [hpending] at h
      have hgains := hargument h
      exact ⟨hgains.values_of_word hword hmessage, hgains.isSound⟩
    | held q value =>
      rw [hpending] at h
      have hgains := hargument h
      exact ⟨hgains.values_of_word hword hmessage, hgains.isSound⟩

end Reading

/-! ### All words of a scope -/

section

variable {p : Param} {scope : Scope} {r r' : Reading} {found : Option (Name × List Text)}

/-- The values in the words behind a command. -/
def valuesBehind : Option (Name × List Text) → List (Param × Text)
  | none => []
  | some (_, words) => valuesFrom none words

/-- Behind two dashes there are no options, and no commands. -/
theorem values_of_readWords_trailing (hp : p ≠ .message) {words : List Text}
    (h : readWords scope true r words = .ok (r', found)) :
    found = none ∧ r'.awaited? = r.awaited? ∧ valuesFor p r'.values = valuesFor p r.values ∧
      (r.given.IsSound → r'.given.IsSound) := by
  -- behind two dashes each word is the message, and no option waits for it
  induction words generalizing r with
  | nil =>
    obtain ⟨rfl, rfl⟩ := Prod.mk.inj (Except.ok.inj h)
    exact ⟨rfl, rfl, rfl, id⟩
  | cons word words ih =>
    obtain ⟨next, hadd, h⟩ := bind_eq_ok h
    have hgains := Reading.addArgument_ok hadd
    obtain ⟨hfound, hawaited, hvalues, hsound⟩ := ih h
    refine ⟨hfound, ?_, ?_, fun h => hsound (hgains.isSound h)⟩
    · rw [hawaited, hgains.awaited_eq, hgains.idle]
    · rw [hvalues, hgains.values_eq, valuesFor_append, valuesFor_singleton_of_ne hp.symm,
        List.append_nil]

/-- The values that are read in a scope are those in its words, up to the command. -/
theorem values_of_readWords (hp : p ≠ .message) {words : List Text}
    (h : readWords scope false r words = .ok (r', found)) (hdone : r'.awaited? = none) :
    valuesFor p (r.values ++ valuesFrom r.awaited? words) =
        valuesFor p (r'.values ++ valuesBehind found) ∧
      (scope ≠ none → found = none) ∧ (r.given.IsSound → r'.given.IsSound) := by
  -- from word to word, what was read and what the others will give stay the same together
  induction words generalizing r with
  | nil =>
    obtain ⟨rfl, rfl⟩ := Prod.mk.inj (Except.ok.inj h)
    rw [hdone]
    exact ⟨rfl, fun _ => rfl, id⟩
  | cons word words ih =>
    unfold readWords at h
    split at h
    · cases h
    · split at h
      · next name hcommand =>
        -- the word is a command, so that no option waits for a value
        obtain ⟨rfl, rfl⟩ := Prod.mk.inj (Except.ok.inj h)
        have hname : scope.command? word = some name := by
          split at hcommand
          · cases hcommand
          · exact hcommand
        unfold Scope.command? at hname
        split at hname
        · next hscope =>
          obtain ⟨hdashes, hsaid⟩ := said_of_isCommand hname
          rw [hdone, valuesFrom, if_neg hdashes, hsaid]
          exact ⟨rfl, fun h => absurd hscope h, id⟩
        · cases hname
      · split at h
        · next hdashes =>
          obtain ⟨rfl, hawaited, hvalues, hsound⟩ := values_of_readWords_trailing hp h
          rw [← hawaited, hdone, valuesFrom, if_pos hdashes]
          refine ⟨?_, fun _ => rfl, hsound⟩
          rw [valuesFor_append, valuesFor_append, hvalues]
          rfl
        · next hdashes =>
          obtain ⟨next, hadd, h⟩ := bind_eq_ok h
          obtain ⟨hvalues, hsound⟩ := Reading.values_of_addWord hadd hdashes hp
          obtain ⟨hvalues', hfound, hsound'⟩ := ih h
          exact ⟨(hvalues words).trans hvalues', hfound, fun h => hsound' (hsound h)⟩

end

/-! ### Both scopes -/

variable {environment : Environment}

theorem finish_ok {r : Reading} {given : Given} (h : finish environment r = .ok given) :
    r.settle = .ok given ∧
      (given.has .provider = false → ∃ choice, environmentProvider environment = .ok choice) := by
  obtain ⟨settled, hsettle, h⟩ := bind_eq_ok h
  -- that the message and the file exclude each other changes nothing in what was given
  have hkept : (if settled.has .message && settled.has .file then .error .conflict
      else .ok settled : Except Stop Given) = .ok given → settled = given := by
    intro h
    split at h
    · cases h
    · exact Except.ok.inj h
  cases hgiven : settled.has .provider with
  | true =>
    rw [hgiven] at h
    obtain rfl := hkept h
    exact ⟨hsettle, fun hnone => by simp [hgiven] at hnone⟩
  | false =>
    rw [hgiven] at h
    obtain ⟨choice, hchoice, h⟩ := bind_eq_ok h
    obtain rfl := hkept h
    exact ⟨hsettle, fun _ => ⟨choice, hchoice⟩⟩

/-- What is given before the command and after it are the values in the words of the line. -/
theorem parse_ok {words : List Text} {line : CommandLine} (h : parse environment words = .ok line) :
    ∃ before after : Given, line.options = globalsOf environment before after ∧
      before.IsSound ∧ after.IsSound ∧
      (∀ p, p ≠ .message →
        valuesFor p (valuesFrom none words) = before.valuesOf p ++ after.valuesOf p) ∧
      (before.has .provider = false → ∃ choice, environmentProvider environment = .ok choice) := by
  obtain ⟨⟨first, found⟩, hfirst, h⟩ := bind_eq_ok h
  dsimp only at h
  split at h
  · next name rest =>
    obtain ⟨⟨second, found'⟩, hsecond, h⟩ := bind_eq_ok h
    obtain ⟨after, hafter, h⟩ := bind_eq_ok h
    obtain ⟨before, hbefore, h⟩ := bind_eq_ok h
    obtain rfl := Except.ok.inj h
    obtain ⟨hsettle, hchoice⟩ := finish_ok hbefore
    obtain ⟨hidle, hvalues, hsound⟩ := Reading.settle_ok hsettle
    obtain ⟨hsettle', -⟩ := finish_ok hafter
    obtain ⟨hidle', hvalues', hsound'⟩ := Reading.settle_ok hsettle'
    -- any option but the message will do for what does not depend on one
    obtain ⟨-, -, hread⟩ := values_of_readWords (p := .model) (by decide) hfirst hidle
    obtain ⟨-, hfound, hread'⟩ := values_of_readWords (p := .model) (by decide) hsecond hidle'
    obtain rfl := hfound (by simp)
    refine ⟨before, after, rfl, hsound (hread Given.isSound_empty),
      hsound' (hread' Given.isSound_empty), fun p hp => ?_, hchoice⟩
    -- the words up to the command are read first, then those behind it
    obtain ⟨hfirstValues, -, -⟩ := values_of_readWords hp hfirst hidle
    obtain ⟨hsecondValues, -, -⟩ := values_of_readWords hp hsecond hidle'
    calc valuesFor p (valuesFrom none words)
        = valuesFor p (first.values ++ valuesFrom none rest) := hfirstValues
      _ = before.valuesOf p ++ valuesFor p (valuesFrom none rest) := by
          rw [valuesFor_append, ← hvalues]
          rfl
      _ = before.valuesOf p ++ after.valuesOf p := by
          rw [show valuesFor p (valuesFrom none rest) = valuesFor p (second.values ++ []) from
            hsecondValues, List.append_nil, ← hvalues']
          rfl
  · -- without a command there is nothing to do
    obtain ⟨before, -, h⟩ := bind_eq_ok h
    split at h <;> cases h

/-- The options of all commands, as the words and the environment give them. -/
structure OptionsOf (words : List Text) (environment : Environment) (options : GlobalOptions) :
    Prop where
  provider : options.provider.map ProviderChoice.name =
    (lastValue? words .provider).or (environment "MERGEBOT_PROVIDER".toList)
  apiKey : options.apiKey = (lastValue? words .apiKey).or (environment "OPENAI_API_KEY".toList)
  model : options.model = lastValue? words .model
  localAddress : options.localAddress = lastValue? words .localAddress
  localModel : options.localModel = lastValue? words .localModel

theorem lastValue?_of_values {words : List Text} {p : Param} {before after : Given}
    (hbefore : (before.valuesOf p).length ≤ 1) (hafter : (after.valuesOf p).length ≤ 1)
    (h : valuesFor p (valuesFrom none words) = before.valuesOf p ++ after.valuesOf p) :
    (after.value? p).or (before.value? p) = lastValue? words p := by
  have hlast : ∀ {values : List Text}, values.length ≤ 1 → values.getLast? = values.head? := by
    intro values hlength
    match values, hlength with
    | [], _ => rfl
    | [_], _ => rfl
  unfold lastValue? Given.value?
  rw [h, List.getLast?_append, hlast hbefore, hlast hafter]

theorem name_of_ofName? {name : Text} {choice : ProviderChoice}
    (h : ProviderChoice.ofName? name = some choice) : choice.name = name := by
  unfold ProviderChoice.ofName? at h
  split at h
  · next hname => rw [← Option.some.inj h, hname]
  · split at h
    · next hname => rw [← Option.some.inj h, hname]
    · cases h

/-- **The options of a command line** are given the last values in its words, on whatever side of
the command they stand; the environment is asked for a provider and a key if the words say none.
Every provider that is named there is one. -/
theorem options_of_parse {words : List Text} {line : CommandLine}
    (h : parse environment words = .ok line) : OptionsOf words environment line.options := by
  obtain ⟨before, after, hoptions, hbefore, hafter, hvalues, hasked⟩ := parse_ok h
  have hlast : ∀ p, p ≠ .message → p.isRepeatable = false →
      (after.value? p).or (before.value? p) = lastValue? words p :=
    fun p hp hsingle => lastValue?_of_values (hbefore.single p hsingle) (hafter.single p hsingle)
      (hvalues p hp)
  -- wherever the provider was named, the name was checked
  have hprovider : ∀ name,
      ((after.value? .provider).or (before.value? .provider)).or
        (environment "MERGEBOT_PROVIDER".toList) = some name →
      ∃ choice, ProviderChoice.ofName? name = some choice := by
    intro name hname
    cases hgiven : after.value? .provider with
    | some value =>
      rw [hgiven] at hname
      obtain rfl := Option.some.inj hname
      exact Option.isSome_iff_exists.mp (hafter.admits .provider _ (List.mem_of_head? hgiven))
    | none =>
      cases hgiven' : before.value? .provider with
      | some value =>
        rw [hgiven, hgiven'] at hname
        obtain rfl := Option.some.inj hname
        exact Option.isSome_iff_exists.mp (hbefore.admits .provider _ (List.mem_of_head? hgiven'))
      | none =>
        -- the environment was asked before the command, and its answer was checked there
        rw [hgiven, hgiven'] at hname
        obtain ⟨choice, hchoice⟩ := hasked (by rw [Given.has, hgiven']; rfl)
        unfold environmentProvider at hchoice
        rw [show environment "MERGEBOT_PROVIDER".toList = some name from hname] at hchoice
        dsimp only at hchoice
        split at hchoice
        · next c hc => exact ⟨c, hc⟩
        · cases hchoice
  rw [hoptions]
  unfold globalsOf
  constructor
  · rw [← hlast .provider (by decide) rfl]
    dsimp only
    cases hname : ((after.value? .provider).or (before.value? .provider)).or
        (environment "MERGEBOT_PROVIDER".toList) with
    | none => rfl
    | some name =>
      obtain ⟨choice, hchoice⟩ := hprovider name hname
      rw [Option.bind_some, hchoice, Option.map_some, name_of_ofName? hchoice]
  · rw [← hlast .apiKey (by decide) rfl]
  · exact hlast .model (by decide) rfl
  · exact hlast .localAddress (by decide) rfl
  · exact hlast .localModel (by decide) rfl

end MergeMessage.CommandLine
