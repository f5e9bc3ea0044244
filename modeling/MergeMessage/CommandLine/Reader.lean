import MergeMessage.CommandLine.Basic

/-!
# Reading a command line

The words of a command line are read from left to right, first those before the command and
then those after it.  An option is known by its name after two dashes, some also by a letter
after one.  Its value follows after an equals sign or as the next word; it is looked at only
when the next option or the end of the words comes.  After two dashes alone, every word is an
argument.

## Main definitions

* `CommandLine.Param`, `CommandLine.Flag` — what can be given, with a value and without one.
* `CommandLine.Scope` — before or after a command: what may be given where.
* `CommandLine.readWords` — the words of a scope.
* `CommandLine.parse` — the command that a command line asks for.
-/

namespace MergeMessage.CommandLine

/-! ### What can be given -/

/-- Something with a value. -/
inductive Param
  /-- The provider. -/
  | provider
  /-- The key of the remote service. -/
  | apiKey
  /-- The model of the remote service. -/
  | model
  /-- The address of the runtime on this machine. -/
  | localAddress
  /-- The model of the runtime on this machine. -/
  | localModel
  /-- The message to lint. -/
  | message
  /-- The file with the message to lint. -/
  | file
  /-- The title of the pull request. -/
  | title
  /-- The author's notes. -/
  | notes
  /-- A file with a view of the page. -/
  | page
  /-- The description of the pull request. -/
  | description
  /-- The name of the branch. -/
  | branch
  deriving DecidableEq, Repr

/-- May it be given more than once? -/
def Param.isRepeatable (p : Param) : Bool := p = .page

/-- Is the text a value that can be given for it?  Providers have names, and files too. -/
def Param.admits : Param → Text → Bool
  | .provider, value => (ProviderChoice.ofName? value).isSome
  | .file, value => !value.isEmpty
  | .page, value => !value.isEmpty
  | _, _ => true

/-- Something without a value. -/
inductive Flag
  /-- More is to be logged. -/
  | verbose
  /-- Help is wanted. -/
  | help
  /-- The version is wanted. -/
  | version
  /-- The message is to be kept for the next commit. -/
  | apply
  deriving DecidableEq, Repr

/-- The name of a command. -/
inductive Name
  /-- Lint a message. -/
  | lint
  /-- Generate a message. -/
  | generate
  /-- Show the state of the model on this machine. -/
  | status
  /-- Download the model of this machine. -/
  | pull
  /-- Try the provider. -/
  | check
  deriving DecidableEq, Repr

/-- The command with this name. -/
def Name.ofText? (s : Text) : Option Name :=
  ([("lint", .lint), ("generate", .generate), ("status", .status), ("pull", .pull),
    ("check", .check)].find? fun (name, _) => name.toList = s).map Prod.snd

/-- The word that asks for help about the commands after it. -/
def helpWord : Text := "help".toList

/-- Where words stand: before the command, or after it. -/
abbrev Scope := Option Name

namespace Scope

/-- The options with a value, by name. -/
def params : Scope → List (String × Param)
  | some .lint => [("file", .file), ("title", .title)]
  | some .generate =>
    [("notes", .notes), ("page", .page), ("title", .title), ("description", .description),
      ("branch", .branch)]
  | _ => []

/-- The options with a value of every scope, by name. -/
def globalParams : List (String × Param) :=
  [("provider", .provider), ("api-key", .apiKey), ("model", .model),
    ("local-url", .localAddress), ("local-model", .localModel)]

/-- The options without a value, by name. -/
def flags : Scope → List (String × Flag)
  | none => [("verbose", .verbose), ("help", .help), ("version", .version)]
  | some .generate => [("verbose", .verbose), ("help", .help), ("apply", .apply)]
  | some _ => [("verbose", .verbose), ("help", .help)]

/-- The options without a value that have a letter. -/
def letters : Scope → List (Char × Flag)
  | none => [('v', .verbose), ('h', .help), ('V', .version)]
  | some _ => [('v', .verbose), ('h', .help)]

/-- The option with a value that has this name. -/
def param? (scope : Scope) (name : Text) : Option Param :=
  ((scope.params ++ globalParams).find? fun (n, _) => n.toList = name).map Prod.snd

/-- The option without a value that has this name. -/
def flag? (scope : Scope) (name : Text) : Option Flag :=
  (scope.flags.find? fun (n, _) => n.toList = name).map Prod.snd

/-- The option without a value that has this letter. -/
def letter? (scope : Scope) (c : Char) : Option Flag :=
  (scope.letters.find? fun (l, _) => l = c).map Prod.snd

/-- What an argument without a name stands for. -/
def argument? : Scope → Option Param
  | some .lint => some .message
  | _ => none

/-- The command with this name, where commands may stand. -/
def command? (scope : Scope) (word : Text) : Option Name :=
  if scope = none then Name.ofText? word else none

/-- Is the word the one that asks for help about commands, where commands may stand? -/
def asksForHelp (scope : Scope) (word : Text) : Bool := scope = none && word = helpWord

end Scope

/-! ### What was given -/

/-- What was given in a scope. -/
structure Given where
  /-- The values, in their order. -/
  values : List (Param × Text) := []
  /-- How often more was to be logged. -/
  verbosity : Nat := 0
  /-- Is the message to be kept? -/
  apply : Bool := false
  deriving DecidableEq, Repr

namespace Given

/-- The values of a parameter, in their order. -/
def valuesOf (given : Given) (p : Param) : List Text :=
  given.values.filterMap fun (q, value) => if q = p then some value else none

/-- The value of a parameter. -/
def value? (given : Given) (p : Param) : Option Text := (given.valuesOf p).head?

/-- Is there a value of a parameter? -/
def has (given : Given) (p : Param) : Bool := (given.value? p).isSome

/-- Was anything given? -/
def isAnything (given : Given) : Bool :=
  !given.values.isEmpty || given.verbosity != 0 || given.apply

/-- What is given with one more value. -/
def add (given : Given) (p : Param) (value : Text) : Except Stop Given :=
  if given.has p && !p.isRepeatable then .error .conflict
  else if p.admits value then .ok { given with values := given.values ++ [(p, value)] }
  else .error .invalidValue

/-- The most that is counted of the wish to log more. -/
def maxVerbosity : Nat := 255

/-- What is given with one more flag. -/
def raise (given : Given) : Flag → Except Stop Given
  | .verbose => .ok { given with verbosity := min (given.verbosity + 1) maxVerbosity }
  | .help => .error .help
  | .version => .error .version
  | .apply => if given.apply then .error .conflict else .ok { given with apply := true }

end Given

/-! ### Words -/

/-- What the last word left open. -/
inductive Pending
  /-- Nothing. -/
  | nothing
  /-- The value of this parameter comes next. -/
  | awaited (p : Param)
  /-- This value of a parameter was not looked at yet. -/
  | held (p : Param) (value : Text)
  deriving DecidableEq, Repr

/-- What was read of a scope. -/
structure Reading where
  /-- What was given. -/
  given : Given := {}
  /-- What is left open. -/
  pending : Pending := .nothing
  deriving DecidableEq, Repr

namespace Reading

/-- What is given after all, if a value that is left open is there and can be given. -/
def settle (r : Reading) : Except Stop Given :=
  match r.pending with
  | .nothing => .ok r.given
  | .awaited _ => .error .invalidValue
  | .held p value => r.given.add p value

/-- What was read after one more flag. -/
def raise (r : Reading) (flag : Flag) : Except Stop Reading := do
  return { given := ← (← r.settle).raise flag }

/-- What was read after one more option, written with its name and perhaps its value. -/
def addNamed (scope : Scope) (r : Reading) (word : Text) : Except Stop Reading :=
  let (name, value?) := match Text.splitOnce? word ['='] with
    | some (name, value) => (name, some value)
    | none => (word, none)
  match scope.param? name with
  | some p => do
    let given ← r.settle
    match value? with
    | some value => return { given := ← given.add p value }
    | none => return { given, pending := .awaited p }
  | none =>
    match scope.flag? name with
    | some flag => if value?.isSome then .error .needlessValue else r.raise flag
    | none => .error .unknownArgument

/-- What was read after some options, each written as a letter. -/
def addLetters (scope : Scope) : Reading → Text → Except Stop Reading
  | r, [] => .ok r
  | r, c :: s =>
    match scope.letter? c with
    | some flag => do addLetters scope (← r.raise flag) s
    | none => .error .unknownArgument

/-- Was a value of the parameter read, looked at or not? -/
def hasRead (r : Reading) (p : Param) : Bool :=
  r.given.has p ||
    match r.pending with
    | .held q _ => q = p
    | _ => false

/-- What was read after one more argument without a name; `trailing` says that it stands after
two dashes. -/
def addArgument (scope : Scope) (trailing : Bool) (r : Reading) (word : Text) :
    Except Stop Reading :=
  match scope.argument? with
  | some p =>
    if r.hasRead p then .error .unknownArgument
    else return { given := ← r.settle, pending := .held p word }
  | none =>
    let isCommand := (scope.command? word).isSome || scope.asksForHelp word
    if scope = none && !(trailing && isCommand) then .error .unknownCommand
    else .error .unknownArgument

/-- What was read after one more word that is no command and does not end the options. -/
def addWord (scope : Scope) (r : Reading) (word : Text) : Except Stop Reading :=
  match word with
  | '-' :: '-' :: named => r.addNamed scope named
  | '-' :: c :: letters => r.addLetters scope (c :: letters)
  | _ =>
    match r.pending with
    | .awaited p => .ok { r with pending := .held p word }
    | _ => r.addArgument scope false word

/-- Does the next word count as the value of an option, whatever it is called? -/
def awaits (r : Reading) : Bool :=
  match r.pending with
  | .awaited _ => true
  | _ => false

end Reading

/-- Why the words after the one that asks for help lead to no command: help about the command
that they name, if they do. -/
def helpAbout : List Text → Stop
  | [] => .help
  | [word] =>
    if (Name.ofText? word).isSome || word = helpWord then .help else .unknownCommand
  | _ => .unknownCommand

/-- The words of a scope up to a command; `trailing` says that two dashes came before. -/
def readWords (scope : Scope) : (trailing : Bool) → Reading → List Text →
    Except Stop (Reading × Option (Name × List Text))
  | _, r, [] => .ok (r, none)
  | true, r, word :: words => do
    readWords scope true (← r.addArgument scope true word) words
  | false, r, word :: words =>
    if !r.awaits && scope.asksForHelp word then .error (helpAbout words)
    else
      match if r.awaits then none else scope.command? word with
      | some name => .ok (r, some (name, words))
      | none =>
        if word = ['-', '-'] then readWords scope true r words
        else do readWords scope false (← r.addWord scope word) words

/-! ### Scopes -/

/-- The provider that the environment names. -/
def environmentProvider (environment : Environment) : Except Stop (Option ProviderChoice) :=
  match environment "MERGEBOT_PROVIDER".toList with
  | none => .ok none
  | some name =>
    match ProviderChoice.ofName? name with
    | some choice => .ok (some choice)
    | none => .error .invalidValue

/-- What was given in a scope, once all its words are read.  The environment is asked for a
provider unless one is given here, so it must name one if it names anything. -/
def finish (environment : Environment) (r : Reading) : Except Stop Given := do
  let given ← r.settle
  if !given.has .provider then
    let _ ← environmentProvider environment
  if given.has .message && given.has .file then .error .conflict else return given

/-- The command of this name with what was given after it. -/
def commandOf (name : Name) (given : Given) : Command :=
  match name with
  | .lint =>
    let source := match given.value? .message, given.value? .file with
      | some message, _ => .argument message
      | none, some path => .file path
      | none, none => .input
    .lint source (given.value? .title)
  | .generate =>
    .generate {
      notes := (given.value? .notes).getD []
      pages := given.valuesOf .page
      title := given.value? .title
      description := given.value? .description
      branch := given.value? .branch
      apply := given.apply }
  | .status => .status
  | .pull => .pull
  | .check => .check

/-- The options of all commands: those after the command win over those before it, and both over
the environment. -/
def globalsOf (environment : Environment) (before after : Given) : GlobalOptions :=
  let value? (p : Param) : Option Text := (after.value? p).or (before.value? p)
  { verbosity := if after.verbosity = 0 then before.verbosity else after.verbosity
    provider := ((value? .provider).or (environment "MERGEBOT_PROVIDER".toList)).bind
      ProviderChoice.ofName?
    apiKey := (value? .apiKey).or (environment "OPENAI_API_KEY".toList)
    model := value? .model
    localAddress := value? .localAddress
    localModel := value? .localModel }

/-- Does the environment give an option of all commands? -/
def environmentGives (environment : Environment) : Bool :=
  (environment "MERGEBOT_PROVIDER".toList).isSome || (environment "OPENAI_API_KEY".toList).isSome

/-- The command that a command line asks for. -/
def parse (environment : Environment) (words : List Text) : Except Stop CommandLine := do
  let (before, found) ← readWords none false {} words
  match found with
  | some (name, words) =>
    let (after, _) ← readWords (some name) false {} words
    let after ← finish environment after
    let before ← finish environment before
    return ⟨globalsOf environment before after, commandOf name after⟩
  | none =>
    let before ← finish environment before
    if before.isAnything || environmentGives environment then .error .missingCommand
    else .error .nothingGiven

end MergeMessage.CommandLine
