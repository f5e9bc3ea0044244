import MergeMessage.Settings.File

/-!
# Commands

A run of the program carries out one command.  Options that hold for all commands may be given
with each of them.

## Main definitions

* `Command` — the commands, with what they need.
* `GlobalOptions` — the options of all commands.
* `CommandLine` — a command with its options.
* `CommandLine.Stop` — why a command line leads to no command.
* `Settings.resolve` — the settings of a run.
-/

namespace MergeMessage

/-- Where the message to lint comes from. -/
inductive MessageSource
  /-- It is given on the command line. -/
  | argument (message : Text)
  /-- It stands in a file. -/
  | file (path : Text)
  /-- It comes from the standard input. -/
  | input
  deriving DecidableEq, Repr

/-- What a message is generated from. -/
structure GenerateOptions where
  /-- The author's notes. -/
  notes : Text
  /-- The files with the views of the page, in their order. -/
  pages : List Text
  /-- The title of the pull request, if it is not the one on the page. -/
  title : Option Text
  /-- The description of the pull request, if it is not the one on the page. -/
  description : Option Text
  /-- The name of the branch, if it is not the one on the page. -/
  branch : Option Text
  /-- Is the message to be kept for the next commit? -/
  apply : Bool
  deriving DecidableEq, Repr

/-- A command. -/
inductive Command
  /-- Lints a message. -/
  | lint (source : MessageSource) (title : Option Text)
  /-- Generates a message. -/
  | generate (options : GenerateOptions)
  /-- Shows whether the model on this machine is ready. -/
  | status
  /-- Downloads the model of this machine. -/
  | pull
  /-- Sends a short prompt to the chosen provider. -/
  | check
  deriving DecidableEq, Repr

/-- The options of all commands. -/
structure GlobalOptions where
  /-- How much is logged. -/
  verbosity : Nat
  /-- The provider. -/
  provider : Option ProviderChoice
  /-- The key of the remote service. -/
  apiKey : Option Text
  /-- The model of the remote service. -/
  model : Option Text
  /-- The address of the runtime on this machine. -/
  localAddress : Option Text
  /-- The model of the runtime on this machine. -/
  localModel : Option Text
  deriving DecidableEq, Repr

/-- A command with the options of all commands. -/
structure CommandLine where
  /-- The options. -/
  options : GlobalOptions
  /-- The command. -/
  command : Command
  deriving DecidableEq, Repr

/-- Why a command line leads to no command. -/
inductive CommandLine.Stop
  /-- The value of an option is missing, or is none that it takes. -/
  | invalidValue
  /-- There is no such option, or one argument too many. -/
  | unknownArgument
  /-- There is no such command. -/
  | unknownCommand
  /-- An option is given twice, or two options that exclude each other are given. -/
  | conflict
  /-- An option that takes no value is given one. -/
  | needlessValue
  /-- Options but no command are given. -/
  | missingCommand
  /-- Nothing is given. -/
  | nothingGiven
  /-- The user asks for help. -/
  | help
  /-- The user asks for the version. -/
  | version
  deriving DecidableEq, Repr

/-- A variable of the environment. -/
abbrev Environment := (name : Text) → Option Text

/-- The settings of a run: an option wins over the environment, the environment over the file,
and the file over the default.  A blank key is none, whatever the sources after it say. -/
def Settings.resolve (options : GlobalOptions) (environment : Environment)
    (file : FileSettings) : Settings :=
  let default : Settings := {}
  { apiKey := (options.apiKey.or file.apiKey).bind Text.nonBlank?
    provider := options.provider.or file.provider
    model := ((options.model.or (environment "MERGEBOT_MODEL".toList)).or file.model).getD
      default.model
    apiBase := file.apiBase.getD default.apiBase
    localAddress := (options.localAddress.or file.localAddress).getD default.localAddress
    localModel := (options.localModel.or file.localModel).getD default.localModel }

end MergeMessage
