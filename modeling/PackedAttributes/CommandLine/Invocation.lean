import PackedAttributes.CommandLine.Arguments
import PackedAttributes.Logging.Line
import PackedAttributes.Selectors

/-!
What the command line asks for. The log level may stand before and after the name of the command,
and the one behind it wins. The command that lists directories cannot be set up, because its
positional argument and one of its options go by the same name.
-/
namespace PackedAttributes.CommandLine

/-- The name of the program. -/
def programName : String := "fsattr"

/-- The version of the program. -/
def programVersion : String := "0.0.0"

/-! ## Requests and errors -/

/-- What to do. -/
inductive Command where
  /-- Show the attributes of the object at a path. -/
  | get (path : String) (selectors : Selectors) (noFollow : Bool)
  /-- Show the catalogue, or one category of it. -/
  | catalogue (category : Option Category)
  deriving DecidableEq, Repr

/-- What to do, and how much to log on the way. -/
structure Invocation where
  /-- The level of the log, if one was given. -/
  logLevel : Option Level
  /-- What to do. -/
  command : Command
  deriving DecidableEq, Repr

/-- The commands that there are descriptions of. -/
inductive Topic where
  /-- The program as a whole. -/
  | program
  | get
  | catalogue
  /-- The command that describes commands. -/
  | help
  deriving DecidableEq, Repr

/-- Why a command line does not lead to an invocation. -/
inductive UsageError where
  /-- Reading the arguments of a command came to an end. -/
  | stopped (topic : Topic) (stop : Stop)
  /-- There was no argument at all. -/
  | nothingAsked
  /-- There were options but no command. -/
  | commandMissing
  deriving DecidableEq, Repr

/-! ## The parameters -/

/-- Any value is taken. -/
def acceptAll (_ : String) : Except Refusal Unit := .ok ()

/-- Any text is taken as a path, except an empty one. -/
def checkPath (text : String) : Except Refusal Unit :=
  if text.isEmpty then .error .missing else .ok ()

/-- Values are taken if a reader understands them. -/
def checkParsed {α : Type} (parse : String → Except String α) (text : String) :
    Except Refusal Unit :=
  match parse text with
  | .ok _ => .ok ()
  | .error reason => .error (.invalid reason)

/-- An option with a value. -/
def Parameter.option (name placeholder : String) (check : String → Except Refusal Unit) :
    Parameter :=
  ⟨name, none, s!"--{name} <{placeholder}>", .store check⟩

/-- An option without a value. -/
def Parameter.switch (name : String) : Parameter :=
  ⟨name, none, s!"--{name}", .switch⟩

/-- The level of the log. -/
def logLevelOption : Parameter :=
  .option "log-level" "LOG_LEVEL" (checkParsed Level.parse)

/-- The option that asks for a description. -/
def helpOption : Parameter := ⟨"help", some 'h', "--help", .help⟩

/-- The option that asks for the version. -/
def versionOption : Parameter := ⟨"version", some 'V', "--version", .version⟩

/-- The path of an object. -/
def pathArgument : Parameter := ⟨"path", none, "<PATH>", .store checkPath⟩

/-- A category of the catalogue. -/
def categoryArgument : Parameter :=
  ⟨"category", none, "[CATEGORY]", .store (checkParsed Category.parse)⟩

/-- The option for names of a category. -/
def namesOption (category : Category) : Parameter :=
  .option category.name "NAMES" acceptAll

/-- The option for the set of returned attributes. -/
def returnedSwitch : Parameter := .switch "returned"

/-- The option against following a link at the end of the path. -/
def noFollowSwitch : Parameter := .switch "no-follow"

/-- What the program understands before a command. -/
def programGrammar : Grammar where
  options := [logLevelOption, helpOption, versionOption]
  positional := none
  commands := ["get", "list", "catalog", "help"]
  unusable := ["list"]

/-- What the command for single objects understands. -/
def getGrammar : Grammar where
  options := Category.all.map namesOption ++
    [returnedSwitch, noFollowSwitch, logLevelOption, helpOption]
  positional := some pathArgument
  commands := []
  unusable := []

/-- What the command for the catalogue understands. -/
def catalogueGrammar : Grammar where
  options := [logLevelOption, helpOption]
  positional := some categoryArgument
  commands := []
  unusable := []

/-! ## Reading -/

namespace Progress

/-- The value of a parameter. -/
def value? (progress : Progress) (parameter : Parameter) : Option String :=
  progress.found.lookup parameter.name

/-- The level of the log. -/
def logLevel? (progress : Progress) : Option Level :=
  (progress.value? logLevelOption).bind Level.ofWord?

/-- The selectors that the options of a command stand for. -/
def selectors (progress : Progress) : Selectors where
  common := progress.value? (namesOption .common)
  volume := progress.value? (namesOption .volume)
  directory := progress.value? (namesOption .directory)
  file := progress.value? (namesOption .file)
  extended := progress.value? (namesOption .extended)
  returned := progress.isSet returnedSwitch

end Progress

/-- Reads all arguments of a command behind which no command can follow. -/
def Grammar.readAll (grammar : Grammar) (args : List String) : Except Stop Progress := do
  let (progress, _) ← grammar.read .start args
  progress.settle

/-- The command for a single object. -/
def getCommand (args : List String) : Except Stop (Progress × Command) := do
  let progress ← getGrammar.readAll args
  match progress.value? pathArgument with
  | some path => return (progress, .get path progress.selectors (progress.isSet noFollowSwitch))
  | none => .error .argumentMissing

/-- The command for the catalogue. -/
def catalogueCommand (args : List String) : Except Stop (Progress × Command) := do
  let progress ← catalogueGrammar.readAll args
  return (progress, .catalogue ((progress.value? categoryArgument).bind Category.ofWord?))

/-- What the command that describes commands comes to. -/
def helpOutcome : List String → UsageError
  | [] => .stopped .program .helpAsked
  | "list" :: _ => .stopped .program .unusableCommand
  | ["get"] => .stopped .get .helpAsked
  | ["catalog"] => .stopped .catalogue .helpAsked
  | ["help"] => .stopped .help .helpAsked
  | "get" :: name :: _ | "catalog" :: name :: _ | "help" :: name :: _ | name :: _ =>
    .stopped .program (.unknownCommand name)

/-- The command that a name stands for, with what its arguments set. -/
def readCommand (name : String) (args : List String) : Except UsageError (Progress × Command) :=
  match name with
  | "get" => (getCommand args).mapError (.stopped .get)
  | "catalog" => (catalogueCommand args).mapError (.stopped .catalogue)
  | "help" => .error (helpOutcome args)
  | _ => .error (.stopped .program .unusableCommand)

/-- Reads a command line. What is pending from before the command is settled behind it. -/
def parse (args : List String) : Except UsageError Invocation := do
  let (program, named) ← (programGrammar.read .start args).mapError (.stopped .program)
  match named with
  | some (name, rest) =>
    let (inner, command) ← readCommand name rest
    let outer ← program.settle.mapError (.stopped .program)
    return ⟨inner.logLevel?.or outer.logLevel?, command⟩
  | none =>
    let outer ← program.settle.mapError (.stopped .program)
    .error (if outer.found.isEmpty then .nothingAsked else .commandMissing)

end PackedAttributes.CommandLine
