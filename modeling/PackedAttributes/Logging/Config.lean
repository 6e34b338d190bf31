import PackedAttributes.Files.Path
import PackedAttributes.Logging.Line

/-!
How logging is configured: from variables of the environment, with an explicit level in front of all
else. A variable that is blank counts as one that is not set.

The language of filters is a parameter. Whatever reads it either reports what is wrong with a text or
breaks the program off, and the two are kept apart.
-/
namespace PackedAttributes.Logging

/-! ## Failures -/

/-- Why a call comes to nothing: it returns an error, or the program breaks off in the middle of it. -/
inductive Halt (error : Type) where
  | returned (error : error)
  | brokenOff (message : String)
  deriving DecidableEq, Repr

/-- The same end with another error. -/
def Halt.map {error other : Type} (change : error → other) : Halt error → Halt other
  | .returned error => .returned (change error)
  | .brokenOff message => .brokenOff message

/-- Why logging is not set up. -/
inductive SetupError where
  /-- The format is unknown. -/
  | invalidFormat (reason : String)
  /-- The directives are no filter. -/
  | invalidFilter (reason : String)
  /-- The path of the log file does not end with a name. -/
  | invalidFile (path : String)
  /-- Logging cannot be put in place. -/
  | notInstalled (reason : String)
  /-- The directory of the log file cannot be made. -/
  | fileFailed (error : Files.FileError)
  deriving DecidableEq, Repr

/-- The wording of the error. -/
def SetupError.message : SetupError → String
  | .invalidFormat reason => s!"Invalid log format: {reason}"
  | .invalidFilter reason => s!"Invalid log filter: {reason}"
  | .invalidFile path => s!"Invalid log file: {path}"
  | .notInstalled reason => s!"Failed to initialize logging: {reason}"
  | .fileFailed error => s!"File logging error: {error.message}"

/-! ## Surroundings -/

/-- The variables that logging is set up from. -/
structure Environment where
  /-- Filter directives. -/
  directives : Option String
  /-- The name of a format. -/
  format : Option String
  /-- The path of a log file or of a directory for log files. -/
  file : Option String
  deriving DecidableEq, Repr

/-- What a program knows about its surroundings when it sets up logging. -/
structure Surroundings where
  /-- Whether a path leads to a directory. -/
  isDirectory : Bytes → Bool
  /-- The day, as the names of log files show it. -/
  day : String

/-- The name of the log file of a day. -/
def dailyFileName (day : String) : String :=
  s!"{day}-fsattr.log"

/-- The log file for a path: a file of the day in a directory, or else the path itself. -/
def Surroundings.logFile (surroundings : Surroundings) (path : Bytes) : Bytes :=
  if surroundings.isDirectory path then
    Files.joinName path (Utf8.encode (dailyFileName surroundings.day))
  else path

/-- A language of filters. -/
structure FilterLanguage (filter : Type) where
  /-- The filter that a text stands for where its faulty parts are left out. -/
  lenient : String → filter
  /-- Reads a filter, or says what is wrong with the text. -/
  parse : String → Except (Halt String) filter

/-! ## Configurations -/

/-- How logging is set up. -/
structure Config where
  /-- The format of all output. -/
  format : Format
  /-- An explicit level. It takes the place of the directives. -/
  level : Option Level
  /-- Filter directives. -/
  directives : Option String
  /-- The path of the log file, beside the console. -/
  file : Option Bytes
  deriving DecidableEq, Repr

namespace Config

/-- The format that a variable names. White space around the name counts for nothing. -/
def formatOf (given : Option String) : Except SetupError Format :=
  match Text.nonBlank? given with
  | none => .ok .pretty
  | some word => (Format.parse (Text.trim word)).mapError .invalidFormat

/-- The configuration that variables ask for. -/
def ofEnvironment (environment : Environment) (surroundings : Surroundings) :
    Except SetupError Config := do
  let format ← formatOf environment.format
  return {
    format := format
    level := none
    directives := Text.nonBlank? environment.directives
    file := (Text.nonBlank? environment.file).map
      (fun path => surroundings.logFile (Utf8.encode path)) }

/-- The configuration with an explicit level. -/
def withLevel (config : Config) (level : Level) : Config :=
  { config with level := some level }

/-- The configuration with another format. -/
def withFormat (config : Config) (format : Format) : Config :=
  { config with format := format }

/-- The filter of the configuration: the explicit level before the directives, and events up to
`info` where there is neither. -/
def filter {filter : Type} (config : Config) (language : FilterLanguage filter) :
    Except (Halt SetupError) filter :=
  match config.level, config.directives with
  | some level, _ => .ok (language.lenient level.capitalName)
  | none, some directives => (language.parse directives).mapError (.map .invalidFilter)
  | none, none => .ok (language.lenient Level.info.capitalName)

end Config

end PackedAttributes.Logging
