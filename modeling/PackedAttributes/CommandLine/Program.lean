import PackedAttributes.CommandLine.Usage
import PackedAttributes.Listing
import PackedAttributes.Logging.Session

/-!
A run of the program, from its arguments and its environment to what it prints. The command line is
read first, then logging is set up, and only then is the command carried out. Outside its own system
the program cannot ask a kernel, so showing an object ends with an error once its selectors make
sense.
-/
namespace PackedAttributes.CommandLine

/-- What a run comes to. -/
structure Outcome where
  /-- The exit code. -/
  exitCode : UInt8
  /-- What is on the standard output. -/
  output : String
  /-- What is on the standard error output. -/
  errors : String
  deriving DecidableEq, Repr

namespace Outcome

/-- A run that succeeds. -/
def success (lines : List String) : Outcome := ⟨0, Text.unlines lines, ""⟩

/-- A run that fails with a report. -/
def failure (report : String) : Outcome := ⟨1, "", Text.unlines [report]⟩

/-- A run that breaks off. -/
def broken : Outcome := ⟨101, "", ""⟩

/-- A run whose command line leads to nothing. -/
def ofUsageError (error : UsageError) : Outcome :=
  if error.isInformation then ⟨error.exitCode, error.written, ""⟩
  else ⟨error.exitCode, "", error.written⟩

/-- A run that does not get as far as to log. -/
def ofHalt : Logging.Halt Logging.SetupError → Outcome
  | .returned error => failure s!"Failed to initialize logging: {error.message}"
  | .brokenOff _ => broken

end Outcome

/-- Why no object can be shown. -/
def unsupported : Failure :=
  .invalidArgument "getattrlist is only available on macOS"

/-- The options of the calls for an object. -/
def callOptions (noFollow : Bool) : Options :=
  if noFollow then .ofFlag .noFollow else .none

/-- Carries out a command. -/
def Command.run (session : Logging.Session) : Command → Outcome × Logging.Session
  | .get _ selectors _ =>
    match selectors.selection with
    | .error reason => (.failure s!"Error: {reason}", session)
    | .ok _ =>
      (.failure s!"Error: {unsupported.message}",
        session.log ⟨.debug, programName, ["message", "path", "attributes"]⟩ "Getting attributes")
  | .catalogue (some category) => (.success (Listing.catalogueLines category), session)
  | .catalogue none => (.success (Category.all.flatMap Listing.catalogueLines), session)

/-- Sets up logging for an invocation. A level on the command line goes before the environment. -/
def Invocation.setUpLogging {world filter writer : Type} (invocation : Invocation)
    (backend : Logging.Backend world filter writer) (here : world) :
    Except (Logging.Halt Logging.SetupError) (Logging.Guard writer) × world :=
  match Logging.Config.ofEnvironment (backend.environment here) (backend.surroundings here) with
  | .error error => (.error (.returned error), here)
  | .ok config =>
    backend.setUp
      (match invocation.logLevel with
        | some level => config.withLevel level
        | none => config)
      here

/-- A run of the program. -/
def run (args : List String) (session : Logging.Session) : Outcome × Logging.Session :=
  match parse args with
  | .error error => (.ofUsageError error, session)
  | .ok invocation =>
    match invocation.setUpLogging Logging.Session.backend session with
    | (.error halt, session) => (.ofHalt halt, session)
    | (.ok _, session) => invocation.command.run session

end PackedAttributes.CommandLine
