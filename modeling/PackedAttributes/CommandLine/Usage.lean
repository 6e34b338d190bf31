import PackedAttributes.CommandLine.Invocation
import PackedAttributes.Text.ControlSequence

/-!
What the program says about its own use: descriptions of its commands and reports of errors of
usage. A description that was asked for is no error. Reports repeat parts of the arguments, but
nothing of a report can control the terminal.
-/
namespace PackedAttributes.CommandLine

/-! ## Descriptions -/

namespace Topic

/-- What a command is for. -/
def about : Topic → String
  | .program => "Inspect Darwin filesystem attributes through getattrlist"
  | .get => "Print the attributes of one file, directory or volume"
  | .catalogue => "Print the attribute catalog in buffer order"
  | .help => "Print this message or the help of the given subcommand(s)"

/-- The form of a command line. -/
def usage : Topic → String
  | .program => s!"{programName} [OPTIONS] <COMMAND>"
  | .get => s!"{programName} get [OPTIONS] <PATH>"
  | .catalogue => s!"{programName} catalog [OPTIONS] [CATEGORY]"
  | .help => s!"{programName} help [COMMAND]..."

/-- The line for the level of the log. -/
def logLevelLine : String :=
  "      --log-level <LOG_LEVEL>  Log level (overrides RUST_LOG)"

/-- The line for the description itself. -/
def helpLine : String :=
  "  -h, --help                   Print help"

/-- The parts of a description behind the form of the command line: headings with their lines. -/
def sections : Topic → List (String × List String)
  | .program =>
    [("Commands:", [
        "  get      Print the attributes of one file, directory or volume",
        "  list     Print the attributes of every entry of a directory (bulk read)",
        "  catalog  Print the attribute catalog in buffer order",
        "  help     Print this message or the help of the given subcommand(s)"]),
      ("Options:", [logLevelLine, helpLine, "  -V, --version                Print version"])]
  | .get =>
    [("Arguments:", ["  <PATH>  Path to inspect"]),
      ("Options:", [
        "      --common <NAMES>         Common attributes (e.g. name,objectType,modificationTime)",
        logLevelLine,
        "      --volume <NAMES>         Volume attributes (the path must be a volume root)",
        "      --directory <NAMES>      Directory attributes",
        "      --file <NAMES>           File attributes",
        "      --extended <NAMES>       Extended common attributes",
        "      --returned               Ask the kernel which attributes it actually returned",
        "      --no-follow              Do not follow a trailing symlink",
        helpLine])]
  | .catalogue =>
    [("Arguments:", [
        "  [CATEGORY]  Only this category (common, volume, directory, file, extended)"]),
      ("Options:", [logLevelLine, helpLine])]
  | .help =>
    [("Arguments:", ["  [COMMAND]...  Print help for the subcommand(s)"])]

/-- The description of a command. -/
def description (topic : Topic) : String :=
  Text.unlines ([topic.about, "", s!"Usage: {topic.usage}"] ++
    topic.sections.flatMap (fun (heading, lines) => "" :: heading :: lines))

end Topic

/-! ## Errors -/

/-- The end of every report of an error, behind what is wrong. -/
def hint (what : List String) : List String :=
  match what.getLast? with
  | none => []
  | some last =>
    what.dropLast ++ [last ++ "\n\nFor more information, try '", "--help", "'.\n"]

/-- What is wrong, in pieces. Pieces differ in style from their neighbours, and a control sequence
cannot go on across a change of style. A reason has the style of what follows it. -/
def Stop.pieces : Stop → List String
  | .helpAsked | .versionAsked | .unusableCommand => []
  | .invalidValue value shown reason =>
    [" invalid value '", value, "' for '", shown, s!"': {reason}"]
  | .valueMissing shown => [" a value is required for '", shown, "' but none was supplied"]
  | .unexpectedValue value shown =>
    [" unexpected value '", value, "' for '", shown, "' found; no more were expected"]
  | .repeated shown => [" the argument '", shown, "' cannot be used multiple times"]
  | .unexpectedArgument text => [" unexpected argument '", text, "' found"]
  | .unknownCommand name => [" unrecognized subcommand '", name, "'"]
  | .argumentMissing => [" the following required arguments were not provided:"]

namespace UsageError

/-- What is printed about an error of usage, in pieces. Nothing is printed about a command that
cannot be set up. -/
def report : UsageError → List String
  | .stopped topic .helpAsked => [topic.description]
  | .stopped _ .versionAsked => [s!"{programName} {programVersion}\n"]
  | .stopped _ .unusableCommand => []
  | .stopped _ stop => "error:" :: hint stop.pieces
  | .nothingAsked => [Topic.program.description]
  | .commandMissing =>
    "error:" :: hint [" '", programName, "' requires a subcommand but one was not provided"]

/-- The report as it is printed. -/
def written (error : UsageError) : String :=
  String.join (error.report.map Text.ControlSequence.written)

/-- Whether the program was asked for nothing but information. -/
def isInformation : UsageError → Bool
  | .stopped _ .helpAsked | .stopped _ .versionAsked => true
  | _ => false

/-- The exit code. A command that cannot be set up is a defect and no error of usage. -/
def exitCode : UsageError → UInt8
  | .stopped _ .unusableCommand => 101
  | error => if error.isInformation then 0 else 2

end UsageError

end PackedAttributes.CommandLine
