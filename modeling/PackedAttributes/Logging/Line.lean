import PackedAttributes.Text.Basic
import PackedAttributes.Text.Lowercase

/-!
The levels of events, from errors to traces, and what a log says about an event. A line of a log file
is kept with what it says, so that a reader of the log can be told from its text.
-/
namespace PackedAttributes

/-! ## Levels -/

/-- How much an event matters. -/
inductive Level where
  | error | warn | info | debug | trace
  deriving DecidableEq, Repr

namespace Level

/-- How much detail a level stands for: the level itself and all levels with less detail. -/
def detail : Level → Nat
  | .error => 1
  | .warn => 2
  | .info => 3
  | .debug => 4
  | .trace => 5

/-- The name of the level in small letters. -/
def name : Level → String
  | .error => "error"
  | .warn => "warn"
  | .info => "info"
  | .debug => "debug"
  | .trace => "trace"

/-- The name of the level in capitals, as event logs show it. -/
def capitalName (level : Level) : String :=
  level.name.map Char.toUpper

/-- The level that a word stands for, in any letter case. -/
def ofWord? (word : String) : Option Level :=
  match Text.lowercase word with
  | "error" | "err" => some .error
  | "warn" | "warning" => some .warn
  | "info" => some .info
  | "debug" | "dbg" => some .debug
  | "trace" => some .trace
  | _ => none

/-- What is said about a word that stands for no level. -/
def unknownMessage (word : String) : String :=
  s!"Unknown log level: {word}. Use 'error', 'warn', 'info', 'debug', or 'trace'"

/-- Reads a level from a word. -/
def parse (word : String) : Except String Level :=
  match ofWord? word with
  | some level => .ok level
  | none => .error (unknownMessage word)

end Level

end PackedAttributes

namespace PackedAttributes.Logging

/-! ## Formats -/

/-- A format of log output. -/
inductive Format where
  /-- Lines for people. -/
  | pretty
  /-- One object in JSON on each line. -/
  | json
  deriving DecidableEq, Repr

namespace Format

/-- The name of the format. -/
def name : Format → String
  | .pretty => "pretty"
  | .json => "json"

/-- The format that a word stands for, in any letter case. -/
def ofWord? (word : String) : Option Format :=
  match Text.lowercase word with
  | "pretty" | "dev" | "development" => some .pretty
  | "json" | "prod" | "production" => some .json
  | _ => none

/-- What is said about a word that stands for no format. -/
def unknownMessage (word : String) : String :=
  s!"Unknown log format: {word}. Use 'pretty' or 'json'"

/-- Reads a format from a word. -/
def parse (word : String) : Except String Format :=
  match ofWord? word with
  | some format => .ok format
  | none => .error (unknownMessage word)

end Format

/-! ## Lines -/

/-- A line of a log file. -/
inductive Line where
  /-- A line for people. -/
  | plain (text : String)
  /-- An object with the level, the target and the message of an event. -/
  | object (level : Level) (target message : String)
  deriving DecidableEq, Repr

/-- A character inside a string of JSON. -/
def jsonChar (c : Char) : List Char :=
  if c == '"' || c == '\\' then ['\\', c]
  else if c.toNat < 0x20 then ['\\', 'u'] ++ (Text.hexadecimal 4 c.toNat).toList
  else [c]

/-- A text as a string of JSON. -/
def jsonString (text : String) : String :=
  String.ofList ('"' :: (text.toList.flatMap jsonChar ++ ['"']))

namespace Line

/-- The line as it stands in the file. -/
def text : Line → String
  | .plain text => text
  | .object level target message =>
    "\x7b\"level\":" ++ jsonString level.capitalName ++ ",\"fields\":\x7b\"message\":" ++
      jsonString message ++ "\x7d,\"target\":" ++ jsonString target ++ "\x7d"

/-- The lines that an event adds to a log file. A message for people keeps its line breaks. -/
def ofEvent (format : Format) (level : Level) (target message : String) : List Line :=
  match format with
  | .json => [.object level target message]
  | .pretty =>
    (Text.split '\n' s!"{level.capitalName} {target}: {message}").map .plain

end Line

end PackedAttributes.Logging
