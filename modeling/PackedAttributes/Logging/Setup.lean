import PackedAttributes.Logging.Config

/-!
Setting up logging. The files, the language of filters and the place where a program keeps its logging
are left to a backend, about which nothing is known here: making directories may fail with any error,
opening a log file may break the program off, and putting logging in place may be refused.
-/
namespace PackedAttributes.Logging

/-! ## Backends -/

/-- A layer of logging: what passes, and in which format it is written. -/
structure Layer (filter : Type) where
  /-- Which events pass. -/
  filter : filter
  /-- The format of the lines. -/
  format : Format
  deriving DecidableEq, Repr

/-- The logging of a program. -/
structure Subscriber (filter writer : Type) where
  /-- What goes to the console. -/
  console : Layer filter
  /-- What goes to the log file, if there is one, and what writes it there. -/
  file : Option (Layer filter × writer)
  deriving DecidableEq, Repr

/-- What setting up logging leaves to others. All that they can look at or change is the world. -/
structure Backend (world filter writer : Type) extends FilterLanguage filter where
  /-- The variables of the environment. -/
  environment : world → Environment
  /-- The directories that there are, and the day. -/
  surroundings : world → Surroundings
  /-- Makes a directory together with the directories on the way that are missing. -/
  makeDirectories : (path : Bytes) → world → Except Files.FileError Unit × world
  /-- Opens the log file with a name in a directory. Where it cannot, the program breaks off with a
  message. -/
  openWriter : (directory name : Bytes) → world → Except String writer × world
  /-- Puts logging in place for the whole program, or says why it cannot. -/
  install : Subscriber filter writer → world → Except String Unit × world

/-- What a program keeps while it logs. -/
structure Guard (writer : Type) where
  /-- What writes the log file, if there is one. -/
  writer : Option writer
  /-- The path of the log file, if there is one. -/
  path : Option Bytes
  deriving DecidableEq, Repr

namespace Guard

variable {writer : Type}

/-- The guard of logging without a log file. -/
def consoleOnly : Guard writer := ⟨none, none⟩

/-- The path of the log file in use. -/
def file (guard : Guard writer) : Option Bytes :=
  guard.path

/-- Whether anything is written to a log file. -/
def hasFile (guard : Guard writer) : Bool :=
  guard.writer.isSome

end Guard

/-! ## Setting up -/

namespace Backend

variable {world filter writer : Type} (backend : Backend world filter writer)

/-- Opens the log file at a path, in a directory that is made if it is missing. -/
def openFile (path : Bytes) (here : world) : Except (Halt SetupError) writer × world :=
  let taken := Files.Path.ofBytes path
  match taken.fileName? with
  | none => (.error (.returned (.invalidFile (Utf8.decodeLossy path))), here)
  | some name =>
    match backend.makeDirectories taken.directory here with
    | (.error error, left) => (.error (.returned (.fileFailed error)), left)
    | (.ok (), made) =>
      match backend.openWriter taken.directory name made with
      | (.error message, left) => (.error (.brokenOff message), left)
      | (.ok writer, opened) => (.ok writer, opened)

/-- The layer of the log file and the guard, once the log file is open if one is configured. The
filter, which decides over the lines of the file too, is checked before. -/
def attachFile (config : Config) (here : world) :
    Except (Halt SetupError) (Option (Layer filter × writer) × Guard writer) × world :=
  match config.file with
  | none => (.ok (none, .consoleOnly), here)
  | some path =>
    match config.filter backend.toFilterLanguage with
    | .error halt => (.error halt, here)
    | .ok filter =>
      match backend.openFile path here with
      | (.error halt, left) => (.error halt, left)
      | (.ok writer, opened) =>
        (.ok (some (⟨filter, config.format⟩, writer), ⟨some writer, some path⟩), opened)

/-- Sets up logging as configured: the log file first, and then the console. The file is open before it
turns out whether logging is in place already. -/
def setUp (config : Config) (here : world) : Except (Halt SetupError) (Guard writer) × world :=
  match backend.attachFile config here with
  | (.error halt, left) => (.error halt, left)
  | (.ok (file, guard), attached) =>
    match config.filter backend.toFilterLanguage with
    | .error halt => (.error halt, attached)
    | .ok filter =>
      match backend.install ⟨⟨filter, config.format⟩, file⟩ attached with
      | (.error reason, left) => (.error (.returned (.notInstalled reason)), left)
      | (.ok (), logging) => (.ok guard, logging)

/-- Sets up logging from the environment. -/
def setUpFromEnvironment (here : world) : Except (Halt SetupError) (Guard writer) × world :=
  match Config.ofEnvironment (backend.environment here) (backend.surroundings here) with
  | .error error => (.error (.returned error), here)
  | .ok config => backend.setUp config here

/-- Sets up logging with an explicit level and format. Of the environment only the log file counts.
-/
def setUpWithLevel (level : Level) (format : Format) (here : world) :
    Except (Halt SetupError) (Guard writer) × world :=
  let environment : Environment := ⟨none, none, (backend.environment here).file⟩
  match Config.ofEnvironment environment (backend.surroundings here) with
  | .error error => (.error (.returned error), here)
  | .ok config => backend.setUp ((config.withLevel level).withFormat format) here

end Backend

end PackedAttributes.Logging
