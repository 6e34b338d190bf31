import PackedAttributes.Files.Tree
import PackedAttributes.Logging.Filter
import PackedAttributes.Logging.Setup

/-!
Logging over the life of a program, with a tree of files. It can be put in place once, and log lines go
to the file of the attempt that succeeded.
-/
namespace PackedAttributes.Logging

/-- The state of a program as far as logging is concerned. -/
structure Session where
  /-- The variables of the environment. -/
  environment : Environment
  /-- The day. -/
  day : String
  /-- The files. -/
  files : Files.Tree Line
  /-- The logging that is in place, once it is set up. -/
  installed : Option (Subscriber Filter Files.Location)

namespace Session

/-- What a program says that breaks off because the name of a log file is no text. -/
def nameMessage : String :=
  "filename prefix must be a valid UTF-8 string"

/-- The structure of an error of opening a file, as text. -/
def structural : Files.FileError → String
  | .system error =>
    let kind := if error = OsError.isDirectory then "IsADirectory" else "InvalidFilename"
    Text.fields "Os" [("code", toString error.number.toInt), ("kind", kind),
      ("message", Text.quoted error.text)]
  | .nulByte =>
    Text.fields "Error" [("kind", "InvalidInput"),
      ("message", Text.quoted Files.FileError.nulByte.message)]
  | .other text => Text.fields "Custom" [("kind", "Other"), ("error", Text.quoted text)]

/-- What a program says that breaks off because it cannot open its log file. -/
def openMessage (error : Files.FileError) : String :=
  "initializing rolling file appender failed: " ++
    Text.fields "InitError" [("context", Text.quoted "failed to create initial log file"),
      ("source", structural error)]

/-- Why logging cannot be put in place again. -/
def takenMessage : String :=
  "a global default trace dispatcher has already been set"

/-- Makes a directory in the tree. -/
def makeDirectories (path : Bytes) (session : Session) :
    Except Files.FileError Unit × Session :=
  match session.files.ensureDirectories (.ofBytes path) with
  | (files, none) => (.ok (), { session with files := files })
  | (files, some error) => (.error error, { session with files := files })

/-- Opens a log file in the tree. -/
def openWriter (directory name : Bytes) (session : Session) :
    Except String Files.Location × Session :=
  match Utf8.decode name, session.files.openFile (.ofBytes (Files.joinName directory name)) with
  | .error _, _ => (.error nameMessage, session)
  | .ok _, .error error => (.error (openMessage error), session)
  | .ok _, .ok (location, files) => (.ok location, { session with files := files })

/-- Puts logging in place unless it is there already. -/
def install (subscriber : Subscriber Filter Files.Location) (session : Session) :
    Except String Unit × Session :=
  match session.installed with
  | some _ => (.error takenMessage, session)
  | none => (.ok (), { session with installed := some subscriber })

/-- The tree and the place for logging as a backend. -/
def backend : Backend Session Filter Files.Location where
  toFilterLanguage := Filter.language
  environment := environment
  surroundings session := ⟨fun path => session.files.isDirectory (.ofBytes path), session.day⟩
  makeDirectories := makeDirectories
  openWriter := openWriter
  install := install

/-- Logs an event. -/
def log (session : Session) (signature : Signature) (message : String) : Session :=
  match session.installed with
  | some ⟨_, some (⟨filter, format⟩, file)⟩ =>
    if filter.allows signature then
      let lines := Line.ofEvent format signature.level signature.target message
      { session with files := session.files.append file lines }
    else session
  | _ => session

end Session

end PackedAttributes.Logging
