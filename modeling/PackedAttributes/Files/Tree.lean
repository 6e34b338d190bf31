import PackedAttributes.Files.Path

/-!
A tree of directories and files that stands in for the file system. Every path is followed step by
step from the root or from the working directory, and every step needs a directory to start from.
Names and paths have a greatest length. The tree refuses nobody and never runs full.
-/
namespace PackedAttributes.Files

/-- The greatest number of bytes of a name. -/
def longestName : Nat := 255

/-- The greatest number of bytes of a path. -/
def longestPath : Nat := 4095

/-- A place in a tree: the names from the root to it. -/
abbrev Location := List Bytes

/-- What is at a place. -/
inductive Node (line : Type) where
  | directory
  /-- A file with its lines. -/
  | file (lines : List line)
  deriving DecidableEq, Repr

/-- A tree of directories and of files with lines. -/
structure Tree (line : Type) where
  /-- Where relative paths start. -/
  workingDirectory : Location
  /-- What is where. The root is always a directory and is not listed. -/
  nodes : List (Location × Node line)
  deriving DecidableEq, Repr

namespace Tree

variable {line : Type}

/-- What is at a place, if anything is. -/
def node? (tree : Tree line) : Location → Option (Node line)
  | [] => some .directory
  | location => tree.nodes.lookup location

/-- Whether a directory is at a place. -/
def hasDirectory (tree : Tree line) (location : Location) : Bool :=
  match tree.node? location with
  | some .directory => true
  | _ => false

/-! ## Following paths -/

/-- The place where a step leads. Nobody can go up from the root. -/
def next (location : Location) : Step → Location
  | .up => location.dropLast
  | .entry name => location ++ [name]

/-- Whether a name is too long to be looked up. -/
def isTooLong : Step → Bool
  | .up => false
  | .entry name => longestName < name.length

/-- The place where steps lead, whether or not anything is there. Each step has to start at a
directory, and that comes first: a name counts as too long only where it is looked up. -/
def follow (tree : Tree line) (location : Location) : List Step → Except OsError Location
  | [] => .ok location
  | step :: rest =>
    match tree.node? location with
    | none => .error .notFound
    | some (.file _) => .error .notDirectory
    | some .directory =>
      if isTooLong step then .error .nameTooLong
      else follow tree (next location step) rest

/-- Where a path starts. -/
def start (tree : Tree line) (path : Path) : Location :=
  if path.isAbsolute then [] else tree.workingDirectory

/-- The place where a path leads, whether or not anything is there. -/
def locate (tree : Tree line) (path : Path) : Except FileError Location :=
  if path.parts.any (fun part => part.contains 0) then .error .nulByte
  else if longestPath < path.toBytes.length then .error (.system .nameTooLong)
  else (tree.follow (tree.start path) path.steps).mapError .system

/-- Whether a path leads to a directory. -/
def isDirectory (tree : Tree line) (path : Path) : Bool :=
  match tree.locate path with
  | .ok location => tree.hasDirectory location
  | .error _ => false

/-! ## Making directories and files -/

/-- Makes one directory. -/
def makeDirectory (tree : Tree line) (path : Path) : Except FileError (Tree line) :=
  match tree.locate path with
  | .error error => .error error
  | .ok location =>
    match tree.node? location with
    | some _ => .error (.system .alreadyExists)
    | none => .ok { tree with nodes := tree.nodes ++ [(location, .directory)] }

/-- Makes one directory unless it is there. -/
def ensureDirectory (tree : Tree line) (path : Path) : Tree line × Option FileError :=
  match tree.makeDirectory path with
  | .ok made => (made, none)
  | .error error => if tree.isDirectory path then (tree, none) else (tree, some error)

/-- Makes the directory at the end of a path, whose parts are given from the last one to the first,
together with the directories on the way that are missing. Where something is in the way, the error
is the one of the first attempt that did not just lack a directory. -/
def ensureParts (tree : Tree line) (isAbsolute : Bool) :
    (reversed : List Bytes) → Tree line × Option FileError
  | [] => (tree, none)
  | last :: before =>
    if (Path.step? last).isNone then ensureParts tree isAbsolute before
    else
      let path : Path := ⟨isAbsolute, (last :: before).reverse⟩
      match tree.ensureDirectory path with
      | (tree, some error) =>
        if error = .system .notFound then
          match ensureParts tree isAbsolute before with
          | (tree, none) => tree.ensureDirectory path
          | failed => failed
        else (tree, some error)
      | made => made

/-- Makes a directory together with the directories on the way that are missing. -/
def ensureDirectories (tree : Tree line) (path : Path) : Tree line × Option FileError :=
  tree.ensureParts path.isAbsolute path.parts.reverse

/-- Opens the file at a path for writing at its end, and makes it if nothing is there. The result is
its place. -/
def openFile (tree : Tree line) (path : Path) : Except FileError (Location × Tree line) :=
  match tree.locate path with
  | .error error => .error error
  | .ok location =>
    match tree.node? location with
    | some .directory => .error (.system .isDirectory)
    | some (.file _) => .ok (location, tree)
    | none => .ok (location, { tree with nodes := tree.nodes ++ [(location, .file [])] })

/-- Writes lines at the end of the file at a place. -/
def append (tree : Tree line) (location : Location) (added : List line) : Tree line :=
  { tree with
    nodes := tree.nodes.map (fun (place, node) =>
      match node with
      | .file lines => (place, if place = location then .file (lines ++ added) else .file lines)
      | .directory => (place, .directory)) }

end Tree

end PackedAttributes.Files
