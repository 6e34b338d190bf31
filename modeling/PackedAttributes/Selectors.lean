import PackedAttributes.Request
import PackedAttributes.Text.Basic

/-!
What a user asks for on the command line: lists of names by category, and whether the kernel should
say what it returned. Whoever names nothing gets the name, the type and the time of modification.

A list holds names of one category in any letter case, separated by commas, with white space around
them and blank pieces between them. The word `all` stands for every attribute of the category that is
worth asking for without being named.
-/
/-! ## Names -/

namespace PackedAttributes.Names

/-- The attributes that `all` leaves out: those about the answer itself, and Finder information. -/
def leftOutOfAll : List Attribute :=
  [.returnedAttributes, .common .error, .common .finderInfo]

/-- The attributes of a category that `all` stands for. -/
def all (category : Category) : List Attribute :=
  (Attribute.inCategory category).filter
    (fun attr => attr.isRequestable && !leftOutOfAll.contains attr)

/-- What is said about a name that no attribute of a category has. -/
def unknownMessage (category : Category) (name : String) : String :=
  let valid := Text.joined ", " ((Attribute.inCategory category).map Attribute.name)
  s!"Unknown {category.name} attribute '{name}'. Valid names: {valid}"

/-- The attribute of a category with a name. -/
def resolve (category : Category) (name : String) : Except String Attribute :=
  match Attribute.find? category name with
  | some attr => .ok attr
  | none => .error (unknownMessage category name)

/-- The names in a list, without the white space around them and without blank pieces. -/
def pieces (text : String) : List String :=
  ((Text.split ',' text).map Text.trim).filter (fun name => !name.isEmpty)

/-- The attributes of a category that a list names, in the order of the names. -/
def parse (category : Category) (text : String) : Except String (List Attribute) :=
  if Text.agreesUpToAsciiCase (Text.trim text) "all" then .ok (all category)
  else (pieces text).mapM (resolve category)

end PackedAttributes.Names

/-! ## Selectors -/

namespace PackedAttributes

/-- The lists of names that were given, and what else was asked for. -/
structure Selectors where
  /-- Names of common attributes. -/
  common : Option String
  /-- Names of volume attributes. -/
  volume : Option String
  /-- Names of directory attributes. -/
  directory : Option String
  /-- Names of file attributes. -/
  file : Option String
  /-- Names of extended attributes. -/
  extended : Option String
  /-- Whether the set of returned attributes is wanted. -/
  returned : Bool
  deriving DecidableEq, Repr

namespace Selectors

/-- The list of names for a category. -/
def names (selectors : Selectors) : Category → Option String
  | .common => selectors.common
  | .volume => selectors.volume
  | .directory => selectors.directory
  | .file => selectors.file
  | .extended => selectors.extended

/-- A selection with the attributes that the list for a category names, if there is one. -/
def extend (selectors : Selectors) (selection : Selection) (category : Category) :
    Except String Selection :=
  match selectors.names category with
  | some text => do return selection.insertAll (← Names.parse category text)
  | none => .ok selection

/-- The attributes that the lists name, category by category, up to the first list that is not
understood. -/
def named (selectors : Selectors) : Except String Selection :=
  Category.all.foldlM selectors.extend .empty

/-- What is selected where no attribute is named. -/
def usual : Selection :=
  ((Selection.empty.including (.common .name)).including (.common .objectType)).including
    (.common .modificationTime)

/-- The selection that the selectors stand for. -/
def selection (selectors : Selectors) : Except String Selection := do
  let named ← selectors.named
  let chosen := if named.isEmpty then usual else named
  return if selectors.returned then chosen.insert .returnedAttributes else chosen

end Selectors

end PackedAttributes
