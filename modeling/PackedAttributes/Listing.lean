import PackedAttributes.DirectoryReader

/-!
Listings for people: the decoded attributes of an object with one line for each, the entries of a
directory, and the catalogue with one line for each attribute of a category.
-/
namespace PackedAttributes.Listing

/-! ## Objects -/

/-- The lines for decoded attributes. The error of an entry is left out; whoever lists entries shows
it in words. -/
def valueLines (values : AttributeValues) (indent : String) : List String :=
  (values.entries.filter (fun entry => entry.1 != .common .error)).map
    (fun (attr, value) => s!"{indent}{attr.qualifiedName} = {value.display}")

/-! ## Directories -/

/-- The attributes that are asked for where a directory is listed. Entries are headed by their names,
and only among the entries of a directory there are errors of single objects. -/
def entrySelection (selection : Selection) : Selection :=
  (selection.insert (.common .name)).insert (.common .error)

/-- The line for the error of an entry, in words. -/
def errorLine (number : UInt32) : String :=
  s!"  error = {(OsError.mk number.toInt32).message}"

/-- The lines for an entry of a directory: its name, its error if it has one, and its attributes. -/
def entryLines (values : AttributeValues) : List String :=
  values.name?.getD "?" :: ((values.errorNumber?.map errorLine).toList ++ valueLines values "  ")

/-- The listing of a directory, entry by entry. -/
def directoryLines (reader : DirectoryReader) (directory : Int32) (selection : Selection)
    (options : Options) : Dialogue Script Failure (List String) := do
  let entries ← reader.read directory (entrySelection selection) options
  return entries.flatMap entryLines

/-! ## The catalogue -/

/-- The line for an attribute of the catalogue at a position in its category. -/
def catalogueLine (attr : Attribute) (index : Nat) : String :=
  let position := Text.padLeft 2 ' ' (toString index)
  s!"  {position}  0x{Text.hexadecimal 8 attr.mask.toNat}  " ++
    s!"{Text.padRight 26 attr.name} {attr.format.description}" ++
    (if attr.isRequestable then "" else "  (not requestable)")

/-- The lines for a category of the catalogue. -/
def catalogueLines (category : Category) : List String :=
  s!"{category.name} (valid mask 0x{Text.hexadecimal 8 category.validMask.toNat})" ::
    (Attribute.inCategory category).mapIdx (fun index attr => catalogueLine attr index)

end PackedAttributes.Listing
