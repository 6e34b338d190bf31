import PackedAttributes.Logging.Pattern
import PackedAttributes.Text.Basic
import PackedAttributes.Text.DoublePrecision

/-!
What a filter directive asks of the fields of spans and events: that there is a field of some name,
and for spans also that its value matches. A value is taken for the first kind that its text reads
as; what is neither a truth value nor a number is a pattern.
-/
namespace PackedAttributes.Logging

/-- What the value of a field has to match. -/
inductive FieldValue where
  /-- A truth value. -/
  | bool (value : Bool)
  /-- A number in double precision. -/
  | double (value : Text.DoublePrecision)
  /-- A whole number that is not negative and fits in 64 bits. -/
  | natural (value : Nat)
  /-- A negative number that fits in 64 bits. -/
  | integer (value : Int)
  /-- A pattern for texts. -/
  | pattern (text : String)
  deriving DecidableEq, Repr

namespace FieldValue

/-- A whole number as a value, if it fits in 64 bits. -/
def ofWholeNumber? (text : String) : Option FieldValue :=
  match Text.natural? text, Text.integer? text with
  | some value, _ => if value < UInt64.size then some (.natural value) else none
  | none, some value => if Int64.minValue.toInt ≤ value then some (.integer value) else none
  | none, none => none

/-- Reads a value. -/
def parse (text : String) : Except Pattern.Fault FieldValue :=
  if text = "true" then .ok (.bool true)
  else if text = "false" then .ok (.bool false)
  else
    match ofWholeNumber? text, Text.DoublePrecision.ofText? text with
    | some value, _ => .ok value
    | none, some value => .ok (.double value)
    | none, none => (Pattern.check text).map (fun _ => .pattern text)

/-- The value as text. -/
def text : FieldValue → String
  | .bool value => toString value
  | .double value => value.text
  | .natural value => toString value
  | .integer value => toString value
  | .pattern text => text

/-- The place of the kind of a value in the order of values. -/
def rank : FieldValue → Nat
  | .bool _ => 0
  | .double _ => 1
  | .natural _ => 2
  | .integer _ => 3
  | .pattern _ => 4

/-- The order of values: by kind, and inside a kind by value. -/
def order : FieldValue → FieldValue → Ordering
  | .bool left, .bool right => compare left right
  | .double left, .double right => left.order right
  | .natural left, .natural right => compare left right
  | .integer left, .integer right => compare left right
  | .pattern left, .pattern right => compare left right
  | left, right => compare left.rank right.rank

end FieldValue

/-- What a directive asks of a field. -/
structure FieldMatch where
  /-- The name of the field. -/
  name : String
  /-- What its value has to match, if that matters. -/
  value : Option FieldValue
  deriving DecidableEq, Repr

namespace FieldMatch

/-- Reads a name, or a name and a value with an equals sign between. What a further equals sign
introduces is left out. -/
def parse (text : String) : Except Pattern.Fault FieldMatch :=
  match Text.split '=' text with
  | name :: value :: _ => (FieldValue.parse value).map (fun value => ⟨name, some value⟩)
  | _ => .ok ⟨text, none⟩

/-- The field as text. -/
def text (field : FieldMatch) : String :=
  match field.value with
  | some value => s!"{field.name}={value.text}"
  | none => field.name

/-- The order of what is asked of fields: names alone first, then by name and by value. -/
def order (left right : FieldMatch) : Ordering :=
  let values := match left.value, right.value with
    | some left, some right => left.order right
    | _, _ => .eq
  (compare left.value.isSome right.value.isSome).then ((compare left.name right.name).then values)

end FieldMatch

end PackedAttributes.Logging
