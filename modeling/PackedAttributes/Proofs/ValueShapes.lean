import PackedAttributes.Proofs.InlineSpelling
import PackedAttributes.Proofs.PresentValues

/-! Which shape the values of a decoded record have. The catalogue alone decides it, so the view that
belongs to an attribute never misses; permissions and object types come in one form only. -/
namespace PackedAttributes.ValueShapes
open Bytes WordSpelling ExactReading ActivityOutcomes CatalogMasks FieldMeaning RecordDecoding
open PresentValues InlineSpelling

/-! ## Shapes and views -/

/-- The value has the shape, and the view for this shape gives what the value holds. -/
def Shows : Shape → Value → Prop
  | .word32, value => ∃ word, value = .word32 word ∧ value.asWord32? = some word
  | .word64, value => ∃ word, value = .word64 word ∧ value.asWord64? = some word
  | .offset, value => ∃ word, value = .offset word ∧ value.asOffset? = some word
  | .device, value => ∃ word, value = .device word ∧ value.asDevice? = some word
  | .filesystemId, value => ∃ id, value = .filesystemId id ∧ value.asFilesystemId? = some id
  | .objectType, value => ∃ type, value = .objectType type ∧ value.asObjectType? = some type
  | .objectId, value => ∃ id, value = .objectId id ∧ value.asObjectId? = some id
  | .timespec, value => ∃ time, value = .timespec time ∧ value.asTimespec? = some time
  | .guid, value => ∃ id, value = .guid id ∧ value.asGuid? = some id
  | .accessMask, value =>
    ∃ permissions, value = .accessMask permissions ∧ value.asWord32? = some permissions
  | .volumeCapabilities, value =>
    ∃ volume, value = .volumeCapabilities volume ∧ value.asVolumeCapabilities? = some volume
  | .volumeSupport, value =>
    ∃ volume, value = .volumeSupport volume ∧ value.asVolumeSupport? = some volume
  | .extents, value => ∃ runs, value = .extents runs ∧ value.asExtents? = some runs
  | .text, value => ∃ text, value = .text text ∧ value.asText? = some text
  | .blob, value => ∃ bytes, value = .blob bytes ∧ value.asBytes? = some bytes
  | .finderInfo, value => ∃ info, value = .finderInfo info ∧ value.asFinderInfo? = some info

theorem shows_iff (value : Value) : Shows shape value ↔ value.shape = shape := by
  constructor
  · intro shows
    cases shape <;> obtain ⟨_, rfl, _⟩ := shows <;> rfl
  · rintro rfl
    cases value <;> exact ⟨_, rfl, rfl⟩

/-- Permissions are free of the bits for the type of the file, and an object type that has a name is
told by its name. -/
def Canonical : Value → Prop
  | .accessMask permissions => permissions &&& 0xF000 = 0
  | .objectType (.unknown number) => 10 < number.toNat
  | _ => True

theorem permissions_canonical (word : UInt32) : Canonical (.accessMask (word &&& ~~~fileTypeBits)) := by
  apply eq_zero_iff.mpr
  intro bit set
  obtain ⟨plain, type⟩ := has_bit_and.mp set
  exact (has_bit_and_not.mp plain).2 type

theorem object_type_canonical (number : UInt32) :
    Canonical (.objectType (ObjectType.ofNumber number)) := by
  unfold ObjectType.ofNumber
  split
  case h_12 =>
    -- Each number up to ten has matched one of the names before.
    change 10 < number.toNat
    grind
  all_goals trivial

theorem canonical_of_shape {value : Value} (permissions : value.shape ≠ .accessMask)
    (type : value.shape ≠ .objectType) : Canonical value := by
  cases value with
  | accessMask => exact absurd rfl permissions
  | objectType => exact absurd rfl type
  | _ => trivial

theorem denotes_canonical (meaning : Denotes format folder source value) : Canonical value := by
  have kind := denotes_shape meaning
  cases format with
  | inline format =>
    cases format with
    | accessMask =>
      obtain ⟨word, _, rfl⟩ := meaning
      exact permissions_canonical word
    | objectType =>
      obtain ⟨word, _, rfl⟩ := meaning
      exact object_type_canonical word
    | _ => exact canonical_of_shape (by rw [kind]; nofun) (by rw [kind]; nofun)
  | reference format =>
    cases format <;> exact canonical_of_shape (by rw [kind]; nofun) (by rw [kind]; nofun)

/-! ## Decoded records -/

theorem field_offsets_keys (position : Nat) (attrs : List Attribute) :
    (fieldOffsets position attrs).map Prod.fst = attrs := by
  induction attrs generalizing position with
  | nil => rfl
  | cons attr rest ih => rw [fieldOffsets, List.map_cons, ih]

/-- The value of an entry is that of its own field, where the entries before it tell the type of the
object. -/
theorem decoded_entry_held {record : Record} {values : AttributeValues} {index : Nat}
    (decoded : record.decode.outcome = .ok values)
    (entry : values.entries[index]? = some (attr, value)) :
    ∃ position,
      (fieldOffsets record.bodyOffset record.present.fields)[index]? = some (attr, position) ∧
      HoldsValue record.bytes (IsFolder (typeAmong (values.entries.take index))) (attr, position)
        value := by
  have unknown : typeAmong [] = none := rfl
  have holds := (decode_ok_iff (decoded_catalogued decoded)).mp decoded
  rw [← unknown] at holds
  obtain ⟨keys, places⟩ := fields_hold_at holds (fields_nodup record.present)
  have named : record.present.fields[index]? = some attr := by
    rw [← keys, List.getElem?_map, entry]
    rfl
  rw [← field_offsets_keys record.bodyOffset record.present.fields, List.getElem?_map] at named
  obtain ⟨⟨own, position⟩, place, rfl⟩ := Option.map_eq_some_iff.mp named
  obtain ⟨other, found, held⟩ := places index _ place
  cases entry.symm.trans found
  exact ⟨position, place, held⟩

theorem object_type_word (held : HoldsValue bytes folder (attr, position) (.objectType type)) :
    LiesAt bytes position (ofWord32 type.number) := by
  obtain ⟨source, found, meaning⟩ := held
  obtain rfl : attr = .common .objectType := object_type_shape.mp (denotes_shape meaning).symm
  obtain ⟨word, rfl, same⟩ := meaning
  cases same
  rw [number_of_number]
  by_cases room : position + InlineFormat.objectType.size ≤ bytes.length
  · have lies : some (bytes.slice position 4) = some (ofWord32 word) :=
      (inline_source .objectType room).symm.trans found
    rw [← Option.some.inj lies]
    exact slice_lies_at
  · cases (source_none (.inline .objectType) room).symm.trans found

theorem decoded_shows {record : Record} (decoded : record.decode.outcome = .ok values)
    (found : values.get? attr = some value) : Shows attr.format.shape value := by
  obtain ⟨index, entry⟩ := List.getElem?_of_mem ((decoded_get_iff decoded).mp found)
  obtain ⟨_, _, _, _, meaning⟩ := decoded_entry_held decoded entry
  exact (shows_iff value).mpr (denotes_shape meaning)

/-- A view that fits the shape of an attribute finds a value exactly if the attribute is present. -/
theorem view_finds {record : Record} {view : Value → Option α}
    (decoded : record.decode.outcome = .ok values) (field : attr ≠ .returnedAttributes)
    (fitting : ∀ value, Shows attr.format.shape value → (view value).isSome = true) :
    ((values.get? attr).bind view).isSome = true ↔ record.present.contains attr = true := by
  rw [← field_present_iff decoded field]
  cases found : values.get? attr with
  | none => rfl
  | some value => exact iff_of_true (fitting value (decoded_shows decoded found)) rfl

theorem view_some_iff {record : Record} {view : Value → Option α} {wrap : α → Value}
    (decoded : record.decode.outcome = .ok values) (inverse : ∀ part, view (wrap part) = some part)
    (fitting : ∀ value, Shows attr.format.shape value → ∃ part, value = wrap part) :
    (values.get? attr).bind view = some part ↔ values.get? attr = some (wrap part) := by
  rw [Option.bind_eq_some_iff]
  constructor
  · rintro ⟨value, found, seen⟩
    obtain ⟨own, rfl⟩ := fitting value (decoded_shows decoded found)
    rw [inverse] at seen
    cases seen
    exact found
  · intro found
    exact ⟨_, found, inverse part⟩

/-- Every value of a decoded record has the shape that the catalogue gives to its attribute, in canonical
form, so that the view for this shape finds it; and an object type is the word of its field. The name
and the type of the object are found exactly if the record holds them. -/
theorem decoded_values_shaped (record : Record) (values : AttributeValues)
    (decoded : record.decode.outcome = .ok values) :
    (∀ (index : Nat) attr value, values.entries[index]? = some (attr, value) →
      Shows attr.format.shape value ∧ Canonical value ∧
      ∃ position,
        (fieldOffsets record.bodyOffset record.present.fields)[index]? = some (attr, position) ∧
        ∀ type, value = .objectType type →
          LiesAt record.bytes position (ofWord32 type.number)) ∧
    (values.name?.isSome = true ↔ record.present.contains (.common .name) = true) ∧
    (values.objectType?.isSome = true ↔ record.present.contains (.common .objectType) = true) := by
  refine ⟨?_, ?_, ?_⟩
  · intro index attr value entry
    obtain ⟨position, place, held⟩ := decoded_entry_held decoded entry
    have ⟨_, _, meaning⟩ := held
    refine ⟨(shows_iff value).mpr (denotes_shape meaning), denotes_canonical meaning, position, place, ?_⟩
    rintro type rfl
    exact object_type_word held
  · apply view_finds decoded (by decide)
    rintro _ ⟨text, rfl, _⟩
    rfl
  · apply view_finds decoded (by decide)
    rintro _ ⟨type, rfl, _⟩
    rfl

/-- A record with a name, with a type that has no name and with the permissions of a regular file. -/
theorem unknown_type_kept :
    let present : AttributeSet := ⟨0x20009, 0, 0, 0, 0⟩
    let bytes : Bytes := [22, 0, 0, 0] ++ [16, 0, 0, 0, 2, 0, 0, 0] ++ [11, 0, 0, 0] ++
      [0xA4, 0x81, 0, 0] ++ [0x61, 0]
    let values : AttributeValues :=
      ⟨[(.common .name, .text "a"), (.common .objectType, .objectType (.unknown 11)),
        (.common .accessMask, .accessMask 0x1A4)]⟩
    (Record.mk bytes present none).decode.outcome = .ok values ∧
    Shows .text (.text "a") ∧ Shows .accessMask (.accessMask 0x1A4) ∧
    Canonical (.objectType (.unknown 11)) ∧ Canonical (.accessMask 0x1A4) ∧
    LiesAt bytes 12 (ofWord32 11) ∧ values.name?.isSome = true ∧ values.objectType?.isSome = true := by
  intro present bytes values
  have decoded : (Record.mk bytes present none).decode.outcome = .ok values :=
    to_option_ok_iff.mp (by decide +kernel)
  obtain ⟨shaped, named, typed⟩ := decoded_values_shaped ⟨bytes, present, none⟩ values decoded
  obtain ⟨name, _⟩ := shaped 0 _ _ rfl
  obtain ⟨_, type, position, place, word⟩ := shaped 1 _ _ rfl
  obtain ⟨mask, permissions, _⟩ := shaped 2 _ _ rfl
  have found : (fieldOffsets 4 present.fields)[1]? = some (.common .objectType, 12) := by
    decide +kernel
  cases found.symm.trans place
  exact ⟨decoded, name, mask, type, permissions, word _ rfl, named.mpr (by decide +kernel),
    typed.mpr (by decide +kernel)⟩

end PackedAttributes.ValueShapes
