import PackedAttributes.Proofs.DirectoryReading
import PackedAttributes.Proofs.ValueShapes

/-! Finder information has the shape of its own object. The type of an object lies before its Finder
information in every record, so all that a record tells about the type is known where the shape is
chosen, and nothing that another record tells can take its place. -/
namespace PackedAttributes.FinderInfoShape
open WordSpelling ExactReading ActivityOutcomes FieldMeaning RecordDecoding
open PresentValues InlineSpelling ValueShapes DirectoryReading

/-! ## The type of the object -/

/-- Whatever precedes an attribute in the catalogue is found before it or not at all. -/
theorem lookup_before {entries : List (Attribute × Value)} {index : Nat}
    (ordered : (entries.map Prod.fst).Pairwise Precedes)
    (entry : entries[index]? = some (later, value)) (before : Precedes earlier later) :
    (entries.take index).lookup earlier = entries.lookup earlier := by
  obtain ⟨inside, held⟩ := List.getElem?_eq_some_iff.mp entry
  have split : entries = entries.take index ++ (later, value) :: entries.drop (index + 1) := by
    rw [← held, ← List.drop_eq_getElem_cons inside, List.take_append_drop]
  have behind : ((later, value) :: entries.drop (index + 1)).lookup earlier = none := by
    rw [split, List.map_append, List.map_cons, List.pairwise_append, List.pairwise_cons] at ordered
    obtain ⟨_, ⟨after, _⟩, _⟩ := ordered
    rw [List.lookup_eq_none_iff]
    intro other member
    rw [bne_iff_ne]
    rintro rfl
    rcases List.mem_cons.mp member with rfl | member
    · exact precedes_irrefl _ before
    · exact precedes_asymm before (after _ (List.mem_map_of_mem member))
  conv_rhs => rw [split, List.lookup_append, behind, Option.or_none]

theorem type_precedes_finder : Precedes (.common .objectType) (.common .finderInfo) :=
  .inr ⟨rfl, by decide⟩

theorem type_told_before {record : Record} {values : AttributeValues} {index : Nat}
    (decoded : record.decode.outcome = .ok values)
    (entry : values.entries[index]? = some (.common .finderInfo, value)) :
    typeAmong (values.entries.take index) = values.objectType? := by
  have ordered : (values.entries.map Prod.fst).Pairwise Precedes :=
    decoded_keys decoded ▸ fields_ordered record.present
  rw [typeAmong, AttributeValues.objectType?, AttributeValues.get?,
    lookup_before ordered entry type_precedes_finder]
  rfl

/-- The record has a field for the type of its object, and the word of this field is two. -/
def TellsDirectory (record : Record) : Prop :=
  ∃ position, (.common .objectType, position) ∈ fieldOffsets record.bodyOffset record.present.fields ∧
    LiesAt record.bytes position [2, 0, 0, 0]

theorem field_entry {record : Record} {values : AttributeValues}
    (decoded : record.decode.outcome = .ok values)
    (field : (attr, position) ∈ fieldOffsets record.bodyOffset record.present.fields) :
    ∃ folder value, (attr, value) ∈ values.entries ∧
      HoldsValue record.bytes folder (attr, position) value := by
  obtain ⟨index, place⟩ := List.getElem?_of_mem field
  have key : (values.entries.map Prod.fst)[index]? = some attr := by
    rw [decoded_keys decoded, ← field_offsets_keys record.bodyOffset record.present.fields,
      List.getElem?_map, place]
    rfl
  rw [List.getElem?_map] at key
  obtain ⟨⟨_, value⟩, entry, rfl⟩ := Option.map_eq_some_iff.mp key
  obtain ⟨_, own, held⟩ := decoded_entry_held decoded entry
  cases place.symm.trans own
  exact ⟨_, value, List.mem_of_getElem? entry, held⟩

theorem type_of_object_iff {record : Record} {values : AttributeValues}
    (decoded : record.decode.outcome = .ok values) :
    values.objectType? = some type ↔ (.common .objectType, .objectType type) ∈ values.entries := by
  rw [← decoded_get_iff decoded]
  exact view_some_iff decoded (fun _ => rfl) fun _ ⟨own, same, _⟩ => ⟨own, same⟩

theorem directory_told_iff {record : Record} {values : AttributeValues}
    (decoded : record.decode.outcome = .ok values) :
    values.objectType? = some .directory ↔ TellsDirectory record := by
  rw [type_of_object_iff decoded]
  constructor
  · intro member
    obtain ⟨index, entry⟩ := List.getElem?_of_mem member
    obtain ⟨position, place, held⟩ := decoded_entry_held decoded entry
    exact ⟨position, List.mem_of_getElem? place, object_type_word held⟩
  · rintro ⟨position, field, word⟩
    obtain ⟨folder, value, member, held⟩ := field_entry decoded field
    have ⟨_, _, number, _, same⟩ := held
    subst same
    have own := object_type_word held
    rw [number_of_number, lies_at_iff_slice, of_word32_length] at own
    obtain rfl : number = 2 := word32_injective (own.symm.trans (lies_at_iff_slice.mp word))
    exact member

/-! ## The shape -/

/-- Finder information, if there is any, has the shape of folders if the same attributes tell that the
object is a directory, and the shape of files if they tell anything else or nothing. -/
def ShapedByType (values : AttributeValues) : Prop :=
  ∀ value, values.get? (.common .finderInfo) = some value →
    ((∃ info extended, value = .finderInfo (.folder info extended)) ↔
      values.objectType? = some .directory) ∧
    ((∃ info extended, value = .finderInfo (.file info extended)) ↔
      values.objectType? ≠ some .directory)

theorem finder_shape_iff {record : Record} {values : AttributeValues}
    (decoded : record.decode.outcome = .ok values)
    (found : values.get? (.common .finderInfo) = some value) :
    ∃ info, value = .finderInfo info ∧
      (info.isFolder = true ↔ values.objectType? = some .directory) := by
  obtain ⟨index, entry⟩ := List.getElem?_of_mem ((decoded_get_iff decoded).mp found)
  obtain ⟨position, _, held⟩ := decoded_entry_held decoded entry
  rw [type_told_before decoded entry] at held
  obtain ⟨_, _, info, _, shape, rfl⟩ := held
  exact ⟨info, rfl, shape.trans directory_iff⟩

theorem decoded_shaped {record : Record} {values : AttributeValues}
    (decoded : record.decode.outcome = .ok values) : ShapedByType values := by
  intro value found
  obtain ⟨info, rfl, shape⟩ := finder_shape_iff decoded found
  cases info <;> simpa [FinderInfo.isFolder] using shape

/-- In every record that is decoded, Finder information is there if its bit is set, and it has the
shape of a folder exactly if the type of the object is there too and is that of directories, which
the word in the field of the same record tells. The same holds for each entry of a directory, whatever
the entries before it were. -/
theorem finder_info_shaped_by_type :
    (∀ (record : Record) values, record.decode.outcome = .ok values →
      ((values.get? (.common .finderInfo)).isSome = true ↔
        record.present.contains (.common .finderInfo) = true) ∧
      (values.objectType? = some .directory ↔ TellsDirectory record) ∧
      ShapedByType values) ∧
    ∀ (reader : DirectoryReader) directory selection options script entries,
      (reader.read directory selection options script).traced.outcome = .ok entries →
        ∀ values ∈ entries, ShapedByType values := by
  constructor
  · intro record values decoded
    exact ⟨field_present_iff decoded (by decide), directory_told_iff decoded, decoded_shaped decoded⟩
  · intro reader directory selection options script entries read values member
    obtain ⟨record, decoded⟩ := read_entry_decoded read member
    exact decoded_shaped decoded

/-- An entry with Finder information, and with the type of its object if this was returned. -/
def finderEntry (returned : AttributeSet) (type : Bytes) : Bytes :=
  let body := type ++ [8, 0, 0, 0, 32, 0, 0, 0] ++ List.replicate 32 0x41
  Bytes.ofWord32 (24 + body.length).toUInt32 ++ returned.toBytes ++ body

/-- Behind a directory comes an object whose type was not returned. The same Finder information is
that of a folder first and that of a file then. -/
theorem untyped_entry_shaped_as_file :
    let typed : AttributeSet := ⟨0x4008, 0, 0, 0, 0⟩
    let record : Record := ⟨finderEntry typed [2, 0, 0, 0], ⟨0x80004008, 0, 0, 0, 0⟩, some typed⟩
    let written := record.bytes ++ finderEntry ⟨0x4000, 0, 0, 0, 0⟩ []
    TellsDirectory record ∧ ∃ folder file : AttributeValues,
      ((DirectoryReader.mk 132).read 3 ⟨[.common .objectType, .common .finderInfo]⟩ .none
        [.success written 2, .success [] 0]).traced.outcome = .ok [folder, file] ∧
      (∃ info extended,
        folder.get? (.common .finderInfo) = some (.finderInfo (.folder info extended))) ∧
      ∃ info extended, file.get? (.common .finderInfo) = some (.finderInfo (.file info extended)) := by
  intro typed record written
  obtain ⟨alone, inside⟩ := finder_info_shaped_by_type
  have directory : record.decode.outcome.toOption.map AttributeValues.objectType? =
      some (some .directory) := by decide +kernel
  obtain ⟨values, decoded, type⟩ := Option.map_eq_some_iff.mp directory
  obtain ⟨_, told, _⟩ := alone record values (to_option_ok_iff.mp decoded)
  refine ⟨told.mp type, ?_⟩
  let reading := (DirectoryReader.mk 132).read 3 ⟨[.common .objectType, .common .finderInfo]⟩ .none
    [.success written 2, .success [] 0]
  let summary (values : AttributeValues) :=
    (values.objectType?, (values.get? (.common .finderInfo)).isSome)
  have summaries : reading.traced.outcome.toOption.map (List.map summary) =
      some [(some .directory, true), (none, true)] := by decide +kernel
  obtain ⟨entries, given, brief⟩ := Option.map_eq_some_iff.mp summaries
  obtain ⟨folder, _, rfl, first, brief⟩ := List.map_eq_cons_iff.mp brief
  obtain ⟨file, _, rfl, second, brief⟩ := List.map_eq_cons_iff.mp brief
  cases List.map_eq_nil_iff.mp brief
  have outcome := to_option_ok_iff.mp given
  have shaped := inside _ _ _ _ _ _ outcome
  simp only [summary, Prod.mk.injEq, Option.isSome_iff_exists] at first second
  obtain ⟨typedFolder, value, found⟩ := first
  obtain ⟨untyped, other, kept⟩ := second
  obtain ⟨info, extended, rfl⟩ := (shaped folder (by simp) value found).1.mpr typedFolder
  obtain ⟨_, _, rfl⟩ := (shaped file (by simp) other kept).2.mpr (by rw [untyped]; nofun)
  exact ⟨folder, file, outcome, ⟨_, _, found⟩, _, _, kept⟩

end PackedAttributes.FinderInfoShape
