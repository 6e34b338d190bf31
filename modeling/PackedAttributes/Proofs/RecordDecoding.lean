import PackedAttributes.Kernel.StoredObject
import PackedAttributes.Proofs.ActivityOutcomes
import PackedAttributes.Proofs.CatalogMasks
import PackedAttributes.Proofs.FieldMeaning
import PackedAttributes.Record

/-! Which records are decoded, and to which values. The position of every field is the sum of the
sizes before it, whatever the fields hold. A record is accepted exactly when each field can be read
where it lies, its values are those that the fields stand for, and otherwise the first field that
cannot be read is the one that is reported. -/
namespace PackedAttributes.RecordDecoding
open ActivityOutcomes CatalogMasks FieldMeaning

/-! ## One field -/

/-- The field of an attribute at a position can be read: its inline part lies inside the record, and
so does the range of its descriptor, with content that is valid for its format. -/
def Readable (bytes : Bytes) (field : Attribute × Nat) : Prop :=
  ∃ source, source? field.1.format bytes field.2 = some source ∧ Valid field.1.format source

/-- The field of an attribute at a position stands for the value. -/
def HoldsValue (bytes : Bytes) (folder : Prop) (field : Attribute × Nat) (value : Value) : Prop :=
  ∃ source, source? field.1.format bytes field.2 = some source ∧
    Denotes field.1.format folder source value

theorem readable_iff (folder : Prop) :
    Readable bytes field ↔ ∃ value, HoldsValue bytes folder field value := by
  constructor
  · rintro ⟨source, found, valid⟩
    obtain ⟨value, meaning⟩ := (valid_iff _ folder found).mp valid
    exact ⟨value, source, found, meaning⟩
  · rintro ⟨value, source, found, meaning⟩
    exact ⟨source, found, (valid_iff _ folder found).mpr ⟨value, meaning⟩⟩

/-- The type of the object as far as it is known makes it a folder. -/
def IsFolder (objectType : Option ObjectType) : Prop :=
  objectType.any ObjectType.isDirectory = true

theorem field_reader_ok_iff {attr : Attribute} :
    attr.format.reader objectType bytes position = .ok (value, after) ↔
      after = position + attr.format.inlineSize ∧
        HoldsValue bytes (IsFolder objectType) (attr, position) value :=
  field_ok_iff attr.format

theorem field_reader_error {attr : Attribute}
    (failed : attr.format.reader objectType bytes position = .error fault) :
    ¬Readable bytes (attr, position) := by
  intro readable
  obtain ⟨value, holds⟩ := (readable_iff (IsFolder objectType)).mp readable
  rw [field_reader_ok_iff.mpr ⟨rfl, holds⟩] at failed
  cases failed

/-- A field stands for one value at most. -/
theorem holds_value_unique (first : HoldsValue bytes folder field value)
    (second : HoldsValue bytes folder field other) : value = other := by
  obtain ⟨objectType, same⟩ : ∃ objectType, IsFolder objectType = folder := by
    by_cases isFolder : folder
    · exact ⟨some .directory, by simp [IsFolder, ObjectType.isDirectory, isFolder]⟩
    · exact ⟨none, by simp [IsFolder, isFolder]⟩
  subst same
  have read : field.1.format.reader objectType bytes field.2 = .ok (value, _) :=
    field_reader_ok_iff.mpr ⟨rfl, first⟩
  rw [field_reader_ok_iff.mpr ⟨rfl, second⟩] at read
  cases read
  rfl

theorem finder_format {attr : Attribute} :
    attr.format = .reference .finderInfo ↔ attr = .common .finderInfo := by
  revert attr
  decide +kernel

/-- The value of a field depends on its source bytes alone, and for Finder information also on
whether the object is a folder. -/
theorem holds_value_congr {attr : Attribute}
    (same : source? attr.format bytes position = source? attr.format other elsewhere)
    (kind : attr = .common .finderInfo → (folder ↔ otherFolder)) :
    HoldsValue bytes folder (attr, position) value ↔
      HoldsValue other otherFolder (attr, elsewhere) value := by
  simp only [HoldsValue, same]
  by_cases finder : attr = .common .finderInfo
  · rw [propext (kind finder)]
  · have indifferent (source : Bytes) : Denotes attr.format folder source value ↔
        Denotes attr.format otherFolder source value :=
      denotes_without_folder (fun format => finder (finder_format.mp format))
    simp only [indifferent]

/-! ## All fields -/

/-- The fields of attributes one behind the other from a position on stand for the entries, where
the object type is known from what stood before. -/
def FieldsHold (bytes : Bytes) :
    List Attribute → Option ObjectType → Nat → List (Attribute × Value) → Prop
  | [], _, _, entries => entries = []
  | attr :: rest, objectType, position, entries => ∃ value later,
    entries = (attr, value) :: later ∧
    HoldsValue bytes (IsFolder objectType) (attr, position) value ∧
    FieldsHold bytes rest (value.asObjectType?.or objectType)
      (position + attr.format.inlineSize) later

theorem fields_hold_keys (holds : FieldsHold bytes attrs objectType position entries) :
    entries.map Prod.fst = attrs := by
  induction attrs generalizing objectType position entries with
  | nil =>
    obtain rfl := holds
    rfl
  | cons attr rest ih =>
    obtain ⟨value, later, rfl, _, further⟩ := holds
    rw [List.map_cons, ih further]

/-- Decoding one field and then the rest. -/
theorem decode_fields_cons (attr : Attribute) (rest : List Attribute) :
    (Record.decodeFields bytes (attr :: rest) objectType position).outcome =
      match attr.format.reader objectType bytes position with
      | .error fault => .error (.undecodable attr fault)
      | .ok (value, after) =>
        (Record.decodeFields bytes rest (value.asObjectType?.or objectType) after).outcome.map
          (fun found => ((attr, value) :: found.1, found.2)) := by
  rw [Record.decodeFields]
  cases attr.format.reader objectType bytes position with
  | error fault => rfl
  | ok read =>
    simp only [traced_bind_outcome, report_outcome, except_ok_bind, traced_pure_outcome]
    cases (Record.decodeFields bytes rest (read.1.asObjectType?.or objectType) read.2).outcome <;> rfl

theorem decode_fields_ok_iff (attrs : List Attribute) :
    (Record.decodeFields bytes attrs objectType position).outcome = .ok (entries, past) ↔
      FieldsHold bytes attrs objectType position entries ∧ past = position + inlineSize attrs := by
  induction attrs generalizing objectType position entries past with
  | nil => simp [Record.decodeFields, FieldsHold, inlineSize, eq_comm]
  | cons attr rest ih =>
    rw [decode_fields_cons, FieldsHold]
    cases read : attr.format.reader objectType bytes position with
    | error fault =>
      constructor
      · nofun
      · rintro ⟨⟨value, later, _, holds, _⟩, _⟩
        rw [field_reader_ok_iff.mpr ⟨rfl, holds⟩] at read
        cases read
    | ok found =>
      obtain ⟨value, after⟩ := found
      obtain ⟨rfl, holds⟩ := field_reader_ok_iff.mp read
      simp only [except_map_ok_iff, Prod.exists, Prod.mk.injEq, ih, inlineSize]
      constructor
      · rintro ⟨later, _, ⟨further, rfl⟩, rfl, rfl⟩
        exact ⟨⟨value, later, rfl, holds, further⟩, by omega⟩
      · rintro ⟨⟨other, later, rfl, otherHolds, further⟩, rfl⟩
        obtain rfl := holds_value_unique holds otherHolds
        exact ⟨later, _, ⟨further, rfl⟩, rfl, by omega⟩

/-- Fields have values exactly when each of them can be read where it lies. -/
theorem fields_hold_exist (attrs : List Attribute) :
    (∃ entries, FieldsHold bytes attrs objectType position entries) ↔
      ∀ field ∈ fieldOffsets position attrs, Readable bytes field := by
  induction attrs generalizing objectType position with
  | nil => simp [fieldOffsets, FieldsHold]
  | cons attr rest ih =>
    rw [fieldOffsets, List.forall_mem_cons]
    constructor
    · rintro ⟨_, value, later, rfl, holds, further⟩
      exact ⟨(readable_iff _).mpr ⟨value, holds⟩, ih.mp ⟨later, further⟩⟩
    · rintro ⟨readable, others⟩
      obtain ⟨value, holds⟩ := (readable_iff (IsFolder objectType)).mp readable
      obtain ⟨later, further⟩ := ih.mpr others
      exact ⟨_, value, later, rfl, holds, further⟩

/-- The first field that cannot be read is the one that is reported, whatever stands behind it. -/
theorem decode_fields_error {attrs : List Attribute} {failure : Failure}
    (failed : (Record.decodeFields bytes attrs objectType position).outcome = .error failure) :
    ∃ (index : Nat) (attr : Attribute) (offset : Nat) (fault : Fault),
      failure = .undecodable attr fault ∧
      (fieldOffsets position attrs)[index]? = some (attr, offset) ∧
      ¬Readable bytes (attr, offset) ∧
      ∀ before < index, ∀ field, (fieldOffsets position attrs)[before]? = some field →
        Readable bytes field := by
  induction attrs generalizing objectType position with
  | nil => cases failed
  | cons first rest ih =>
    rw [decode_fields_cons] at failed
    cases read : first.format.reader objectType bytes position with
    | error fault =>
      rw [read] at failed
      cases failed
      exact ⟨0, first, position, fault, rfl, rfl, field_reader_error read, nofun⟩
    | ok found =>
      obtain ⟨value, after⟩ := found
      obtain ⟨rfl, holds⟩ := field_reader_ok_iff.mp read
      rw [read] at failed
      obtain ⟨index, attr, offset, fault, told, place, unreadable, earlier⟩ :=
        ih (except_map_error_iff.mp failed)
      refine ⟨index + 1, attr, offset, fault, told, place, unreadable, ?_⟩
      intro before below field found
      cases before with
      | zero =>
        cases found
        exact (readable_iff _).mpr ⟨value, holds⟩
      | succ before => exact earlier before (by omega) field found

/-! ## The type of the object -/

/-- The type of the object that entries tell. -/
def typeAmong (entries : List (Attribute × Value)) : Option ObjectType :=
  AttributeValues.objectType? ⟨entries⟩

theorem denotes_shape (meaning : Denotes format folder source value) :
    value.shape = format.shape := by
  cases format with
  | inline format =>
    cases format <;> first | exact meaning.1 | (obtain ⟨_, _, rfl⟩ := meaning; rfl)
  | reference format =>
    cases format with
    | text =>
      obtain ⟨_, _, _, rfl⟩ := meaning
      rfl
    | blob =>
      obtain rfl := meaning
      rfl
    | finderInfo =>
      obtain ⟨_, _, _, rfl⟩ := meaning
      rfl

theorem object_type_of_shape {value : Value} :
    value.asObjectType?.isSome = true ↔ value.shape = .objectType := by
  cases value <;> simp [Value.asObjectType?, Value.shape]

/-- Only one attribute has values that are object types. -/
theorem object_type_shape {attr : Attribute} :
    attr.format.shape = .objectType ↔ attr = .common .objectType := by
  revert attr
  decide +kernel

/-- The value of any other attribute tells no type. -/
theorem no_object_type {value : Value} {attr : Attribute} (kind : value.shape = attr.format.shape)
    (other : attr ≠ .common .objectType) : value.asObjectType? = none := by
  rw [← Option.not_isSome_iff_eq_none, object_type_of_shape, kind, object_type_shape]
  exact other

/-- A further entry replaces the known type exactly if it tells one. -/
theorem type_among_append (fresh : attr ∉ before.map Prod.fst)
    (kind : value.shape = (Attribute.format attr).shape) :
    typeAmong (before ++ [(attr, value)]) = value.asObjectType?.or (typeAmong before) := by
  simp only [typeAmong, AttributeValues.objectType?, AttributeValues.get?, List.lookup_append]
  by_cases own : attr = .common .objectType
  · subst own
    have absent : before.lookup (.common .objectType) = none := by
      rw [List.lookup_eq_none_iff]
      intro entry member
      simpa using fun same => fresh (List.mem_map.mpr ⟨entry, member, same.symm⟩)
    simp [absent]
  · have alone : [(attr, value)].lookup (.common .objectType) = none := by
      simpa [List.lookup_eq_none_iff] using Ne.symm own
    rw [alone, Option.or_none, no_object_type kind own, Option.none_or]

/-- Where all fields are read, each attribute has the value of its own field, and what counts as
known about the type of the object is what the entries before it tell. -/
theorem fields_hold_at {attrs : List Attribute} {before entries : List (Attribute × Value)}
    (holds : FieldsHold bytes attrs (typeAmong before) position entries)
    (distinct : (before.map Prod.fst ++ attrs).Nodup) :
    entries.map Prod.fst = attrs ∧
      ∀ (index : Nat) (field : Attribute × Nat), (fieldOffsets position attrs)[index]? = some field →
        ∃ value, entries[index]? = some (field.1, value) ∧
          HoldsValue bytes (IsFolder (typeAmong (before ++ entries.take index))) field value := by
  induction attrs generalizing before position entries with
  | nil =>
    obtain rfl := holds
    exact ⟨rfl, nofun⟩
  | cons attr rest ih =>
    obtain ⟨value, later, rfl, own, further⟩ := holds
    have fresh : attr ∉ before.map Prod.fst := fun member =>
      (List.nodup_append.mp distinct).2.2 attr member attr List.mem_cons_self rfl
    have ⟨_, _, meaning⟩ := own
    rw [← type_among_append fresh (denotes_shape meaning)] at further
    obtain ⟨keys, values⟩ := ih further (by simpa using distinct)
    refine ⟨by rw [List.map_cons, keys], ?_⟩
    intro index field found
    cases index with
    | zero =>
      cases found
      exact ⟨value, rfl, by simpa using own⟩
    | succ index =>
      obtain ⟨other, entry, held⟩ := values index field found
      exact ⟨other, entry, by simpa using held⟩

/-- Values that their fields stand for are the decoded ones, provided that the type of the object is
told before any Finder information that depends on it. -/
theorem fields_hold_of_values {attrs : List Attribute} (value : Attribute → Value) (folder : Prop)
    (order : attrs.Pairwise fun earlier later =>
      ¬(earlier = .common .finderInfo ∧ later = .common .objectType))
    (told : .common .objectType ∈ attrs →
      (IsFolder (value (.common .objectType)).asObjectType? ↔ folder))
    (known : .common .objectType ∉ attrs → (IsFolder objectType ↔ folder))
    (holds : ∀ field ∈ fieldOffsets position attrs, HoldsValue bytes folder field (value field.1)) :
    FieldsHold bytes attrs objectType position (attrs.map fun attr => (attr, value attr)) := by
  induction attrs generalizing objectType position with
  | nil => rfl
  | cons attr rest ih =>
    obtain ⟨own, others⟩ := List.forall_mem_cons.mp holds
    obtain ⟨behind, order⟩ := List.pairwise_cons.mp order
    refine ⟨value attr, _, rfl, ?_, ?_⟩
    · refine (holds_value_congr rfl ?_).mpr own
      rintro rfl
      refine known fun member => ?_
      rcases List.mem_cons.mp member with same | later
      · cases same
      · exact behind _ later ⟨rfl, rfl⟩
    · apply ih order (fun later => told (List.mem_cons_of_mem _ later)) _ others
      intro absent
      obtain ⟨_, _, meaning⟩ := own
      have kind := denotes_shape meaning
      by_cases type : attr = .common .objectType
      · subst type
        have tells := object_type_of_shape.mpr (kind.trans (object_type_shape.mpr rfl))
        rw [Option.or_of_isSome tells]
        exact told List.mem_cons_self
      · rw [no_object_type kind type, Option.none_or]
        exact known (List.not_mem_cons_of_ne_of_not_mem (Ne.symm type) absent)

/-! ## Records -/

theorem decode_ok_iff {record : Record} (known : Catalogued record.present) :
    record.decode.outcome = .ok values ↔
      FieldsHold record.bytes record.present.fields none record.bodyOffset values.entries := by
  rw [Record.decode, unknown_eq_none_iff.mpr known]
  simp only [traced_bind_outcome, report_outcome, except_ok_bind, traced_pure_outcome,
    except_bind_ok_iff, decode_fields_ok_iff, Prod.exists]
  constructor
  · rintro ⟨entries, _, ⟨holds, _⟩, ⟨⟩⟩
    exact holds
  · intro holds
    exact ⟨values.entries, _, ⟨holds, rfl⟩, rfl⟩

/-- Only a record without foreign bits is decoded. -/
theorem decoded_catalogued {record : Record} (decoded : record.decode.outcome = .ok values) :
    Catalogued record.present := by
  rw [← unknown_eq_none_iff]
  cases found : record.present.unknown? with
  | none => rfl
  | some unknown =>
    rw [Record.decode, found] at decoded
    cases decoded

theorem decode_error_iff {record : Record} {failure : Failure} (known : Catalogued record.present) :
    record.decode.outcome = .error failure ↔
      (Record.decodeFields record.bytes record.present.fields none record.bodyOffset).outcome =
        .error failure := by
  rw [Record.decode, unknown_eq_none_iff.mpr known]
  simp only [traced_bind_outcome, report_outcome, except_ok_bind, traced_pure_outcome]
  cases (Record.decodeFields record.bytes record.present.fields none record.bodyOffset).outcome <;>
    simp

/-- Without foreign bits, a record is only refused for a field, and the failure names its attribute. -/
theorem catalogued_failure {record : Record} {failure : Failure} (known : Catalogued record.present)
    (failed : record.decode.outcome = .error failure) :
    ∃ attr fault, failure = .undecodable attr fault := by
  obtain ⟨_, attr, _, fault, told, _⟩ := decode_fields_error ((decode_error_iff known).mp failed)
  exact ⟨attr, fault, told⟩

theorem fields_nodup (set : AttributeSet) : set.fields.Nodup := by
  rw [fields_eq_filter]
  exact all_nodup.filter _

theorem body_offset_header (record : Record) : record.bodyOffset = headerSize record.returned := by
  rw [Record.bodyOffset, headerSize]
  cases record.returned <;> rfl

theorem header_size_eq (returned : Option AttributeSet) :
    headerSize returned = if returned.isSome then 24 else 4 := by
  cases returned <;> rfl

/-- A record without foreign bits is decoded exactly when each of its fields can be read where the
sizes of the fields before it place it. Its values are then those of the fields, in the order of the
catalogue, and otherwise the first field that cannot be read is reported. -/
theorem record_decoded_by_layout (record : Record) (known : Catalogued record.present) :
    let attrs := Attribute.all.filter
      (fun attr => record.present.contains attr && attr != .returnedAttributes)
    let fields := fieldOffsets (if record.returned.isSome then 24 else 4) attrs
    ((∃ values, record.decode.outcome = .ok values) ↔
      ∀ field ∈ fields, Readable record.bytes field) ∧
    (∀ values, record.decode.outcome = .ok values →
      values.entries.map Prod.fst = attrs ∧
      ∀ (index : Nat) attr position, fields[index]? = some (attr, position) →
        ∀ value, values.entries[index]? = some (attr, value) ↔
          HoldsValue record.bytes (IsFolder (typeAmong (values.entries.take index)))
            (attr, position) value) ∧
    (∀ attr position value other elsewhere, ∀ folder otherFolder : Prop,
      source? attr.format record.bytes position = source? attr.format other elsewhere →
      (attr = .common .finderInfo → (folder ↔ otherFolder)) →
        (HoldsValue record.bytes folder (attr, position) value ↔
          HoldsValue other otherFolder (attr, elsewhere) value)) ∧
    (∀ failure, record.decode.outcome = .error failure →
      ∃ (index : Nat) (attr : Attribute) (position : Nat) (fault : Fault),
        failure = .undecodable attr fault ∧ fields[index]? = some (attr, position) ∧
        ¬Readable record.bytes (attr, position) ∧
        ∀ before < index, ∀ field, fields[before]? = some field → Readable record.bytes field) := by
  intro attrs fields
  have order : record.present.fields = attrs := fields_eq_filter record.present
  have start : fieldOffsets record.bodyOffset attrs = fields := by
    rw [body_offset_header, header_size_eq]
  refine ⟨?_, ?_, ?_, ?_⟩
  · rw [← start, ← fields_hold_exist attrs, ← order]
    simp only [decode_ok_iff known]
    exact ⟨fun ⟨values, holds⟩ => ⟨values.entries, holds⟩, fun ⟨entries, holds⟩ => ⟨⟨entries⟩, holds⟩⟩
  · intro values decoded
    have holds := (decode_ok_iff known).mp decoded
    have distinct := fields_nodup record.present
    rw [order] at holds distinct
    have unknown : typeAmong [] = none := rfl
    rw [← unknown] at holds
    obtain ⟨keys, places⟩ := fields_hold_at holds distinct
    refine ⟨keys, fun index attr position place value => ?_⟩
    rw [← start] at place
    obtain ⟨found, entry, held⟩ := places index _ place
    simp only [entry, Option.some.injEq, Prod.mk.injEq, true_and]
    constructor
    · rintro rfl
      exact held
    · exact holds_value_unique held
  · intro attr position value other elsewhere folder otherFolder same kind
    exact holds_value_congr same kind
  · intro failure failed
    rw [decode_error_iff known, order] at failed
    rw [← start]
    exact decode_fields_error failed

/-- A folder whose Finder information overlaps everything else in the record, the length and its own
descriptor included. -/
def overlappingRecord : Record where
  bytes := [32, 0, 0, 0] ++ [20, 0, 0, 0, 2, 0, 0, 0] ++ [2, 0, 0, 0] ++
    [0xF0, 0xFF, 0xFF, 0xFF, 32, 0, 0, 0] ++ [0x61, 0, 0, 0, 0, 0, 0, 0]
  requested := ⟨0x4009, 0x80000000, 0, 0, 0⟩
  returned := none

theorem overlapping_record_decoded_by_layout :
    Catalogued overlappingRecord.present ∧
    (∃ values, overlappingRecord.decode.outcome = .ok values ∧
      values.get? (.common .name) = some (.text "a")) ∧
    ∀ field ∈ [(.common .name, 4), (.common .objectType, 12), (.common .finderInfo, 16)],
      Readable overlappingRecord.bytes field := by
  have known : Catalogued overlappingRecord.present := unknown_eq_none_iff.mp (by decide +kernel)
  have decoded : ∃ values, overlappingRecord.decode.outcome = .ok values ∧
      values.get? (.common .name) = some (.text "a") := ⟨_, rfl, by decide +kernel⟩
  obtain ⟨accepted, _⟩ := record_decoded_by_layout overlappingRecord known
  have ⟨values, outcome, _⟩ := decoded
  have readable := accepted.mp ⟨values, outcome⟩
  have places : fieldOffsets 4 (Attribute.all.filter (fun attr =>
      overlappingRecord.present.contains attr && attr != .returnedAttributes)) =
      [(.common .name, 4), (.common .objectType, 12), (.common .finderInfo, 16)] := by
    decide +kernel
  refine ⟨known, decoded, ?_⟩
  rw [← places]
  exact readable

end PackedAttributes.RecordDecoding
