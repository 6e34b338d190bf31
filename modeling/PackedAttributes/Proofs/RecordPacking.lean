import PackedAttributes.Proofs.RecordDecoding
import PackedAttributes.Proofs.RegionContent

/-! A packed record is decoded to the values that were packed. The descriptor of each content counts
from its own position, so what has to be shown is that every field lies where the sizes before it
place it and that every descriptor points to its own content, whatever the padding. -/
namespace PackedAttributes.RecordPacking
open Bytes WordSpelling ExactReading FieldMeaning CatalogMasks RegionContent RecordDecoding

/-! ## Positions -/

@[simp] theorem inline_size_nil : inlineSize [] = 0 :=
  rfl

@[simp] theorem inline_size_cons (attr : Attribute) (rest : List Attribute) :
    inlineSize (attr :: rest) = attr.format.inlineSize + inlineSize rest :=
  rfl

@[simp] theorem inline_size_append (front back : List Attribute) :
    inlineSize (front ++ back) = inlineSize front + inlineSize back := by
  induction front with
  | nil => simp
  | cons attr front ih => simp [ih, Nat.add_assoc]

/-- The position of a field is the sum of the sizes before it. -/
theorem field_offset_split (member : (attr, offset) ∈ fieldOffsets position attrs) :
    ∃ before after, attrs = before ++ attr :: after ∧ offset = position + inlineSize before := by
  induction attrs generalizing position with
  | nil => cases member
  | cons first rest ih =>
    rcases List.mem_cons.mp member with own | later
    · cases own
      exact ⟨[], rest, rfl, rfl⟩
    · obtain ⟨before, after, rfl, rfl⟩ := ih later
      exact ⟨first :: before, after, rfl, by rw [inline_size_cons]; omega⟩

/-! ## Packed fields -/

/-- A field whose bytes have the size that the catalogue gives to inline values. -/
def Sized (field : PackedField) : Prop :=
  ∀ format, field.attr.format = .inline format → field.bytes.length = format.size

theorem packed_keys {object : Attribute → PackedField} (own : ∀ attr, (object attr).attr = attr)
    (attrs : List Attribute) : (attrs.map object).map PackedField.attr = attrs := by
  simp [List.map_map, Function.comp_def, own]

theorem inline_part_length (sized : Sized field) :
    (field.inlinePart position place).length = field.attr.format.inlineSize := by
  cases format : field.attr.format with
  | inline kind => simp [PackedField.inlinePart, format, FieldFormat.inlineSize, sized kind format]
  | reference kind =>
    simp [PackedField.inlinePart, format, FieldFormat.inlineSize, Reference.toBytes, descriptorSize]

theorem content_parts_append (front back : List PackedField) :
    PackedField.contentParts (front ++ back) =
      PackedField.contentParts front ++ PackedField.contentParts back := by
  simp [PackedField.contentParts]

theorem inline_parts_append {front : List PackedField} (sized : ∀ field ∈ front, Sized field)
    (back : List PackedField) :
    PackedField.inlineParts (front ++ back) position place =
      PackedField.inlineParts front position place ++
        PackedField.inlineParts back (position + inlineSize (front.map PackedField.attr))
          (place + (PackedField.contentParts front).length) := by
  induction front generalizing position place with
  | nil => simp [PackedField.inlineParts, PackedField.contentParts]
  | cons field front ih =>
    obtain ⟨own, others⟩ := List.forall_mem_cons.mp sized
    simp only [List.cons_append, PackedField.inlineParts, ih others, inline_part_length own,
      List.map_cons, inline_size_cons, PackedField.contentParts, List.flatMap_cons,
      List.length_append, List.append_assoc, Nat.add_assoc]

theorem inline_parts_length {fields : List PackedField} (sized : ∀ field ∈ fields, Sized field) :
    (PackedField.inlineParts fields position place).length =
      inlineSize (fields.map PackedField.attr) := by
  induction fields generalizing position place with
  | nil => rfl
  | cons field fields ih =>
    obtain ⟨own, others⟩ := List.forall_mem_cons.mp sized
    simp [PackedField.inlineParts, inline_part_length own, ih others]

/-! ## The record -/

/-- What stands in front of the fields of a record, the length included. -/
def header (returned : Option AttributeSet) (length : Nat) : Bytes :=
  ofWord32 (UInt32.ofNat length) ++ (returned.map AttributeSet.toBytes).getD []

@[simp] theorem header_length (returned : Option AttributeSet) (length : Nat) :
    (header returned length).length = headerSize returned := by
  cases returned with
  | none => simp [header, headerSize, lengthPrefixSize]
  | some set => simp [header, headerSize, lengthPrefixSize, attribute_set_exact.width]

/-- The position behind all inline fields and the gap, where the first content lies. -/
def contentStart (returned : Option AttributeSet) (gap : Bytes) (fields : List PackedField) : Nat :=
  headerSize returned + inlineSize (fields.map PackedField.attr) + gap.length

theorem packed_length (returned : Option AttributeSet) (gap : Bytes) {fields : List PackedField}
    (sized : ∀ field ∈ fields, Sized field) :
    (packRecord returned gap fields).length =
      contentStart returned gap fields + (PackedField.contentParts fields).length := by
  have width := header_length returned 0
  simp only [header, List.length_append, of_word32_length] at width
  simp only [packRecord, contentStart, List.length_append, of_word32_length,
    inline_parts_length sized]
  omega

theorem packed_parts (returned : Option AttributeSet) (gap : Bytes) (fields : List PackedField) :
    packRecord returned gap fields =
      header returned (packRecord returned gap fields).length ++
        PackedField.inlineParts fields (headerSize returned) (contentStart returned gap fields) ++
        gap ++ PackedField.contentParts fields := by
  have whole : lengthPrefixSize + ((returned.map AttributeSet.toBytes).getD [] ++
      PackedField.inlineParts fields (headerSize returned) (contentStart returned gap fields) ++
      gap ++ PackedField.contentParts fields).length = (packRecord returned gap fields).length := by
    simp [packRecord, contentStart, lengthPrefixSize]
  rw [header, ← whole]
  simp only [packRecord, contentStart, List.append_assoc]

/-- Each inline part lies where the sizes before it place it. -/
theorem packed_inline_lies (returned : Option AttributeSet) (gap : Bytes)
    {before : List PackedField} (sized : ∀ packed ∈ before ++ field :: after, Sized packed) :
    LiesAt (packRecord returned gap (before ++ field :: after))
      (headerSize returned + inlineSize (before.map PackedField.attr))
      (field.inlinePart (headerSize returned + inlineSize (before.map PackedField.attr))
        (contentStart returned gap (before ++ field :: after) +
          (PackedField.contentParts before).length)) := by
  have front : ∀ field ∈ before, Sized field := fun field member =>
    sized field (List.mem_append_left _ member)
  rw [packed_parts, inline_parts_append front, PackedField.inlineParts, ← List.append_assoc,
    ← List.append_assoc, List.append_assoc _ _ gap, List.append_assoc _ (_ ++ gap)]
  apply lies_at_middle
  rw [List.length_append, header_length, inline_parts_length front]

/-- Each content lies behind the content of the fields before it. -/
theorem packed_content_lies (returned : Option AttributeSet) (gap : Bytes)
    {before : List PackedField} (sized : ∀ packed ∈ before ++ field :: after, Sized packed) :
    LiesAt (packRecord returned gap (before ++ field :: after))
      (contentStart returned gap (before ++ field :: after) +
        (PackedField.contentParts before).length) field.contentPart := by
  rw [packed_parts, content_parts_append, ← List.append_assoc]
  change LiesAt (_ ++ (field.contentPart ++ PackedField.contentParts after)) _ _
  rw [← List.append_assoc]
  apply lies_at_middle
  simp only [List.length_append, header_length, inline_parts_length sized, contentStart]

theorem reference_spelled (reference : Reference) :
    Reference.ofBytes reference.origin reference.toBytes = reference := by
  have front : reference.toBytes.slice 0 4 = ofInt32 reference.offset := by
    simp [Reference.toBytes, slice]
  have back : reference.toBytes.slice 4 4 = ofWord32 reference.length := by
    simp [Reference.toBytes, slice, List.take_of_length_le]
  have offset := (int32_eq_iff (of_int32_length reference.offset) reference.offset).mpr rfl
  have length := (word32_eq_iff (of_word32_length reference.length) reference.length).mpr rfl
  simp only [Reference.ofBytes, front, back, offset, length]

/-- A descriptor holds distances below this one. -/
def distanceLimit : Nat := 0x80000000

theorem inline_source_of_lies (lies : LiesAt bytes position block)
    (width : block.length = InlineFormat.size format) :
    source? (.inline format) bytes position = some block := by
  have room := lies_at_room lies (width ▸ inline_size_pos format)
  have same := lies_at_iff_slice.mp lies
  rw [width] at room same
  rw [inline_source format room, same]

/-- A descriptor with the distance to its content leads to that content. -/
theorem reference_source_of_lies (kind : ContentFormat) {distance : Nat}
    (lies : LiesAt bytes position
      (Reference.toBytes ⟨position, Int32.ofNat distance, UInt32.ofNat content.length⟩))
    (behind : LiesAt bytes (position + distance) content)
    (inside : position + distance + content.length ≤ bytes.length)
    (near : distance < distanceLimit) (small : content.length < UInt32.size) :
    source? (.reference kind) bytes position = some content := by
  have width : (Reference.toBytes ⟨position, Int32.ofNat distance,
      UInt32.ofNat content.length⟩).length = descriptorSize := by
    simp [Reference.toBytes, descriptorSize]
  have room := lies_at_room lies (by rw [width]; decide)
  have spelled := lies_at_iff_slice.mp lies
  rw [width] at room spelled
  have descriptor : descriptorAt bytes position =
      ⟨position, Int32.ofNat distance, UInt32.ofNat content.length⟩ := by
    rw [descriptorAt, spelled]
    exact reference_spelled ⟨position, Int32.ofNat distance, UInt32.ofNat content.length⟩
  have start : (descriptorAt bytes position).start = ((position + distance : Nat) : Int) := by
    rw [descriptor, Reference.start, Int32.toInt_ofNat_of_lt near, Int.natCast_add]
  have length : (descriptorAt bytes position).length.toNat = content.length := by
    rw [descriptor]
    exact UInt32.toNat_ofNat_of_lt' small
  rw [reference_source kind room, Reference.content, start, length, if_pos (by omega),
    Int.toNat_natCast, lies_at_iff_slice.mp behind]
  rfl

/-- The distance from each descriptor to its content fits into the descriptor: the inline fields from
the descriptor on, the gap and the content of the fields before it. -/
def DistancesFit (gap : Bytes) (fields : List PackedField) : Prop :=
  ∀ before field after kind, fields = before ++ field :: after →
    field.attr.format = .reference kind →
      inlineSize ((field :: after).map PackedField.attr) + gap.length +
        (PackedField.contentParts before).length < distanceLimit

/-- In a short record every distance fits. -/
theorem distances_fit (short : inlineSize (fields.map PackedField.attr) + gap.length +
    (PackedField.contentParts fields).length < distanceLimit) : DistancesFit gap fields := by
  rintro before field after kind rfl _
  simp only [content_parts_append, List.map_append, inline_size_append, List.length_append] at short
  omega

/-- Every field of a packed record takes its value from the bytes that were packed for it. -/
theorem packed_source {before : List PackedField}
    (sized : ∀ packed ∈ before ++ field :: after, Sized packed)
    (small : (packRecord returned gap (before ++ field :: after)).length < UInt32.size)
    (distances : DistancesFit gap (before ++ field :: after)) :
    source? field.attr.format (packRecord returned gap (before ++ field :: after))
      (headerSize returned + inlineSize (before.map PackedField.attr)) = some field.bytes := by
  have lies := packed_inline_lies returned gap sized
  have behind := packed_content_lies returned gap sized
  have length := packed_length returned gap sized
  cases format : field.attr.format with
  | inline kind =>
    simp only [PackedField.inlinePart, format] at lies
    exact inline_source_of_lies lies (sized field (by simp) kind format)
  | reference kind =>
    have near := distances before field after kind rfl format
    simp only [PackedField.inlinePart, PackedField.contentPart, format] at lies behind
    have content := (lies_at_append.mp behind).1
    have distance : contentStart returned gap (before ++ field :: after) +
        (PackedField.contentParts before).length =
        headerSize returned + inlineSize (before.map PackedField.attr) +
          (inlineSize ((field :: after).map PackedField.attr) + gap.length +
            (PackedField.contentParts before).length) := by
      simp only [contentStart, List.map_append, inline_size_append]
      omega
    rw [content_parts_append, List.length_append] at length
    have own : field.bytes.length ≤ (PackedField.contentParts (field :: after)).length := by
      simp only [PackedField.contentParts, List.flatMap_cons, PackedField.contentPart, format,
        List.length_append]
      omega
    rw [distance] at lies content
    rw [Nat.add_sub_cancel_left] at lies
    exact reference_source_of_lies kind lies content (by omega) near (by omega)

/-! ## Values -/

/-- A value that fits the format of a field: an access mask without the bits for the type of a file,
a type as its number tells it, and Finder information of the shape for folders exactly in folders. -/
def Fits (format : FieldFormat) (folder : Prop) (value : Value) : Prop :=
  value.shape = format.shape ∧
  match value with
  | .accessMask permissions => permissions &&& fileTypeBits = 0
  | .objectType type => ∃ number, type = ObjectType.ofNumber number
  | .finderInfo info => info.isFolder = true ↔ folder
  | _ => True

theorem permissions_kept {permissions : UInt32} (plain : permissions &&& fileTypeBits = 0) :
    permissions &&& ~~~fileTypeBits = permissions := by
  apply mask_ext
  intro bit
  rw [has_bit_and, has_bit_not]
  constructor
  · exact And.left
  · intro set
    exact ⟨set, has_bit_lt set, fun type => eq_zero_iff.mp plain bit (has_bit_and.mpr ⟨set, type⟩)⟩

/-- The bytes of a fitting value stand for it. -/
theorem fits_denotes {format : FieldFormat} (fits : Fits format folder value) :
    Denotes format folder value.toBytes value := by
  obtain ⟨shape, proper⟩ := fits
  cases format with
  | inline kind =>
    cases kind with
    | accessMask =>
      cases value <;> simp [Value.shape, FieldFormat.shape] at shape
      exact ⟨_, rfl, by rw [permissions_kept proper]⟩
    | objectType =>
      cases value <;> simp [Value.shape, FieldFormat.shape] at shape
      obtain ⟨number, rfl⟩ := proper
      exact ⟨_, rfl, by rw [number_of_number]⟩
    | _ => exact ⟨shape, rfl⟩
  | reference kind =>
    cases kind <;> cases value <;> simp [Value.shape, FieldFormat.shape] at shape
    case text content =>
      refine ⟨by simp [Value.toBytes], content, ?_, rfl⟩
      simp [Value.toBytes, withoutTerminator]
    case blob content => rfl
    case finderInfo info => exact ⟨info, rfl, proper, rfl⟩

/-- Only the set of returned attributes is kept as bytes of any length among the inline values. -/
theorem fits_sized {format : InlineFormat} (fits : Fits (.inline format) folder value)
    (field : format ≠ .attributeSet) : value.toBytes.length = format.size := by
  obtain ⟨shape, -⟩ := fits
  cases format <;> cases value <;> cases shape
  case volumeCapabilities volume => exact volume_capabilities_exact.width volume
  case volumeAttributes volume => exact volume_support_exact.width volume
  case extents runs => exact extents_exact.width runs
  case guid id => exact id.length_eq
  case attributeSet => exact absurd rfl field
  all_goals simp [Value.toBytes, InlineFormat.size]

/-! ## Packing and decoding -/

theorem packed_states_length (small : (packRecord returned gap fields).length < UInt32.size) :
    StatesLength (packRecord returned gap fields) where
  small := small
  stated := by
    have parts := packed_parts returned gap fields
    rw [header, List.append_assoc, List.append_assoc, List.append_assoc] at parts
    exact ⟨_, parts.symm⟩

/-- The set of returned attributes is found behind the length where it was asked for. -/
theorem packed_header (fields : List PackedField)
    (asked : requested.contains .returnedAttributes = returned.isSome) :
    Record.ofBytes (packRecord returned gap fields) requested =
      .ok ⟨packRecord returned gap fields, requested, returned⟩ := by
  rw [Record.ofBytes, asked]
  cases returned with
  | none => rfl
  | some set =>
    have lies : LiesAt (packRecord (some set) gap fields) lengthPrefixSize set.toBytes := by
      rw [packed_parts, header, List.append_assoc _ gap, List.append_assoc _ _ (gap ++ _)]
      exact lies_at_middle _ _ _ (of_word32_length _)
    have read := (attribute_set_exact.reads ..).mpr ⟨set, lies, rfl, rfl⟩
    simp only [Option.isSome_some, if_true, Reader.valueAt, read, Except.map, id]

theorem packed_parse (small : (packRecord returned gap fields).length < UInt32.size)
    (asked : requested.contains .returnedAttributes = returned.isSome) :
    Record.parse (packRecord returned gap fields) requested =
      .ok ⟨packRecord returned gap fields, requested, returned⟩ := by
  rw [parse_eq_of_bytes (packed_states_length small), packed_header _ asked]
  rfl

/-- The type of an object comes before its Finder information. -/
theorem type_before_finder (set : AttributeSet) : set.fields.Pairwise fun earlier later =>
    ¬(earlier = .common .finderInfo ∧ later = .common .objectType) := by
  have order : Attribute.all.Pairwise fun earlier later =>
      ¬(earlier = .common .finderInfo ∧ later = .common .objectType) := by decide +kernel
  rw [fields_eq_filter]
  exact order.filter _

/-- A value of the objectType field makes its object a folder exactly if it is the type of folders. -/
theorem folder_of_type {value : Value} (kind : value.shape = .objectType) :
    IsFolder value.asObjectType? ↔ value = .objectType .directory := by
  cases value <;> cases kind
  simp [IsFolder, Value.asObjectType?, ObjectType.isDirectory]

/-- A packed record is decoded to the values that its packed bytes stand for. -/
theorem packed_decodes {record : Record} {attrs : List Attribute} {object : Attribute → PackedField}
    (order : record.present.fields = attrs)
    (packed : record.bytes = packRecord record.returned gap (attrs.map object))
    (own : ∀ attr, (object attr).attr = attr) (values : Attribute → Value) (folder : Prop)
    (known : Catalogued record.present) (sized : ∀ attr ∈ attrs, Sized (object attr))
    (denotes : ∀ attr ∈ attrs, Denotes attr.format folder (object attr).bytes (values attr))
    (type : folder ↔ .common .objectType ∈ attrs ∧
      values (.common .objectType) = .objectType .directory)
    (small : record.bytes.length < UInt32.size) (distances : DistancesFit gap (attrs.map object)) :
    record.decode.outcome = .ok ⟨attrs.map fun attr => (attr, values attr)⟩ := by
  rw [decode_ok_iff known, order]
  apply fields_hold_of_values values folder (order ▸ type_before_finder _)
  · intro member
    have kind := (denotes_shape (denotes _ member)).trans (object_type_shape.mpr rfl)
    rw [folder_of_type kind, type]
    exact ⟨fun same => ⟨member, same⟩, And.right⟩
  · intro absent
    refine iff_of_false (by simp [IsFolder]) fun isFolder => ?_
    exact absent (type.mp isFolder).1
  · rintro ⟨attr, offset⟩ member
    obtain ⟨before, after, split, rfl⟩ := field_offset_split member
    have present : attr ∈ attrs := by
      rw [split]
      simp
    have all : attrs.map object = before.map object ++ object attr :: after.map object := by
      rw [split, List.map_append, List.map_cons]
    rw [packed, all] at small
    rw [all] at distances
    have sizes : ∀ packed ∈ before.map object ++ object attr :: after.map object, Sized packed := by
      rw [← all]
      intro packed member
      obtain ⟨other, held, rfl⟩ := List.mem_map.mp member
      exact sized other held
    have found := packed_source sizes small distances
    rw [packed_keys own, own, ← all, ← packed, ← body_offset_header] at found
    exact ⟨_, found, denotes attr present⟩

/-- The set of returned attributes is the only attribute whose value is a set of attributes. -/
theorem attribute_set_format {attr : Attribute} :
    attr.format = .inline .attributeSet ↔ attr = .returnedAttributes := by
  revert attr
  decide +kernel

/-- Decoding undoes packing: a record of fitting values, with or without a set of returned attributes
and with any padding, is read and decoded to exactly these values in the order of the catalogue. -/
theorem packed_record_round_trip (requested : AttributeSet) (returned : Option AttributeSet)
    (values : Attribute → Value) (gap : Bytes) (padding : Attribute → Bytes) :
    let present := returned.getD requested
    let attrs := Attribute.all.filter
      (fun attr => present.contains attr && attr != .returnedAttributes)
    let isFolder := present.contains (.common .objectType) = true ∧
      values (.common .objectType) = .objectType .directory
    let fields := attrs.map fun attr => ⟨attr, (values attr).toBytes, padding attr⟩
    Catalogued present →
    requested.contains .returnedAttributes = returned.isSome →
    (∀ attr ∈ attrs, Fits attr.format isFolder (values attr)) →
    (packRecord returned gap fields).length < UInt32.size →
    DistancesFit gap fields →
      ∃ record, Record.parse (packRecord returned gap fields) requested = .ok record ∧
        record.decode.outcome = .ok ⟨attrs.map fun attr => (attr, values attr)⟩ := by
  intro present attrs isFolder fields known asked fitting small distances
  have order : present.fields = attrs := fields_eq_filter present
  let object (attr : Attribute) : PackedField := ⟨attr, (values attr).toBytes, padding attr⟩
  let record : Record := ⟨packRecord returned gap fields, requested, returned⟩
  have packed : record.bytes = packRecord record.returned gap (attrs.map object) := rfl
  have own (attr : Attribute) : (object attr).attr = attr := rfl
  refine ⟨record, packed_parse small asked, ?_⟩
  have sized : ∀ attr ∈ attrs, Sized (object attr) := by
    intro attr member kind format
    have format : attr.format = .inline kind := format
    have fits := fitting attr member
    rw [format] at fits
    refine fits_sized fits ?_
    rintro rfl
    rw [← order, mem_fields_iff] at member
    exact member.2 (attribute_set_format.mp format)
  have denotes : ∀ attr ∈ attrs, Denotes attr.format isFolder (object attr).bytes (values attr) :=
    fun attr member => fits_denotes (fitting attr member)
  have type : isFolder ↔ .common .objectType ∈ attrs ∧
      values (.common .objectType) = .objectType .directory := by
    rw [← order, mem_fields_iff]
    exact and_congr_left fun _ => (and_iff_left (by decide)).symm
  have short : record.bytes.length < UInt32.size := small
  have present : record.present.fields = attrs := order
  exact packed_decodes present packed own values isFolder known sized denotes type short distances

/-- A folder with a name that ends in a NUL character and with an empty access control list. -/
def folderValues : Attribute → Value
  | .common .name => .text "é\x00"
  | .common .objectType => .objectType .directory
  | .common .finderInfo => .finderInfo (FinderInfo.ofBytes (List.replicate finderInfoSize 7) true)
  | _ => .blob []

theorem packed_folder_round_trip :
    let present : AttributeSet := ⟨0x404009, 0x80000000, 0, 0, 0⟩
    let requested : AttributeSet := ⟨0x80000001, 0, 0, 0, 0⟩
    let attrs : List Attribute :=
      [.common .name, .common .objectType, .common .finderInfo, .common .extendedSecurity]
    let fields := attrs.map fun attr => ⟨attr, (folderValues attr).toBytes, [1, 2, 3]⟩
    Catalogued present ∧ requested.contains .returnedAttributes = true ∧
    (∀ attr ∈ attrs, Fits attr.format True (folderValues attr)) ∧
    (packRecord (some present) [9] fields).length < UInt32.size ∧ DistancesFit [9] fields ∧
      ∃ record, Record.parse (packRecord (some present) [9] fields) requested = .ok record ∧
        record.decode.outcome = .ok ⟨attrs.map fun attr => (attr, folderValues attr)⟩ := by
  intro present requested attrs fields
  have known : Catalogued present := unknown_eq_none_iff.mp (by decide +kernel)
  have asked : requested.contains .returnedAttributes = true := by decide +kernel
  have order : Attribute.all.filter
      (fun attr => present.contains attr && attr != .returnedAttributes) = attrs := by decide +kernel
  have folder : (present.contains (.common .objectType) = true ∧
      folderValues (.common .objectType) = .objectType .directory) ↔ True :=
    iff_true_intro ⟨by decide +kernel, rfl⟩
  have fitting : ∀ attr ∈ attrs, Fits attr.format True (folderValues attr) := by
    have name : Fits (.reference .text) True (folderValues (.common .name)) := ⟨rfl, trivial⟩
    have type : Fits (.inline .objectType) True (folderValues (.common .objectType)) :=
      ⟨rfl, 2, rfl⟩
    have finder : Fits (.reference .finderInfo) True (folderValues (.common .finderInfo)) :=
      ⟨rfl, iff_of_true rfl trivial⟩
    have security : Fits (.reference .blob) True (folderValues (.common .extendedSecurity)) :=
      ⟨rfl, trivial⟩
    simp only [attrs, List.forall_mem_cons]
    exact ⟨name, type, finder, security, nofun⟩
  have small : (packRecord (some present) [9] fields).length < UInt32.size := by decide +kernel
  have distances : DistancesFit [9] fields := distances_fit (by decide +kernel)
  refine ⟨known, asked, fitting, small, distances, ?_⟩
  have trip := packed_record_round_trip requested (some present) folderValues [9] (fun _ => [1, 2, 3])
  simp only [Option.getD_some, order, folder] at trip
  exact trip known asked fitting small distances

end PackedAttributes.RecordPacking
