import PackedAttributes.Proofs.ActivityOutcomes
import PackedAttributes.Proofs.FinderInfoSpelling
import PackedAttributes.Proofs.Utf8RoundTrip
import PackedAttributes.Record

/-! What the bytes of a field mean, said through the writers of values instead of their readers: the
bytes denote the value that is written as them. Reading a field gives exactly the value that its
bytes denote, and each field is as wide as the catalogue says. -/
namespace PackedAttributes.FieldMeaning
open Bytes WordSpelling ExactReading FinderInfoSpelling Utf8RoundTrip ActivityOutcomes

/-! ## Inline values -/

/-- The value that an inline field stands for. An access mask keeps no bits of the file type, and a
number that names an object type stands for that type. -/
def InlineDenotes (format : InlineFormat) (bytes : Bytes) (value : Value) : Prop :=
  match format with
  | .accessMask => ∃ word, ofWord32 word = bytes ∧ value = .accessMask (word &&& ~~~fileTypeBits)
  | .objectType => ∃ word, ofWord32 word = bytes ∧ value = .objectType (ObjectType.ofNumber word)
  | _ => value.shape = (FieldFormat.inline format).shape ∧ value.toBytes = bytes

/-- A value that is one part of the bytes and nothing else. -/
theorem wrapped_exact {reader : Reader α} (wrap : α → Value)
    (exact : Exact reader size spell make) :
    Exact (do return wrap (← reader)) size spell (fun parts => wrap (make parts)) := by
  have steps : Exact (do return wrap (← reader)) (size + 0) _ _ :=
    exact_bind exact (fun parts => exact_pure (wrap (make parts)))
  exact exact_congr steps Prod.fst (fun parts => ⟨(parts, ()), rfl⟩) (fun parts => by simp)
    (fun _ => rfl)

theorem attribute_set_exact : Exact AttributeSet.reader attributeSetSize AttributeSet.toBytes id := by
  have steps : Exact AttributeSet.reader (4 + (4 + (4 + (4 + (4 + 0))))) _ _ :=
    exact_bind word32_exact fun common => exact_bind word32_exact fun volume =>
    exact_bind word32_exact fun directory => exact_bind word32_exact fun file =>
    exact_bind word32_exact fun extended =>
      exact_pure (⟨common, volume, directory, file, extended⟩ : AttributeSet)
  exact exact_congr steps
    (fun ⟨common, volume, directory, file, extended, _⟩ => ⟨common, volume, directory, file, extended⟩)
    (fun set => ⟨⟨set.common, set.volume, set.directory, set.file, set.extended, ()⟩, rfl⟩)
    (fun _ => by simp [AttributeSet.toBytes, AttributeSet.masks, Category.all, AttributeSet.mask])
    (fun _ => rfl)

theorem capability_words_exact : Exact CapabilityWords.reader 16 CapabilityWords.toBytes id := by
  have steps : Exact CapabilityWords.reader (4 + (4 + (4 + (4 + 0)))) _ _ :=
    exact_bind word32_exact fun format => exact_bind word32_exact fun interfaces =>
    exact_bind word32_exact fun first => exact_bind word32_exact fun second =>
      exact_pure (⟨format, interfaces, first, second⟩ : CapabilityWords)
  exact exact_congr steps
    (fun ⟨format, interfaces, first, second, _⟩ => ⟨format, interfaces, first, second⟩)
    (fun words => ⟨⟨words.format, words.interfaces, words.reserved₁, words.reserved₂, ()⟩, rfl⟩)
    (fun _ => by simp [CapabilityWords.toBytes, CapabilityWords.toList]) (fun _ => rfl)

theorem volume_capabilities_exact :
    Exact VolumeCapabilities.reader 32 VolumeCapabilities.toBytes id := by
  have steps : Exact VolumeCapabilities.reader (16 + (16 + 0)) _ _ :=
    exact_bind capability_words_exact fun capabilities => exact_bind capability_words_exact fun valid =>
      exact_pure (⟨capabilities, valid⟩ : VolumeCapabilities)
  exact exact_congr steps (fun ⟨capabilities, valid, _⟩ => ⟨capabilities, valid⟩)
    (fun volume => ⟨⟨volume.capabilities, volume.valid, ()⟩, rfl⟩)
    (fun _ => by simp [VolumeCapabilities.toBytes]) (fun _ => rfl)

theorem volume_support_exact :
    Exact VolumeSupport.reader (2 * attributeSetSize) VolumeSupport.toBytes id := by
  have steps : Exact VolumeSupport.reader (attributeSetSize + (attributeSetSize + 0)) _ _ :=
    exact_bind attribute_set_exact fun valid => exact_bind attribute_set_exact fun native =>
      exact_pure (⟨valid, native⟩ : VolumeSupport)
  exact exact_congr steps (fun ⟨valid, native, _⟩ => ⟨valid, native⟩)
    (fun volume => ⟨⟨volume.valid, volume.native, ()⟩, rfl⟩)
    (fun _ => by simp [VolumeSupport.toBytes]) (fun _ => rfl)

theorem extent_exact : Exact Extent.reader 8 Extent.toBytes id := by
  have steps : Exact Extent.reader (4 + (4 + 0)) _ _ :=
    exact_bind word32_exact fun start => exact_bind word32_exact fun count =>
      exact_pure (⟨start, count⟩ : Extent)
  exact exact_congr steps (fun ⟨start, count, _⟩ => ⟨start, count⟩)
    (fun extent => ⟨⟨extent.startBlock, extent.blockCount, ()⟩, rfl⟩)
    (fun _ => by simp [Extent.toBytes]) (fun _ => rfl)

theorem runs_exact (count : Nat) : Exact (Extents.readRuns count) (count * 8)
    (fun runs => runs.val.flatMap Extent.toBytes) id := by
  induction count with
  | zero =>
    exact exact_congr (exact_pure _) (fun _ => ⟨[], rfl⟩)
      (fun runs => ⟨(), by simp [Subtype.ext_iff, List.eq_nil_of_length_eq_zero runs.property]⟩)
      (fun _ => rfl) (fun _ => rfl)
  | succ count ih =>
    have size : (count + 1) * 8 = 8 + (count * 8 + 0) := by omega
    have steps : Exact (Extents.readRuns (count + 1)) (8 + (count * 8 + 0)) _ _ :=
      exact_bind extent_exact fun run => exact_bind ih fun rest =>
        exact_pure (⟨run :: rest.val, by simp [rest.property]⟩ :
          { runs : List Extent // runs.length = count + 1 })
    rw [size]
    refine exact_congr steps
      (fun ⟨run, rest, _⟩ => ⟨run :: rest.val, by simp [rest.property]⟩) ?_
      (fun _ => by simp) (fun _ => rfl)
    rintro ⟨runs, length⟩
    cases runs with
    | nil => cases length
    | cons run rest => exact ⟨⟨run, ⟨rest, by simpa using length⟩, ()⟩, rfl⟩

theorem extents_exact : Exact Extents.reader 64 Extents.toBytes id := by
  have steps : Exact Extents.reader (8 * 8 + 0) _ _ :=
    exact_bind (runs_exact 8) fun runs => exact_pure (⟨runs.val, runs.property⟩ : Extents)
  exact exact_congr steps (fun ⟨runs, _⟩ => ⟨runs.val, runs.property⟩)
    (fun extents => ⟨⟨⟨extents.runs, extents.length_eq⟩, ()⟩, rfl⟩)
    (fun _ => by simp [Extents.toBytes]) (fun _ => rfl)

/-- Every number of an object type is kept, also one without a known meaning. -/
theorem number_of_number (number : UInt32) : (ObjectType.ofNumber number).number = number := by
  unfold ObjectType.ofNumber
  split
  all_goals first | rfl | exact (UInt32.toNat_inj.mp ‹_›).symm

theorem directory_iff {objectType : Option ObjectType} :
    objectType.any ObjectType.isDirectory = true ↔ objectType = some .directory := by
  cases objectType <;> simp [ObjectType.isDirectory]

/-- A reader of one format gives exactly the values that blocks of its size denote. -/
def Faithful (format : InlineFormat) : Prop :=
  ∃ (δ : Type) (spell : δ → Bytes) (make : δ → Value), Exact format.reader format.size spell make ∧
    ∀ block value, block.length = format.size →
      ((∃ parts, spell parts = block ∧ value = make parts) ↔ InlineDenotes format block value)

/-- Where a format is one kind of value with all its spellings, its reader is faithful. -/
private theorem kind_faithful {wrap : δ → Value}
    (exact : Exact (InlineFormat.reader format) format.size spell wrap)
    (ordinary : ∀ block value, InlineDenotes format block value ↔
      value.shape = (FieldFormat.inline format).shape ∧ value.toBytes = block)
    (kind : ∀ value, value.shape = (FieldFormat.inline format).shape ↔ ∃ parts, value = wrap parts)
    (writes : ∀ parts, (wrap parts).toBytes = spell parts) : Faithful format := by
  refine ⟨δ, spell, wrap, exact, fun block value _ => ?_⟩
  rw [ordinary, kind]
  constructor
  · rintro ⟨parts, rfl, rfl⟩
    exact ⟨⟨parts, rfl⟩, writes parts⟩
  · rintro ⟨⟨parts, rfl⟩, rfl⟩
    exact ⟨parts, (writes parts).symm, rfl⟩

/-- Every format of inline values is read faithfully. -/
theorem inline_faithful (format : InlineFormat) : Faithful format := by
  cases format with
  | word32 =>
    exact kind_faithful (wrapped_exact .word32 word32_exact) (fun _ _ => Iff.rfl)
      (fun value => by cases value <;> simp [Value.shape, FieldFormat.shape]) (fun _ => rfl)
  | word64 =>
    exact kind_faithful (wrapped_exact .word64 word64_exact) (fun _ _ => Iff.rfl)
      (fun value => by cases value <;> simp [Value.shape, FieldFormat.shape]) (fun _ => rfl)
  | offset =>
    exact kind_faithful (wrapped_exact .offset int64_exact) (fun _ _ => Iff.rfl)
      (fun value => by cases value <;> simp [Value.shape, FieldFormat.shape]) (fun _ => rfl)
  | device =>
    exact kind_faithful (wrapped_exact .device int32_exact) (fun _ _ => Iff.rfl)
      (fun value => by cases value <;> simp [Value.shape, FieldFormat.shape]) (fun _ => rfl)
  | filesystemId =>
    have steps : Exact (InlineFormat.reader .filesystemId) (4 + (4 + 0)) _ _ :=
      exact_bind int32_exact fun first => exact_bind int32_exact fun second =>
        exact_pure (Value.filesystemId ⟨first, second⟩)
    exact kind_faithful steps (fun _ _ => Iff.rfl)
      (fun value => by
        cases value <;> simp [Value.shape, FieldFormat.shape]
        exact ⟨_, _, rfl⟩)
      (fun _ => by simp [Value.toBytes])
  | objectType =>
    exact ⟨_, _, _, wrapped_exact (fun word => .objectType (ObjectType.ofNumber word)) word32_exact,
      fun _ _ _ => Iff.rfl⟩
  | objectId =>
    have steps : Exact (InlineFormat.reader .objectId) (4 + (4 + 0)) _ _ :=
      exact_bind word32_exact fun number => exact_bind word32_exact fun generation =>
        exact_pure (Value.objectId ⟨number, generation⟩)
    exact kind_faithful steps (fun _ _ => Iff.rfl)
      (fun value => by
        cases value <;> simp [Value.shape, FieldFormat.shape]
        exact ⟨_, _, rfl⟩)
      (fun _ => by simp [Value.toBytes])
  | timespec =>
    have steps : Exact (InlineFormat.reader .timespec) (8 + (8 + 0)) _ _ :=
      exact_bind int64_exact fun seconds => exact_bind int64_exact fun nanoseconds =>
        exact_pure (Value.timespec ⟨seconds, nanoseconds⟩)
    exact kind_faithful steps (fun _ _ => Iff.rfl)
      (fun value => by
        cases value <;> simp [Value.shape, FieldFormat.shape]
        exact ⟨_, _, rfl⟩)
      (fun _ => by simp [Value.toBytes])
  | guid =>
    exact kind_faithful
      (wrapped_exact (fun block : { taken : Bytes // taken.length = 16 } =>
        .guid ⟨block.val, block.property⟩) (block_exact (by decide)))
      (fun _ _ => Iff.rfl)
      (fun value => by
        cases value <;> simp [Value.shape, FieldFormat.shape]
        exact ⟨_, Guid.length_eq _, rfl⟩)
      (fun _ => rfl)
  | accessMask =>
    exact ⟨_, _, _, wrapped_exact (fun word => .accessMask (word &&& ~~~fileTypeBits)) word32_exact,
      fun _ _ _ => Iff.rfl⟩
  | volumeCapabilities =>
    exact kind_faithful (wrapped_exact .volumeCapabilities volume_capabilities_exact)
      (fun _ _ => Iff.rfl)
      (fun value => by cases value <;> simp [Value.shape, FieldFormat.shape]) (fun _ => rfl)
  | volumeAttributes =>
    exact kind_faithful (wrapped_exact .volumeSupport volume_support_exact) (fun _ _ => Iff.rfl)
      (fun value => by cases value <;> simp [Value.shape, FieldFormat.shape]) (fun _ => rfl)
  | extents =>
    exact kind_faithful (wrapped_exact .extents extents_exact) (fun _ _ => Iff.rfl)
      (fun value => by cases value <;> simp [Value.shape, FieldFormat.shape]) (fun _ => rfl)
  | attributeSet =>
    refine ⟨_, _, _, wrapped_exact .blob (take_exact (by decide)), fun block value length => ?_⟩
    constructor
    · rintro ⟨parts, rfl, rfl⟩
      exact ⟨rfl, rfl⟩
    · rintro ⟨kind, rfl⟩
      cases value <;> simp [Value.shape, FieldFormat.shape] at kind
      exact ⟨⟨_, length⟩, rfl, rfl⟩

/-- Where an inline field can be read and what is read from it: the value that its bytes denote. -/
theorem inline_ok_iff (format : InlineFormat) :
    format.reader bytes position = .ok (value, after) ↔
      ∃ block, block.length = format.size ∧ LiesAt bytes position block ∧
        InlineDenotes format block value ∧ after = position + format.size := by
  obtain ⟨δ, spell, make, exact, denotes⟩ := inline_faithful format
  rw [exact.reads]
  constructor
  · rintro ⟨parts, lies, rfl, rfl⟩
    exact ⟨_, exact.width parts, lies, (denotes _ _ (exact.width parts)).mp ⟨parts, rfl, rfl⟩, rfl⟩
  · rintro ⟨block, length, lies, meaning, rfl⟩
    obtain ⟨parts, rfl, rfl⟩ := (denotes _ _ length).mpr meaning
    exact ⟨parts, lies, rfl, rfl⟩

theorem inline_succeeds (format : InlineFormat) (room : position + format.size ≤ bytes.length) :
    ∃ value, format.reader bytes position = .ok (value, position + format.size) := by
  obtain ⟨δ, spell, make, exact, _⟩ := inline_faithful format
  exact exact_succeeds exact room

/-! ## Content -/

/-- Content without the one NUL byte that may end it. -/
def withoutTerminator (content : Bytes) : Bytes :=
  if content.getLast? = some 0 then content.dropLast else content

/-- Content that has a value: a text needs a byte and well-formed UTF-8 before its terminator, and
Finder information needs both of its records. -/
def ContentValid (format : ContentFormat) (content : Bytes) : Prop :=
  match format with
  | .text => content ≠ [] ∧ ∃ text, Utf8.encode text = withoutTerminator content
  | .blob => True
  | .finderInfo => content.length = finderInfoSize

/-- The value that content stands for. Only Finder information depends on whether the object is a
folder. -/
def ContentDenotes (format : ContentFormat) (folder : Prop) (content : Bytes) (value : Value) :
    Prop :=
  match format with
  | .text => content ≠ [] ∧
    ∃ text, Utf8.encode text = withoutTerminator content ∧ value = .text text
  | .blob => value = .blob content
  | .finderInfo =>
    ∃ info, info.toBytes = content ∧ (info.isFolder = true ↔ folder) ∧ value = .finderInfo info

theorem text_of_content_ok_iff :
    textOfContent content = .ok text ↔
      content ≠ [] ∧ Utf8.encode text = withoutTerminator content := by
  rw [textOfContent, withoutTerminator]
  cases last : content.getLast? with
  | none => simp [List.getLast?_eq_none_iff.mp last]
  | some byte =>
    have nonempty : content ≠ [] := by
      rintro rfl
      cases last
    simp only [nonempty, ne_eq, not_false_eq_true, true_and, Option.some.injEq]
    rw [← decode_ok_iff, except_map_error_ok_iff]

theorem content_ok_iff (format : ContentFormat) :
    format.parse content isFolder = .ok value ↔
      ContentDenotes format (isFolder = true) content value := by
  cases format with
  | text =>
    simp only [ContentFormat.parse, ContentDenotes, ← text_of_content_ok_iff, ← exists_and_left,
      ← and_assoc]
    cases textOfContent content <;> simp [Except.map, eq_comm]
  | blob =>
    simp [ContentFormat.parse, ContentDenotes, eq_comm]
  | finderInfo =>
    simp only [ContentFormat.parse, ContentDenotes, ← Bool.eq_iff_iff, ← and_assoc,
      ← parse_finder_info_iff]
    cases FinderInfo.parse content isFolder <;> simp [Except.map, eq_comm]

theorem content_valid_iff (format : ContentFormat) (folder : Prop) :
    ContentValid format content ↔ ∃ value, ContentDenotes format folder content value := by
  cases format with
  | text =>
    constructor
    · rintro ⟨nonempty, text, encoded⟩
      exact ⟨_, nonempty, text, encoded, rfl⟩
    · rintro ⟨_, nonempty, text, encoded, _⟩
      exact ⟨nonempty, text, encoded⟩
  | blob => exact iff_of_true trivial ⟨_, rfl⟩
  | finderInfo =>
    classical
    constructor
    · intro length
      have held := (finder_info_iff (decide folder) length).mp rfl
      exact ⟨_, _, held.1, by rw [held.2, decide_eq_true_iff], rfl⟩
    · rintro ⟨_, info, rfl, _, _⟩
      exact finder_info_length info

/-! ## Fields -/

/-- The bytes from which a field takes its value: the inline field itself, or the range that its
descriptor points to, counted from the descriptor. There are none if the field or the range does not
lie inside the record. -/
def source? (format : FieldFormat) (bytes : Bytes) (position : Nat) : Option Bytes :=
  if position + format.inlineSize ≤ bytes.length then
    match format with
    | .inline format => some (bytes.slice position format.size)
    | .reference _ =>
      let descriptor := Reference.ofBytes position (bytes.slice position descriptorSize)
      if 0 ≤ descriptor.start ∧ descriptor.start + descriptor.length.toNat ≤ bytes.length then
        some (bytes.slice descriptor.start.toNat descriptor.length.toNat)
      else none
  else none

/-- Source bytes that have a value. Inline fields always have one. -/
def Valid (format : FieldFormat) (source : Bytes) : Prop :=
  match format with
  | .inline _ => True
  | .reference format => ContentValid format source

/-- The value that the source bytes of a field stand for. -/
def Denotes (format : FieldFormat) (folder : Prop) (source : Bytes) (value : Value) : Prop :=
  match format with
  | .inline format => InlineDenotes format source value
  | .reference format => ContentDenotes format folder source value

theorem inline_size_pos (format : InlineFormat) : 0 < format.size := by
  cases format <;> decide

theorem source_none (format : FieldFormat) (outside : ¬position + format.inlineSize ≤ bytes.length) :
    source? format bytes position = none :=
  if_neg outside

theorem inline_source (format : InlineFormat) (room : position + format.size ≤ bytes.length) :
    source? (.inline format) bytes position = some (bytes.slice position format.size) :=
  if_pos room

/-- The descriptor at a position, whatever it points to. -/
def descriptorAt (bytes : Bytes) (position : Nat) : Reference :=
  Reference.ofBytes position (bytes.slice position descriptorSize)

theorem reference_source (format : ContentFormat)
    (room : position + descriptorSize ≤ bytes.length) :
    source? (.reference format) bytes position =
      ((descriptorAt bytes position).content bytes).toOption := by
  rw [source?, FieldFormat.inlineSize, if_pos room, Reference.content, descriptorAt]
  simp only
  split <;> rfl

theorem reference_reader (room : position + descriptorSize ≤ bytes.length) :
    Reference.reader bytes position =
      .ok (descriptorAt bytes position, position + descriptorSize) := by
  simp only [Reference.reader, Reader.position, Reader.take, bind, pure, if_pos room, descriptorAt]

theorem reference_reader_truncated (outside : ¬position + descriptorSize ≤ bytes.length) :
    Reference.reader bytes position =
      .error (.truncated position descriptorSize (bytes.length - position)) := by
  simp only [Reference.reader, Reader.position, Reader.take, bind, if_neg outside]

private theorem inline_field_ok_iff (format : InlineFormat) :
    format.reader bytes position = .ok (value, after) ↔
      after = position + format.size ∧ ∃ source,
        source? (.inline format) bytes position = some source ∧ InlineDenotes format source value := by
  rw [inline_ok_iff]
  constructor
  · rintro ⟨block, length, lies, meaning, rfl⟩
    have room := lies_at_room lies (length ▸ inline_size_pos format)
    have same := lies_at_iff_slice.mp lies
    rw [length] at room same
    exact ⟨rfl, _, inline_source format room, same ▸ meaning⟩
  · rintro ⟨rfl, source, found, meaning⟩
    by_cases room : position + format.size ≤ bytes.length
    · rw [inline_source format room] at found
      cases found
      exact ⟨_, slice_length room, slice_lies_at, meaning, rfl⟩
    · rw [source_none (.inline format) room] at found
      cases found

private theorem reference_field_ok_iff (format : ContentFormat) :
    (FieldFormat.reference format).reader objectType bytes position = .ok (value, after) ↔
      after = position + descriptorSize ∧ ∃ source,
        source? (.reference format) bytes position = some source ∧
          ContentDenotes format (objectType.any ObjectType.isDirectory = true) source value := by
  by_cases room : position + descriptorSize ≤ bytes.length
  · simp only [FieldFormat.reader, reference_reader room, reference_source format room,
      Reference.resolve, bind, Except.bind, ← content_ok_iff]
    cases (descriptorAt bytes position).content bytes with
    | error fault => simp [Except.map, Except.toOption]
    | ok content =>
      simp only [Except.toOption, Option.some.injEq, exists_eq_left']
      cases format.parse content (objectType.any ObjectType.isDirectory) with
      | error fault => simp [Except.map]
      | ok found =>
        simp only [Except.map, Except.ok.injEq, Prod.mk.injEq]
        exact ⟨fun held => ⟨held.2.symm, held.1⟩, fun held => ⟨held.2, held.1.symm⟩⟩
  · simp only [FieldFormat.reader, reference_reader_truncated room,
      source_none (.reference format) room]
    simp

/-- Reading a field gives exactly the value that its source bytes stand for, and reading stops
behind the inline part, wherever the content lies. -/
theorem field_ok_iff (format : FieldFormat) :
    format.reader objectType bytes position = .ok (value, after) ↔
      after = position + format.inlineSize ∧ ∃ source,
        source? format bytes position = some source ∧
          Denotes format (objectType.any ObjectType.isDirectory = true) source value := by
  cases format with
  | inline format => exact inline_field_ok_iff format
  | reference format => exact reference_field_ok_iff format

/-- A field has a value exactly when its source bytes are there and valid. -/
theorem valid_iff (format : FieldFormat) (folder : Prop)
    (found : source? format bytes position = some source) :
    Valid format source ↔ ∃ value, Denotes format folder source value := by
  cases format with
  | inline format =>
    by_cases room : position + format.size ≤ bytes.length
    · obtain ⟨value, read⟩ := inline_succeeds format room
      obtain ⟨_, _, again, meaning⟩ := (inline_field_ok_iff format).mp read
      rw [found] at again
      cases again
      exact iff_of_true trivial ⟨value, meaning⟩
    · rw [source_none (.inline format) room] at found
      cases found
  | reference format => exact content_valid_iff format folder

/-- Nothing but Finder information depends on whether the object is a folder. -/
theorem denotes_without_folder {format : FieldFormat}
    (other : format ≠ .reference .finderInfo) :
    Denotes format folder source value ↔ Denotes format otherFolder source value := by
  cases format with
  | inline format => rfl
  | reference format =>
    cases format with
    | text => rfl
    | blob => rfl
    | finderInfo => exact absurd rfl other

end PackedAttributes.FieldMeaning
