import PackedAttributes.Proofs.FetchProtocol
import PackedAttributes.Proofs.RecordPacking
import PackedAttributes.Proofs.RequestMasks

/-! Fetching from a kernel that answers faithfully from one object. The first call learns the length
of the whole answer, the second one has room for all of it, and what is decoded are the selected
attributes with what the object stores for them. -/
namespace PackedAttributes.StoredObjectFetch
open Bytes WordSpelling ExactReading FieldMeaning CatalogMasks RegionContent RecordPacking
open ActivityOutcomes RequestMasks RecordDecoding RecordHeader FetchProtocol

/-! ## Content -/

/-- Content as an object stores it: inline values of their size, text in UTF-8 with one NUL byte
behind it, any bytes, and both records of Finder information. -/
def ContentFits (format : FieldFormat) (content : Bytes) : Prop :=
  match format with
  | .inline kind => content.length = kind.size
  | .reference .text => ∃ text, content = Utf8.encode text ++ [0]
  | .reference .blob => True
  | .reference .finderInfo => content.length = finderInfoSize

theorem content_fits_denotes {format : FieldFormat} (folder : Prop)
    (fits : ContentFits format content) : ∃ value, Denotes format folder content value := by
  cases format with
  | inline kind =>
    obtain ⟨δ, spell, make, exact, denotes⟩ := inline_faithful kind
    obtain ⟨parts, spelled⟩ := exact.onto content fits
    exact ⟨make parts, (denotes _ _ fits).mp ⟨parts, spelled, rfl⟩⟩
  | reference kind =>
    apply (content_valid_iff kind folder).mp
    cases kind with
    | text =>
      obtain ⟨text, rfl⟩ := fits
      exact ⟨by simp, text, by simp [withoutTerminator]⟩
    | blob => trivial
    | finderInfo => exact fits

/-! ## Both calls -/

/-- The call that learns the length of an answer. -/
def probeCall (target : Target) (request : Request) : Call :=
  request.call target (request.options.insert .reportFullSize) lengthPrefixSize

/-- The call that has room for an answer of the given length. -/
def fetchCall (target : Target) (request : Request) (length : Nat) : Call :=
  request.call target request.options length

/-- An answer of the length that was announced is taken for the record that its header describes. -/
theorem accept_whole (target : Target) {request : Request} (states : StatesLength bytes)
    (header : Record.ofBytes bytes request.attributes = .ok record) {buffer : Region}
    (content : buffer.toBytes = bytes) :
    (acceptAnswer target request (UInt32.ofNat bytes.length) buffer).outcome = .ok record := by
  have start : bytes <+: buffer.toBytes := content ▸ List.prefix_rfl
  have told := leading_word_of_prefix _ (states.stated.trans start)
  rw [accept_not_grown (by rw [told]; exact UInt32.lt_irrefl _),
    of_region_of_prefix states start, header]
  rfl

/-- Two calls bring the record of a kernel that announces its length and then writes all of it. -/
theorem fetch_record_yields {kernel : Kernel σ} (target : Target) {request : Request}
    (states : StatesLength bytes)
    (first : kernel state (probeCall target request) =
      (.success (ofWord32 (UInt32.ofNat bytes.length)) count, middle))
    (second : kernel middle (fetchCall target request bytes.length) =
      (.success bytes further, after))
    (header : Record.ofBytes bytes request.attributes = .ok record) :
    Yields (fetchRecord kernel target request) state
      [probeCall target request, fetchCall target request bytes.length] record after := by
  have word : (ofWord32 (UInt32.ofNat bytes.length)).length = 4 := of_word32_length _
  have length : statedLength (ofWord32 (UInt32.ofNat bytes.length)) = bytes.length := by
    rw [stated_length_word, UInt32.toNat_ofNat_of_lt' states.small]
  have covers : 4 ≤ bytes.length := states_length_covers states
  have probed := probe_tells first (congrArg Except.ok (filled_whole word)) (by rwa [length])
  rw [length] at probed
  obtain ⟨buffer, content, calls_made, decided, left⟩ := answer_decides states.small probed second
    (congrArg Except.ok (filled_whole rfl))
  exact ⟨calls_made, decided.trans (accept_whole target states header content), left⟩

/-! ## Answers of an object -/

/-- With room for the length only, the length of the whole record is written. -/
theorem probe_written {object : StoredObject} {call : Call}
    (full : call.options.contains .reportFullSize = true)
    (room : call.bufferLength = lengthPrefixSize) :
    object.written call = ofWord32 (UInt32.ofNat (object.record call.requested).length) := by
  have none : ((object.record call.requested).take lengthPrefixSize).drop lengthPrefixSize = [] :=
    List.drop_of_length_le (List.length_take_le ..)
  simp only [StoredObject.written, full, if_true, room, none, List.append_nil]
  exact List.take_of_length_le (by simp [lengthPrefixSize])

/-- With room for the whole record, the record is written, whether its full length was asked for or
not. -/
theorem fetch_written {object : StoredObject} {call : Call}
    (states : StatesLength (object.record call.requested))
    (room : call.bufferLength = (object.record call.requested).length) :
    object.written call = object.record call.requested := by
  obtain ⟨rest, whole⟩ := states.stated
  rw [List.drop_zero] at whole
  have behind : (object.record call.requested).drop lengthPrefixSize = rest := by
    rw [← whole]
    exact List.drop_left' (of_word32_length _)
  simp only [StoredObject.written, room, List.take_length, ite_self, behind, whole]

/-- The set that the kernel reports as returned, if the request asks for it. -/
def reported (request : Request) : Option AttributeSet :=
  if request.attributes.contains .returnedAttributes then some (marked request.attributes) else none

theorem reported_is_some (request : Request) :
    (reported request).isSome = request.attributes.contains .returnedAttributes := by
  rw [reported]
  cases request.attributes.contains .returnedAttributes <;> rfl

/-- The answer of the object to a request. -/
def answer (object : StoredObject) (request : Request) : Bytes :=
  packRecord (reported request) [] (request.attributes.fields.map object.packedField)

theorem record_eq_answer (object : StoredObject) (request : Request) :
    object.record (marked request.attributes) = answer object request := by
  rw [StoredObject.record, answer, reported, marked_contains, marked_fields]

/-- Fetching from the object brings its answer in two calls. -/
theorem object_record_yields (object : StoredObject) (target : Target) {request : Request}
    (covered : ExtendedCovered request) (small : (answer object request).length < UInt32.size) :
    Yields (fetchRecord object.kernel target request) ()
      [probeCall target request, fetchCall target request (answer object request).length]
      ⟨answer object request, request.attributes, reported request⟩ () := by
  have states : StatesLength (answer object request) := packed_states_length small
  have probed : object.record (probeCall target request).requested = answer object request := by
    have on (extended : request.attributes.extended ≠ 0) := insert_keeps_on .reportFullSize
      (covered extended)
    rw [requested_eq_marked request (probeCall target request) rfl on, record_eq_answer]
  have fetched : object.record (fetchCall target request (answer object request).length).requested =
      answer object request := by
    rw [requested_eq_marked request (fetchCall target request _) rfl covered, record_eq_answer]
  have first : object.written (probeCall target request) =
      ofWord32 (UInt32.ofNat (answer object request).length) := by
    rw [probe_written (insert_switches_on _ _) rfl, probed]
  have second : object.written (fetchCall target request (answer object request).length) =
      answer object request := by
    rw [fetch_written (by rwa [fetched]) (by rw [fetched]; rfl), fetched]
  exact fetch_record_yields target states (by rw [StoredObject.kernel, first])
    (by rw [StoredObject.kernel, second]) (packed_header _ (reported_is_some request).symm)

/-! ## Decoded answers -/

theorem reported_present (request : Request) (known : Catalogued request.attributes) :
    ((reported request).getD request.attributes).fields = request.attributes.fields ∧
      Catalogued ((reported request).getD request.attributes) := by
  rw [reported]
  cases request.attributes.contains .returnedAttributes with
  | true => exact ⟨marked_fields _, marked_catalogued known⟩
  | false => exact ⟨rfl, known⟩

theorem number_of_directory {number : UInt32} :
    ObjectType.ofNumber number = .directory ↔ number = 2 := by
  constructor
  · intro directory
    unfold ObjectType.ofNumber at directory
    split at directory <;> cases directory
    exact UInt32.toNat_inj.mp ‹_›
  · rintro rfl
    rfl

/-- The content of a folder's type is the number two. -/
theorem directory_content (meaning : InlineDenotes .objectType content value) :
    value = .objectType .directory ↔ content = [2, 0, 0, 0] := by
  obtain ⟨number, rfl, rfl⟩ := meaning
  have two : [2, 0, 0, 0] = ofWord32 2 := by decide
  rw [Value.objectType.injEq, number_of_directory, two, ← word32_eq_iff (of_word32_length number),
    (word32_eq_iff (of_word32_length number) number).mpr rfl]

theorem answer_length (object : StoredObject) (request : Request)
    (sized : ∀ field ∈ request.attributes.fields.map object.packedField, Sized field) :
    (answer object request).length =
      (if request.attributes.contains .returnedAttributes then 24 else 4) +
        inlineSize request.attributes.fields +
        (PackedField.contentParts (request.attributes.fields.map object.packedField)).length := by
  have own (attr : Attribute) : (object.packedField attr).attr = attr := rfl
  rw [answer, packed_length _ _ sized, contentStart, header_size_eq, reported_is_some,
    packed_keys own]
  rfl

/-- The answer of an object is decoded to what its content stands for. -/
theorem answer_decodes (object : StoredObject) {request : Request} {attrs : List Attribute}
    (folder : Prop) (order : request.attributes.fields = attrs) (known : Catalogued request.attributes)
    (fitting : ∀ attr ∈ attrs, ContentFits attr.format (object.content attr))
    (sized : ∀ attr ∈ attrs, Sized (object.packedField attr))
    (type : folder ↔ .common .objectType ∈ attrs ∧
      object.content (.common .objectType) = [2, 0, 0, 0])
    (small : (answer object request).length < UInt32.size)
    (distances : DistancesFit [] (attrs.map object.packedField)) :
    ∃ values, (Record.decode ⟨answer object request, request.attributes, reported request⟩).outcome =
        .ok values ∧ values.entries.map Prod.fst = attrs ∧
      ∀ entry ∈ values.entries, Denotes entry.1.format folder (object.content entry.1) entry.2 := by
  have chosen (attr : Attribute) : ∃ value, attr ∈ attrs →
      Denotes attr.format folder (object.content attr) value := by
    by_cases member : attr ∈ attrs
    · obtain ⟨value, meaning⟩ := content_fits_denotes folder (fitting attr member)
      exact ⟨value, fun _ => meaning⟩
    · exact ⟨.blob [], fun present => absurd present member⟩
  obtain ⟨value, denotes⟩ := Classical.axiomOfChoice chosen
  let record : Record := ⟨answer object request, request.attributes, reported request⟩
  obtain ⟨same, catalogued⟩ := reported_present request known
  have present : record.present.fields = attrs := same.trans order
  have packed : record.bytes = packRecord record.returned [] (attrs.map object.packedField) := by
    rw [← order]
    rfl
  have tells : folder ↔ .common .objectType ∈ attrs ∧
      value (.common .objectType) = .objectType .directory := by
    rw [type]
    exact and_congr_right fun member => (directory_content (denotes _ member)).symm
  have short : record.bytes.length < UInt32.size := small
  refine ⟨_, packed_decodes present packed (fun _ => rfl) value folder catalogued sized denotes tells
    short distances, ?_, ?_⟩
  · simp [List.map_map, Function.comp_def]
  · intro entry member
    obtain ⟨attr, held, rfl⟩ := List.mem_map.mp member
    exact denotes attr held

/-- Whatever is selected, in whatever order and with whatever options, fetching from an object gives
exactly the selected attributes with the values that the object's content stands for. Two calls are
made, the second one with exactly the room that the answer needs. -/
theorem stored_object_fetched (object : StoredObject) (target : Target) (selection : Selection)
    (options : Options) :
    let attrs := Attribute.all.filter
      (fun attr => selection.contains attr && attr != .returnedAttributes)
    let fields := attrs.map object.packedField
    let size := (if selection.contains .returnedAttributes then 24 else 4) + inlineSize attrs +
      (PackedField.contentParts fields).length
    let isFolder := selection.contains (.common .objectType) = true ∧
      object.content (.common .objectType) = [2, 0, 0, 0]
    selection.contains (.file .dataExtents) = false →
    selection.contains (.file .resourceExtents) = false →
    (∀ attr ∈ attrs, ContentFits attr.format (object.content attr)) →
    size < UInt32.size → DistancesFit [] fields →
      ∃ request values, (Request.build selection options).outcome = .ok request ∧
        (fetchAttributes object.kernel target selection options ()).calls =
          [probeCall target request, fetchCall target request size] ∧
        (fetchAttributes object.kernel target selection options ()).traced.outcome = .ok values ∧
        values.entries.map Prod.fst = attrs ∧
        ∀ entry ∈ values.entries,
          Denotes entry.1.format isFolder (object.content entry.1) entry.2 := by
  intro attrs fields size isFolder data resource fitting small distances
  have chosen (attr : Attribute) :
      selection.contains attr = true ↔ attr ∈ selection.attributes := by
    rw [Selection.contains, List.contains_iff_mem]
  have requestable : ∀ attr ∈ selection.attributes, attr.isRequestable = true := by
    intro attr member
    rw [requestable_iff]
    constructor
    · rintro rfl
      rw [(chosen _).mpr member] at data
      cases data
    · rintro rfl
      rw [(chosen _).mpr member] at resource
      cases resource
  obtain ⟨request, built, holds, covered⟩ := build_holds options requestable
  have contained (attr : Attribute) :
      request.attributes.contains attr = selection.contains attr := by
    rw [Bool.eq_iff_iff, holds_contains holds, chosen]
  have order : request.attributes.fields = attrs := by
    simp only [fields_eq_filter, contained, attrs]
  have sized : ∀ attr ∈ attrs, Sized (object.packedField attr) := by
    intro attr member kind format
    have format : attr.format = .inline kind := format
    have fits := fitting attr member
    rwa [format] at fits
  have type : isFolder ↔ .common .objectType ∈ attrs ∧
      object.content (.common .objectType) = [2, 0, 0, 0] := by
    rw [← order, mem_fields_iff, contained]
    exact and_congr_left fun _ => (and_iff_left (by decide)).symm
  have length : (answer object request).length = size := by
    rw [answer_length object request (by rw [order]; exact List.forall_mem_map.mpr sized), order,
      contained]
  have short : (answer object request).length < UInt32.size := by rwa [length]
  have fetched := object_record_yields object target covered short
  rw [length] at fetched
  obtain ⟨values, decoded, keys, stored⟩ := answer_decodes object isFolder order
    (holds_catalogued holds) fitting sized type short distances
  have whole : Yields (fetchAttributes object.kernel target selection options) () _ values () :=
    bind_yields (map_error_yields _ (quiet_yields built ()))
      (bind_yields fetched (map_error_yields _ (quiet_yields decoded ())))
  exact ⟨request, values, built, whole.calls_made, whole.value_given, keys, stored⟩

/-- Content for a field of a folder. -/
def folderContent : FieldFormat → Bytes
  | .inline .objectType => [2, 0, 0, 0]
  | .inline kind => List.replicate kind.size 7
  | .reference .text => Utf8.encode "é" ++ [0]
  | .reference .blob => []
  | .reference .finderInfo => List.replicate finderInfoSize 1

/-- A folder with the same content for all attributes of a format. -/
def uniformFolder : StoredObject where
  content attr := folderContent attr.format

theorem folder_content_fits (format : FieldFormat) : ContentFits format (folderContent format) := by
  cases format with
  | inline kind => cases kind <;> rfl
  | reference kind =>
    cases kind with
    | text => exact ⟨"é", rfl⟩
    | blob => trivial
    | finderInfo => rfl

theorem uniform_folder_fetched :
    let selection : Selection := ⟨[.extended .realDeviceId, .common .finderInfo, .volume .name,
      .common .objectType, .common .returnedAttributes, .common .extendedSecurity]⟩
    let attrs : List Attribute := [.common .objectType, .common .finderInfo,
      .common .extendedSecurity, .volume .name, .extended .realDeviceId]
    let fields := attrs.map uniformFolder.packedField
    selection.contains (.file .dataExtents) = false ∧
    selection.contains (.file .resourceExtents) = false ∧
    (∀ attr ∈ attrs, ContentFits attr.format (uniformFolder.content attr)) ∧
    24 + inlineSize attrs + (PackedField.contentParts fields).length < UInt32.size ∧
    DistancesFit [] fields ∧
      ∃ values, (fetchAttributes uniformFolder.kernel (.descriptor 3) selection .none ()).traced.outcome =
        .ok values ∧ values.entries.map Prod.fst = attrs := by
  intro selection attrs fields
  have data : selection.contains (.file .dataExtents) = false := by decide
  have resource : selection.contains (.file .resourceExtents) = false := by decide
  have order : Attribute.all.filter
      (fun attr => selection.contains attr && attr != .returnedAttributes) = attrs := by
    decide +kernel
  have returned : selection.contains .returnedAttributes = true := by decide
  have fitting : ∀ attr ∈ attrs, ContentFits attr.format (uniformFolder.content attr) :=
    fun attr _ => folder_content_fits attr.format
  have small : 24 + inlineSize attrs + (PackedField.contentParts fields).length < UInt32.size := by
    decide +kernel
  have distances : DistancesFit [] fields := distances_fit (by decide +kernel)
  have fetched := stored_object_fetched uniformFolder (.descriptor 3) selection .none data resource
  simp only [order, returned, if_true] at fetched
  obtain ⟨_, values, _, _, outcome, keys, _⟩ := fetched fitting small distances
  exact ⟨data, resource, fitting, small, distances, values, outcome, keys⟩

end PackedAttributes.StoredObjectFetch
