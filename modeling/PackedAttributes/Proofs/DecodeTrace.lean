import Mathlib.Data.List.Forall2
import PackedAttributes.Proofs.RecordDecoding
import PackedAttributes.Proofs.RecordHeader

/-! What is reported while a record is decoded. Every field that is decoded is reported at once, with its
attribute and its position, and the record is reported when it was decoded to its end. So the reports
of a decoding that fails end right in front of the field that it fails for. -/
namespace PackedAttributes.DecodeTrace
open ActivityOutcomes CatalogMasks FieldMeaning RecordDecoding RecordHeader

/-! ## Reports of fields -/

/-- The second one of two activities reports something if the first one succeeds. -/
theorem bind_events_of_ok {first : Traced ε α} (given : first.outcome = .ok value)
    (next : α → Traced ε β) : (first >>= next).events = first.events ++ (next value).events := by
  obtain ⟨events, outcome⟩ := first
  cases given
  rfl

theorem bind_events_of_error {first : Traced ε α} (failed : first.outcome = .error error)
    (next : α → Traced ε β) : (first >>= next).events = first.events := by
  obtain ⟨events, outcome⟩ := first
  cases failed
  rfl

/-- The event of a field that was decoded. -/
def fieldEvent (field : Attribute × Nat) : Event :=
  .fieldDecoded field.1 field.2

/-- How a decoding ends with fields that are left: either none is left, or the first one of them is
the one that the decoding fails for. -/
inductive Ends {α : Type} : List (Attribute × Nat) → Except Failure α → Prop where
  | complete (result : α) : Ends [] (.ok result)
  | stopped (attr : Attribute) (offset : Nat) (rest : List (Attribute × Nat)) (fault : Fault) :
      Ends ((attr, offset) :: rest) (.error (.undecodable attr fault))

theorem ends_map {outcome : Except Failure α} (ends : Ends left outcome) (change : α → β) :
    Ends left (outcome.map change) := by
  cases ends with
  | complete result => exact .complete (change result)
  | stopped attr offset rest fault => exact .stopped attr offset rest fault

/-- Decoding a field that can be read reports it before all that follows. -/
theorem decode_fields_cons_events {attr : Attribute} (rest : List Attribute)
    (read : attr.format.reader objectType bytes position = .ok (value, after)) :
    (Record.decodeFields bytes (attr :: rest) objectType position).events =
      fieldEvent (attr, position) ::
        (Record.decodeFields bytes rest (value.asObjectType?.or objectType) after).events := by
  rw [Record.decodeFields, read]
  change (Traced.report _ >>= _).events = _
  rw [bind_events_of_ok rfl]
  cases outcome : (Record.decodeFields bytes rest (value.asObjectType?.or objectType) after).outcome with
  | error failure =>
    rw [bind_events_of_error outcome]
    rfl
  | ok found =>
    rw [bind_events_of_ok outcome]
    exact congrArg (_ :: ·) (List.append_nil _)

/-- The fields that are reported are those in front of where the decoding ends. -/
theorem decode_fields_reports (bytes : Bytes) (attrs : List Attribute)
    (objectType : Option ObjectType) (position : Nat) :
    ∃ before left, fieldOffsets position attrs = before ++ left ∧
      (Record.decodeFields bytes attrs objectType position).events = before.map fieldEvent ∧
      Ends left (Record.decodeFields bytes attrs objectType position).outcome := by
  induction attrs generalizing objectType position with
  | nil => exact ⟨[], [], rfl, rfl, .complete _⟩
  | cons attr rest ih =>
    have outcome : (Record.decodeFields bytes (attr :: rest) objectType position).outcome = _ :=
      decode_fields_cons attr rest
    cases read : attr.format.reader objectType bytes position with
    | error fault =>
      rw [read] at outcome
      refine ⟨[], _, rfl, ?_, outcome ▸ .stopped attr position _ fault⟩
      rw [Record.decodeFields, read]
      rfl
    | ok found =>
      obtain ⟨value, after⟩ := found
      obtain ⟨rfl, _⟩ := field_reader_ok_iff.mp read
      rw [read] at outcome
      obtain ⟨before, left, places, reports, ends⟩ :=
        ih (value.asObjectType?.or objectType) (position + attr.format.inlineSize)
      refine ⟨(attr, position) :: before, left, ?_, ?_, outcome ▸ ends_map ends _⟩
      · rw [fieldOffsets, places, List.cons_append]
      · rw [decode_fields_cons_events rest read, reports, List.map_cons]

/-! ## Positions -/

theorem field_size_pos (format : FieldFormat) : 0 < format.inlineSize := by
  cases format with
  | inline format => exact inline_size_pos format
  | reference format => exact (by decide : 0 < descriptorSize)

theorem offset_from (member : field ∈ fieldOffsets position attrs) : position ≤ field.2 := by
  induction attrs generalizing position with
  | nil => cases member
  | cons attr rest ih =>
    rcases List.mem_cons.mp member with rfl | later
    · exact Nat.le_refl _
    · exact Nat.le_of_add_right_le (ih later)

/-- Every field takes some bytes, so the next one lies behind it. -/
theorem offsets_increase (position : Nat) (attrs : List Attribute) :
    ((fieldOffsets position attrs).map Prod.snd).Pairwise (· < ·) := by
  induction attrs generalizing position with
  | nil => exact .nil
  | cons attr rest ih =>
    refine List.pairwise_cons.mpr ⟨?_, ih _⟩
    intro offset member
    obtain ⟨field, later, rfl⟩ := List.mem_map.mp member
    have size := field_size_pos attr.format
    have behind := offset_from later
    omega

theorem held_inside {attr : Attribute} (held : HoldsValue bytes folder (attr, position) value) :
    position + attr.format.inlineSize ≤ bytes.length := by
  obtain ⟨source, found, _⟩ := held
  apply Classical.byContradiction
  intro outside
  cases found.symm.trans (source_none attr.format outside)

theorem fields_inside {attrs : List Attribute} (begins : position ≤ bytes.length)
    (holds : FieldsHold bytes attrs objectType position entries) :
    position + inlineSize attrs ≤ bytes.length := by
  induction attrs generalizing objectType position entries with
  | nil => exact begins
  | cons attr rest ih =>
    obtain ⟨_, _, _, own, further⟩ := holds
    have inside := ih (held_inside own) further
    rw [inlineSize]
    omega

/-! ## Records -/

theorem decode_ok_events {record : Record} (decoded : record.decode.outcome = .ok values) :
    record.decode.events = (fieldOffsets record.bodyOffset record.present.fields).map fieldEvent ++
      [.recordDecoded values.size (record.bodyOffset + inlineSize record.present.fields) record.size] := by
  have known := decoded_catalogued decoded
  have fields := (decode_fields_ok_iff record.present.fields).mpr
    ⟨(decode_ok_iff known).mp decoded, rfl⟩
  obtain ⟨before, left, places, reports, ends⟩ :=
    decode_fields_reports record.bytes record.present.fields none record.bodyOffset
  rw [fields] at ends
  cases ends
  rw [Record.decode, unknown_eq_none_iff.mpr known]
  change (Record.decodeFields _ _ _ _ >>= _).events = _
  rw [bind_events_of_ok fields, reports, places, List.append_nil]
  rfl

theorem decode_error_events {record : Record} {failure : Failure} (known : Catalogued record.present)
    (failed : record.decode.outcome = .error failure) :
    ∃ attr offset fault before rest, failure = .undecodable attr fault ∧
      fieldOffsets record.bodyOffset record.present.fields = before ++ (attr, offset) :: rest ∧
      record.decode.events = before.map fieldEvent := by
  have fields := (decode_error_iff known).mp failed
  obtain ⟨before, left, places, reports, ends⟩ :=
    decode_fields_reports record.bytes record.present.fields none record.bodyOffset
  rw [fields] at ends
  cases ends with
  | stopped attr offset rest fault =>
    refine ⟨attr, offset, fault, before, rest, rfl, places, ?_⟩
    rw [Record.decode, unknown_eq_none_iff.mpr known]
    change (Record.decodeFields _ _ _ _ >>= _).events = _
    rw [bind_events_of_error fields, reports]

theorem decode_unknown_events {record : Record} (foreign : ¬Catalogued record.present) :
    record.decode.events = [] ∧
      ∃ category bits, record.decode.outcome = .error (.unknownAttributes category bits) := by
  cases found : record.present.unknown? with
  | none => exact absurd (unknown_eq_none_iff.mp found) foreign
  | some unknown =>
    rw [Record.decode, found]
    exact ⟨rfl, _, _, rfl⟩

/-! ## What the reports say -/

/-- The event reports the decoding at the finest level, with the message and the details. -/
structure Reports (event : Event) (message : String) (details : List (String × String)) : Prop where
  level_eq : event.level = .trace
  activity_eq : event.activity = .decode
  message_eq : event.message = message
  details_eq : event.details = details

/-- The event reports a field: its attribute, with the category in front, and its position. -/
def ReportsField (field : Attribute × Nat) (event : Event) : Prop :=
  Reports event "Decoded attribute"
    [("attribute", s!"{field.1.category.name}.{field.1.name}"), ("offset", toString field.2)]

/-- The event reports a whole record: how many attributes it holds, where its last field ends and
where it ends itself. -/
def ReportsRecord (attributes consumed length : Nat) (event : Event) : Prop :=
  Reports event "Decoded attribute buffer"
    [("attributes", toString attributes), ("consumed", toString consumed),
      ("length", toString length)]

theorem field_events_report (fields : List (Attribute × Nat)) :
    List.Forall₂ ReportsField fields (fields.map fieldEvent) :=
  List.forall₂_map_right_iff.mpr (List.forall₂_same.mpr fun _ _ => ⟨rfl, rfl, rfl, rfl⟩)

/-- A record that is decoded is reported field by field, each field at the sum of the sizes before it,
and then as a whole. A decoding that fails for a field has reported exactly the fields in front of that
one, and a decoding that fails for foreign bits has reported nothing. -/
theorem decoding_reported (bytes : Bytes) (requested : AttributeSet) (record : Record)
    (parsed : Record.parse bytes requested = .ok record) :
    let attrs := Attribute.all.filter
      (fun attr => record.present.contains attr && attr != .returnedAttributes)
    let start := if requested.contains .returnedAttributes then 24 else 4
    let fields := fieldOffsets start attrs
    let consumed := start + inlineSize attrs
    (fields.map Prod.snd).Pairwise (· < ·) ∧
    (∀ values, record.decode.outcome = .ok values →
      values.entries.map Prod.fst = attrs ∧ consumed ≤ record.size ∧
      ∃ reports whole, record.decode.events = reports ++ [whole] ∧
        List.Forall₂ ReportsField fields reports ∧
        ReportsRecord values.size consumed record.size whole) ∧
    ∀ failure, record.decode.outcome = .error failure →
      (∃ attr offset fault before rest, failure = .undecodable attr fault ∧
        fields = before ++ (attr, offset) :: rest ∧
        List.Forall₂ ReportsField before record.decode.events) ∨
      ∃ category bits, failure = .unknownAttributes category bits ∧ record.decode.events = [] := by
  intro attrs start fields consumed
  obtain ⟨own, _, returned⟩ := header_holds (parse_ok_iff.mp parsed).2
  have order : record.present.fields = attrs := fields_eq_filter record.present
  have body : record.bodyOffset = start := by
    rw [body_offset_header, header_size_eq, returned]
  refine ⟨offsets_increase start attrs, ?_, ?_⟩
  · intro values decoded
    have holds := (decode_ok_iff (decoded_catalogued decoded)).mp decoded
    have begins : record.bodyOffset ≤ record.size := by
      rw [parsed_size parsed]
      exact body_inside parsed
    have inside := fields_inside begins holds
    have events := decode_ok_events decoded
    have keys := fields_hold_keys holds
    rw [order] at keys
    rw [body, order] at inside events
    exact ⟨keys, inside, _, _, events, field_events_report fields, rfl, rfl, rfl, rfl⟩
  · intro failure failed
    by_cases known : Catalogued record.present
    · obtain ⟨attr, offset, fault, before, rest, told, places, events⟩ :=
        decode_error_events known failed
      rw [body, order] at places
      exact .inl ⟨attr, offset, fault, before, rest, told, places,
        events ▸ field_events_report before⟩
    · obtain ⟨silent, category, bits, outcome⟩ := decode_unknown_events known
      cases failed.symm.trans outcome
      exact .inr ⟨category, bits, rfl, silent⟩

/-- A record that ends in front of its last field. -/
theorem truncated_time_reported :
    let requested : AttributeSet := ⟨0x80000409, 0, 0, 0, 0⟩
    let bytes := [36, 0, 0, 0] ++ requested.toBytes ++ [0xF0, 0xFF, 0xFF, 0xFF, 1, 0, 0, 0] ++
      [1, 0, 0, 0]
    let record : Record := ⟨bytes, requested, some requested⟩
    Record.parse bytes requested = .ok record ∧
    record.decode.outcome =
      .error (.undecodable (.common .modificationTime) (.truncated 36 8 0)) ∧
    List.Forall₂ ReportsField [(.common .name, 24), (.common .objectType, 32)]
      record.decode.events := by
  intro requested bytes record
  have parsed : Record.parse bytes requested = .ok record := to_option_ok_iff.mp (by decide +kernel)
  have failed : record.decode.outcome =
      .error (.undecodable (.common .modificationTime) (.truncated 36 8 0)) :=
    error_of_iff.mp (by decide +kernel)
  have fields : fieldOffsets (if requested.contains .returnedAttributes then 24 else 4)
      (Attribute.all.filter
        (fun attr => record.present.contains attr && attr != .returnedAttributes)) =
      [(.common .name, 24), (.common .objectType, 32), (.common .modificationTime, 36)] := by
    decide +kernel
  refine ⟨parsed, failed, ?_⟩
  obtain ⟨_, _, ends⟩ := decoding_reported bytes requested record parsed
  obtain ⟨attr, offset, fault, before, rest, told, places, reports⟩ | ⟨_, _, told, _⟩ := ends _ failed
  · cases told
    have split := fields.symm.trans places
    match before, split with
    | [], split => simp at split
    | [_], split => simp at split
    | [_, _], split =>
      cases split
      exact reports
    | _ :: _ :: _ :: _, split => simp at split
  · cases told

end PackedAttributes.DecodeTrace
