import PackedAttributes.Proofs.RecordDecoding
import PackedAttributes.Proofs.RecordHeader
import PackedAttributes.Proofs.RequestInvariants

/-! When a record is refused because it holds attributes that the catalogue does not know. The masks
decide alone, before any field is looked at: the first category with an unknown bit is reported with
all unknown bits that it has. A request has known bits only, whichever way it was made, so this never
happens to a record that holds what was requested. -/
namespace PackedAttributes.UnknownAttributes
open ActivityOutcomes CatalogMasks RequestMasks RequestInvariants RecordDecoding RecordHeader

/-! ## Reports -/

theorem decode_unknown_iff {record : Record} :
    record.decode.outcome = .error (.unknownAttributes category bits) ↔
      record.present.unknown? = some (category, bits) := by
  cases found : record.present.unknown? with
  | some unknown =>
    have refused : record.decode.outcome = .error (.unknownAttributes unknown.1 unknown.2) := by
      rw [Record.decode, found]
      rfl
    rw [refused]
    simp [Prod.ext_iff]
  | none =>
    constructor
    · intro failed
      obtain ⟨_, _, told⟩ := catalogued_failure (unknown_eq_none_iff.mp found) failed
      cases told
    · intro report
      cases report

/-- The unknown bits of a category are told apart by their positions. -/
theorem unknown_bits_iff {set : AttributeSet} :
    set.unknownBits category = bits ↔ ∀ bit, HasBit bits bit ↔ Unknown set category bit := by
  simp only [← unknown_bits_bit]
  constructor
  · rintro rfl bit
    exact Iff.rfl
  · intro same
    exact mask_ext fun bit => (same bit).symm

theorem decode_unknown_exists_iff {record : Record} :
    (∃ category bits, record.decode.outcome = .error (.unknownAttributes category bits)) ↔
      ∃ category bit, Unknown record.present category bit := by
  simp only [decode_unknown_iff]
  constructor
  · rintro ⟨category, bits, found⟩
    obtain ⟨some, own, _⟩ := unknown_eq_some_iff.mp found
    apply Classical.byContradiction
    intro none
    exact some (own.symm.trans (unknown_bits_eq_zero_iff.mpr fun bit unknown =>
      none ⟨category, bit, unknown⟩))
  · rintro ⟨category, bit, unknown⟩
    cases found : record.present.unknown? with
    | some report => exact ⟨report.1, report.2, rfl⟩
    | none => exact absurd unknown (catalogued_iff.mp (unknown_eq_none_iff.mp found) category bit)

/-! ## Requests -/

/-- Every bit that the kernel accepts belongs to an attribute or is the marker of volume requests. -/
theorem valid_bit_known (valid : HasBit category.validMask bit) :
    HasBit (Attribute.knownMask category) bit ∨ (category = .volume ∧ bit = 31) := by
  have covered : ∀ category ∈ Category.all, category.validMask &&&
      ~~~(Attribute.knownMask category ||| if category = .volume then volumeMarker else 0) = 0 := by
    decide +kernel
  have bits := and_not_eq_zero_iff.mp (covered category (mem_categories category)) bit valid
  rcases has_bit_or.mp bits with known | marker
  · exact .inl known
  · split at marker
    · exact .inr ⟨‹_›, volume_marker_bit.mp marker⟩
    · exact absurd marker has_bit_zero

theorem accepted_catalogued {set : AttributeSet} (accepted : Accepted set) : Catalogued set := by
  rw [catalogued_iff]
  rintro category bit ⟨present, unknown, unmarked⟩
  exact (valid_bit_known (accepted category bit present)).elim unknown unmarked

theorem unasked_present (parsed : Record.parse bytes requested = .ok record)
    (unasked : requested.contains .returnedAttributes = false) : record.present = requested := by
  obtain ⟨_, asked, returned⟩ := header_holds (parse_ok_iff.mp parsed).2
  rw [unasked, Option.isSome_eq_false_iff, Option.isNone_iff_eq_none] at returned
  rw [Record.present, returned, Option.getD_none, asked]

/-! ## Records -/

/-- A record is refused for unknown attributes exactly if its masks have an unknown bit, whatever its
bytes are. It is refused for the first category that has one, with all unknown bits of that category.
A record that was read by a request without the set of returned attributes is never refused so. -/
theorem unknown_bits_reported (record : Record) :
    (∀ category bits, record.decode.outcome = .error (.unknownAttributes category bits) ↔
      bits ≠ 0 ∧ (∀ bit, HasBit bits bit ↔ Unknown record.present category bit) ∧
      ∃ before behind, Category.all = before ++ category :: behind ∧
        ∀ earlier ∈ before, ∀ bit, ¬Unknown record.present earlier bit) ∧
    ((∃ category bits, record.decode.outcome = .error (.unknownAttributes category bits)) ↔
      ∃ category bit, Unknown record.present category bit) ∧
    ∀ options request bytes, Made options request → request.returnsSet = false →
      Record.parse bytes request.attributes = .ok record →
        ∀ category bits, record.decode.outcome ≠ .error (.unknownAttributes category bits) := by
  refine ⟨?_, decode_unknown_exists_iff, ?_⟩
  · intro category bits
    rw [decode_unknown_iff, unknown_eq_some_iff, unknown_bits_iff]
    simp only [unknown_bits_eq_zero_iff]
  · intro options request bytes made unasked parsed category bits refused
    have known : Catalogued record.present := by
      rw [unasked_present parsed unasked]
      exact accepted_catalogued (made_settled made).accepted
    rw [decode_unknown_iff, unknown_eq_none_iff.mpr known] at refused
    cases refused

/-- Of two categories with unknown bits the first one is reported, though the record ends before its
first field. Of all bits that can be requested none is unknown. -/
theorem unknown_volume_bits_reported :
    let returned : AttributeSet := ⟨0x80000001, 0x81080000, 0, 0x8000, 0⟩
    let bytes := [24, 0, 0, 0] ++ returned.toBytes
    let record : Record := ⟨bytes, ⟨0x80000001, 0, 0, 0, 0⟩, some returned⟩
    let request := Request.ofSet ⟨0x7FFFFFFF, 0xFFFFFFFF, 0xFFFFFFFF, 0xFFFFFFFF, 0xFFFFFFFF⟩ .none
    let whole : Record := ⟨[4, 0, 0, 0], request.attributes, none⟩
    Record.parse bytes ⟨0x80000001, 0, 0, 0, 0⟩ = .ok record ∧
    record.decode.outcome = .error (.unknownAttributes .volume 0x01080000) ∧
    Unknown returned .volume 24 ∧ ¬Unknown returned .volume 31 ∧
    Made .none request ∧ request.returnsSet = false ∧
    Record.parse [4, 0, 0, 0] request.attributes = .ok whole ∧
    ∀ category bits, whole.decode.outcome ≠ .error (.unknownAttributes category bits) := by
  intro returned bytes record request whole
  have read : Record.parse bytes ⟨0x80000001, 0, 0, 0, 0⟩ = .ok record :=
    to_option_ok_iff.mp (by decide +kernel)
  have refused : record.decode.outcome = .error (.unknownAttributes .volume 0x01080000) :=
    decode_unknown_iff.mpr (by decide +kernel)
  have made : Made .none request := .masked _
  have unasked : request.returnsSet = false := by decide +kernel
  have parsed : Record.parse [4, 0, 0, 0] request.attributes = .ok whole :=
    to_option_ok_iff.mp (by decide +kernel)
  obtain ⟨_, bits, _⟩ := ((unknown_bits_reported record).1 _ _).mp refused
  have foreign : Unknown returned .volume 24 := (bits 24).mp rfl
  have unmarked : ¬Unknown returned .volume 31 := fun marker =>
    Bool.false_ne_true ((bits 31).mpr marker)
  exact ⟨read, refused, foreign, unmarked, made, unasked, parsed,
    (unknown_bits_reported whole).2.2 _ request _ made unasked parsed⟩

end PackedAttributes.UnknownAttributes
