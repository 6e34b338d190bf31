import Mathlib.Data.List.Sort
import PackedAttributes.Proofs.RecordDecoding
import PackedAttributes.Proofs.RecordHeader

/-! What is found in a record that was decoded: the attributes whose bits are set, each once and in
the order of the catalogue. Looking an attribute up and going through all of them tell the same, and
there are as many values as there are bits that have a field. -/
namespace PackedAttributes.PresentValues
open ActivityOutcomes CatalogMasks RecordDecoding RecordHeader

/-! ## Order -/

/-- The first attribute comes before the second one in every record: its category does or, within one
category, its position in the catalogue. -/
def Precedes (first second : Attribute) : Prop :=
  Category.all.idxOf first.category < Category.all.idxOf second.category ∨
    (first.category = second.category ∧ first.index < second.index)

theorem precedes_irrefl (attr : Attribute) : ¬Precedes attr attr := by
  simp [Precedes]

theorem precedes_asymm {first second : Attribute} (before : Precedes first second) :
    ¬Precedes second first := by
  rcases before with earlier | ⟨same, earlier⟩
  · rintro (later | ⟨same, _⟩)
    · omega
    · rw [same] at earlier
      omega
  · rintro (later | ⟨_, later⟩)
    · rw [same] at later
      omega
    · omega

theorem category_ordered (category : Category) :
    (Attribute.inCategory category).Pairwise Precedes := by
  have distinct : (Attribute.inCategory category).Nodup := by
    cases category <;> decide +kernel
  have position (index : Nat) (inside : index < (Attribute.inCategory category).length) :
      (Attribute.inCategory category)[index].index = index := by
    rw [Attribute.index, category_of_mem (List.getElem_mem inside), distinct.idxOf_getElem]
  rw [List.pairwise_iff_getElem]
  intro first second inside also before
  refine .inr ⟨?_, ?_⟩
  · rw [category_of_mem (List.getElem_mem inside), category_of_mem (List.getElem_mem also)]
  · rwa [position, position]

/-- What belongs to one category after the other is ordered if it is within each of them. -/
theorem categories_ordered {items : Category → List α} {key : α → Attribute}
    (own : ∀ category, ∀ item ∈ items category, (key item).category = category)
    (each : ∀ category, (items category).Pairwise fun first second => Precedes (key first) (key second)) :
    (Category.all.flatMap items).Pairwise fun first second => Precedes (key first) (key second) := by
  have order : Category.all.Pairwise fun first second =>
      Category.all.idxOf first < Category.all.idxOf second := by decide
  rw [List.pairwise_flatMap]
  refine ⟨fun category _ => each category, order.imp ?_⟩
  intro earlier later before item member other also
  rw [← own _ item member, ← own _ other also] at before
  exact .inl before

theorem fields_ordered (set : AttributeSet) : set.fields.Pairwise Precedes := by
  have all : Attribute.all.Pairwise fun first second => Precedes (id first) (id second) :=
    categories_ordered (fun _ _ member => category_of_mem member) category_ordered
  rw [fields_eq_filter]
  exact all.filter _

theorem ordered_nodup {attrs : List Attribute} (ordered : attrs.Pairwise Precedes) : attrs.Nodup := by
  refine ordered.imp ?_
  rintro attr _ before rfl
  exact precedes_irrefl attr before

/-- Entries in the order of a record are those of each category, one category behind the other. -/
theorem entries_by_category {values : AttributeValues}
    (ordered : (values.entries.map Prod.fst).Pairwise Precedes) :
    Category.all.flatMap values.inCategory = values.entries := by
  let before (first second : Attribute × Value) : Prop := Precedes first.1 second.1
  have irrefl : Std.Irrefl before := ⟨fun entry => precedes_irrefl entry.1⟩
  have antisymm : Std.Antisymm before := ⟨fun _ _ first second =>
    absurd second (precedes_asymm first)⟩
  have whole : values.entries.Pairwise before := List.pairwise_map.mp ordered
  have parts : (Category.all.flatMap values.inCategory).Pairwise before := by
    refine categories_ordered (fun category entry member => ?_) fun category => whole.filter _
    simpa using (List.mem_filter.mp member).2
  -- Lists that are strictly ordered by the same relation are equal if their members are.
  refine parts.eq_of_mem_iff whole fun entry => ?_
  simp [AttributeValues.inCategory, mem_categories]

/-! ## Look-up -/

theorem lookup_some_iff {entries : List (Attribute × Value)}
    (distinct : (entries.map Prod.fst).Nodup) :
    entries.lookup attr = some value ↔ (attr, value) ∈ entries := by
  induction entries with
  | nil => simp
  | cons entry rest ih =>
    obtain ⟨own, held⟩ := entry
    rw [List.map_cons, List.nodup_cons] at distinct
    by_cases same : attr = own
    · subst same
      have absent : (attr, value) ∉ rest := fun member =>
        distinct.1 (List.mem_map.mpr ⟨_, member, rfl⟩)
      simp [absent, eq_comm]
    · have other : (attr == own) = false := beq_eq_false_iff_ne.mpr same
      simp [List.lookup_cons, other, ih distinct.2, same]

/-! ## Numbers of bits -/

/-- The bits of a category that have no field: those of the set of returned attributes and of the
marker of volume requests. -/
def fieldless : Category → UInt32
  | .common | .volume => 0x80000000
  | _ => 0

theorem fieldless_bit (attr : Attribute) :
    HasBit (fieldless attr.category) attr.bit ↔ attr = .returnedAttributes := by
  revert attr
  decide +kernel

theorem and_not_zero (mask : UInt32) : mask &&& ~~~0 = mask := by
  apply mask_ext
  intro bit
  rw [has_bit_and_not, and_iff_left has_bit_zero]

theorem set_bits_count (mask : UInt32) :
    mask.toBitVec.cpop.toNat = ((List.range 32).filter fun bit => HasBit mask bit).length := by
  have counted (width : Nat) : mask.toBitVec.cpopNatRec width 0 =
      ((List.range width).filter fun bit => HasBit mask bit).length := by
    induction width with
    | zero => rfl
    | succ width ih =>
      rw [BitVec.cpopNatRec_succ, BitVec.cpopNatRec_eq, ih, List.range_succ, List.filter_append,
        List.length_append]
      cases set : mask.toBitVec.getLsbD width <;> simp [HasBit, set]
  rw [BitVec.toNat_cpop, counted]

/-- As many attributes of a category as bits that stand for them. -/
theorem attributes_count {attrs : List Attribute} (distinct : attrs.Nodup)
    (own : ∀ attr ∈ attrs, attr.category = category)
    (bits : ∀ bit, HasBit mask bit ↔ ∃ attr ∈ attrs, attr.bit = bit) :
    attrs.length = mask.toBitVec.cpop.toNat := by
  have apart : (attrs.map Attribute.bit).Nodup := distinct.map_on fun attr member other also same =>
    bit_injective ((own attr member).trans (own other also).symm) same
  have filtered : ((List.range 32).filter fun bit => HasBit mask bit).Nodup :=
    List.nodup_range.filter _
  have same : (attrs.map Attribute.bit).Perm ((List.range 32).filter fun bit => HasBit mask bit) := by
    rw [List.perm_ext_iff_of_nodup apart filtered]
    intro bit
    simp only [List.mem_map, List.mem_filter, List.mem_range, decide_eq_true_eq, ← bits]
    exact (and_iff_right_of_imp has_bit_lt).symm
  rw [set_bits_count, ← same.length_eq, List.length_map]

theorem category_fields_count {set : AttributeSet} (known : Catalogued set) (category : Category) :
    ((set.members category).filter (fun attr => attr != .returnedAttributes)).length =
      (set.mask category &&& ~~~fieldless category).toBitVec.cpop.toNat := by
  have member (attr : Attribute) :
      attr ∈ (set.members category).filter (fun attr => attr != .returnedAttributes) ↔
        attr.category = category ∧ set.contains attr = true ∧ attr ≠ .returnedAttributes := by
    simp only [List.mem_filter, mem_members_iff, bne_iff_ne, and_assoc]
  have distinct : (set.members category).Nodup :=
    (ordered_nodup (category_ordered category)).filter _
  refine attributes_count (distinct.filter _) (fun attr among => ((member attr).mp among).1) ?_
  intro bit
  rw [has_bit_and_not]
  constructor
  · rintro ⟨present, fieldful⟩
    rcases known category bit present with ⟨attr, rfl, rfl⟩ | ⟨rfl, rfl⟩
    · refine ⟨attr, (member attr).mpr ⟨rfl, contains_iff.mpr present, ?_⟩, rfl⟩
      exact fun header => fieldful ((fieldless_bit attr).mpr header)
    · exact absurd rfl fieldful
  · rintro ⟨attr, among, rfl⟩
    obtain ⟨rfl, present, other⟩ := (member attr).mp among
    exact ⟨contains_iff.mp present, mt (fieldless_bit attr).mp other⟩

theorem fields_count {set : AttributeSet} (known : Catalogued set) :
    set.fields.length =
      (set.common &&& ~~~0x80000000).toBitVec.cpop.toNat +
      (set.volume &&& ~~~0x80000000).toBitVec.cpop.toNat +
      set.directory.toBitVec.cpop.toNat + set.file.toBitVec.cpop.toNat +
      set.extended.toBitVec.cpop.toNat := by
  have all : set.fields.length = (Category.all.map fun category =>
      (set.mask category &&& ~~~fieldless category).toBitVec.cpop.toNat).sum := by
    simp only [AttributeSet.fields, List.length_flatMap, category_fields_count known]
  rw [all]
  simp only [Category.all, List.map_cons, List.map_nil, List.sum_cons, List.sum_nil,
    AttributeSet.mask, fieldless, and_not_zero, Nat.add_assoc, Nat.add_zero]

/-! ## Decoded records -/

theorem decoded_keys {record : Record} (decoded : record.decode.outcome = .ok values) :
    values.entries.map Prod.fst = record.present.fields :=
  fields_hold_keys ((decode_ok_iff (decoded_catalogued decoded)).mp decoded)

theorem decoded_get_iff {record : Record} (decoded : record.decode.outcome = .ok values) :
    values.get? attr = some value ↔ (attr, value) ∈ values.entries := by
  apply lookup_some_iff
  rw [decoded_keys decoded]
  exact fields_nodup record.present

theorem decoded_present_iff {record : Record} (decoded : record.decode.outcome = .ok values) :
    (values.get? attr).isSome = true ↔
      record.present.contains attr = true ∧ attr ≠ .returnedAttributes := by
  rw [← mem_fields_iff, ← decoded_keys decoded, Option.isSome_iff_exists]
  simp only [decoded_get_iff decoded, List.mem_map, Prod.exists, exists_and_right, exists_eq_right]

theorem field_present_iff {record : Record} (decoded : record.decode.outcome = .ok values)
    (field : attr ≠ .returnedAttributes) :
    (values.get? attr).isSome = true ↔ record.present.contains attr = true := by
  rw [decoded_present_iff decoded, and_iff_left field]

/-- A record that is decoded holds a value for exactly the attributes whose bits are set, except for
the set of returned attributes, which is part of its header. -/
theorem decoded_values_present (bytes : Bytes) (requested : AttributeSet) (record : Record)
    (values : AttributeValues) (parsed : Record.parse bytes requested = .ok record)
    (decoded : record.decode.outcome = .ok values) :
    let present := record.present
    (record.returned.isSome = requested.contains .returnedAttributes ∧
      present = record.returned.getD requested) ∧
    (∀ attr, (values.get? attr).isSome = true ↔
      attr ≠ .returnedAttributes ∧ HasBit (present.mask attr.category) attr.bit) ∧
    Category.all.flatMap values.inCategory = values.entries ∧
    (values.entries.map Prod.fst).Pairwise Precedes ∧
    (∀ attr value, values.get? attr = some value ↔ (attr, value) ∈ values.entries) ∧
    values.size =
      (present.common &&& ~~~0x80000000).toBitVec.cpop.toNat +
      (present.volume &&& ~~~0x80000000).toBitVec.cpop.toNat +
      present.directory.toBitVec.cpop.toNat + present.file.toBitVec.cpop.toNat +
      present.extended.toBitVec.cpop.toNat := by
  intro present
  have known : Catalogued present := decoded_catalogued decoded
  have keys : values.entries.map Prod.fst = present.fields := decoded_keys decoded
  have ordered : (values.entries.map Prod.fst).Pairwise Precedes := keys ▸ fields_ordered present
  obtain ⟨_, asked, returned⟩ := header_holds (parse_ok_iff.mp parsed).2
  refine ⟨⟨returned, ?_⟩, ?_, entries_by_category ordered, ordered,
    fun _ _ => decoded_get_iff decoded, ?_⟩
  · rw [← asked]
    rfl
  · intro attr
    rw [decoded_present_iff decoded, contains_iff, and_comm]
  · rw [← fields_count known, ← keys, List.length_map]
    rfl

/-- An attribute that was requested and not returned is absent, one that was returned and not requested
is present, and the marker of volume requests counts for nothing. -/
theorem unrequested_value_present :
    let requested : AttributeSet := ⟨0x80000009, 0, 0, 0, 0⟩
    let returned : AttributeSet := ⟨0x80000008, 0x80000000, 0, 1, 0⟩
    let bytes := [32, 0, 0, 0] ++ returned.toBytes ++ [2, 0, 0, 0] ++ [7, 0, 0, 0]
    let record : Record := ⟨bytes, requested, some returned⟩
    let values : AttributeValues :=
      ⟨[(.common .objectType, .objectType .directory), (.file .linkCount, .word32 7)]⟩
    Record.parse bytes requested = .ok record ∧ record.decode.outcome = .ok values ∧
    ¬(values.get? (.common .name)).isSome = true ∧
    (values.get? (.file .linkCount)).isSome = true ∧
    Precedes (.common .objectType) (.file .linkCount) ∧ values.size = 2 := by
  intro requested returned bytes record values
  have parsed : Record.parse bytes requested = .ok record :=
    to_option_ok_iff.mp (by decide +kernel)
  have decoded : record.decode.outcome = .ok values := to_option_ok_iff.mp (by decide +kernel)
  obtain ⟨_, present, _, ordered, _, size⟩ :=
    decoded_values_present bytes requested record values parsed decoded
  have absent : ¬HasBit (returned.mask .common) (Attribute.common .name).bit := by decide +kernel
  have set : HasBit (returned.mask .file) (Attribute.file .linkCount).bit := by decide +kernel
  have order := List.rel_of_pairwise_cons ordered List.mem_cons_self
  exact ⟨parsed, decoded, fun found => absent ((present _).mp found).2,
    (present _).mpr ⟨by decide, set⟩, order, size.trans (by decide +kernel)⟩

end PackedAttributes.PresentValues
