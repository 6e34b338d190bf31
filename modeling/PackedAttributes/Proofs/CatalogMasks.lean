import Mathlib.Data.List.Nodup
import PackedAttributes.AttributeSet

/-! The masks of a set and the catalogue say the same: every attribute has a bit of its own in its
category, so a set holds an attribute exactly when that bit is set, and a set without foreign bits
can be decoded in the order of the catalogue. -/
namespace PackedAttributes.CatalogMasks

/-! ## Bits -/

/-- The bit at a position of a mask is set. -/
def HasBit (mask : UInt32) (bit : Nat) : Prop :=
  mask.toBitVec.getLsbD bit = true

instance : Decidable (HasBit mask bit) :=
  inferInstanceAs (Decidable (_ = true))

theorem has_bit_lt {mask : UInt32} (set : HasBit mask bit) : bit < 32 :=
  BitVec.lt_of_getLsbD set

@[simp] theorem has_bit_zero : ¬HasBit 0 bit := by
  simp [HasBit]

@[simp] theorem has_bit_and : HasBit (left &&& right) bit ↔ HasBit left bit ∧ HasBit right bit := by
  simp [HasBit]

@[simp] theorem has_bit_or : HasBit (left ||| right) bit ↔ HasBit left bit ∨ HasBit right bit := by
  simp [HasBit]

@[simp] theorem has_bit_not : HasBit (~~~mask) bit ↔ bit < 32 ∧ ¬HasBit mask bit := by
  simp [HasBit]

theorem has_bit_and_not :
    HasBit (left &&& ~~~right) bit ↔ HasBit left bit ∧ ¬HasBit right bit := by
  rw [has_bit_and, has_bit_not]
  exact and_congr_right fun set => and_iff_right (has_bit_lt set)

theorem mask_ext {left right : UInt32} (same : ∀ bit, HasBit left bit ↔ HasBit right bit) :
    left = right := by
  apply UInt32.toBitVec_inj.mp
  apply BitVec.eq_of_getLsbD_eq
  intro bit _
  exact Bool.eq_iff_iff.mpr (same bit)

theorem eq_zero_iff {mask : UInt32} : mask = 0 ↔ ∀ bit, ¬HasBit mask bit := by
  constructor
  · rintro rfl bit
    exact has_bit_zero
  · intro empty
    exact mask_ext fun bit => iff_of_false (empty bit) has_bit_zero

/-- Every bit of one mask is a bit of the other. -/
theorem and_not_eq_zero_iff {mask known : UInt32} :
    mask &&& ~~~known = 0 ↔ ∀ bit, HasBit mask bit → HasBit known bit := by
  simp only [eq_zero_iff, has_bit_and_not, not_and, Classical.not_not]

/-! ## The catalogue -/

theorem mem_categories (category : Category) : category ∈ Category.all := by
  cases category <;> decide

theorem mem_category (attr : Attribute) : attr ∈ Attribute.inCategory attr.category := by
  cases attr with
  | common attr => exact List.mem_map_of_mem (by cases attr <;> decide)
  | volume attr => exact List.mem_map_of_mem (by cases attr <;> decide)
  | directory attr => exact List.mem_map_of_mem (by cases attr <;> decide)
  | file attr => exact List.mem_map_of_mem (by cases attr <;> decide)
  | extended attr => exact List.mem_map_of_mem (by cases attr <;> decide)

theorem category_of_mem {attr : Attribute} (member : attr ∈ Attribute.inCategory category) :
    attr.category = category := by
  cases category <;> simp only [Attribute.inCategory, List.mem_map] at member <;>
    obtain ⟨_, _, rfl⟩ := member <;> rfl

theorem mem_all (attr : Attribute) : attr ∈ Attribute.all :=
  List.mem_flatMap.mpr ⟨attr.category, mem_categories attr.category, mem_category attr⟩

/-- The catalogue is finite, so what holds of all attributes can be looked up in it. -/
instance (property : Attribute → Prop) [DecidablePred property] : Decidable (∀ attr, property attr) :=
  decidable_of_iff (∀ attr ∈ Attribute.all, property attr)
    ⟨fun every attr => every attr (mem_all attr), fun every attr _ => every attr⟩

theorem bits_nodup (category : Category) :
    ((Attribute.inCategory category).map Attribute.bit).Nodup := by
  have every : ∀ category ∈ Category.all,
      ((Attribute.inCategory category).map Attribute.bit).Nodup := by decide +kernel
  exact every category (mem_categories category)

/-- No two attributes of a category share a bit. -/
theorem bit_injective {attr other : Attribute} (category : attr.category = other.category)
    (bit : attr.bit = other.bit) : attr = other :=
  List.inj_on_of_nodup_map (bits_nodup _) (mem_category attr) (category ▸ mem_category other) bit

theorem all_nodup : Attribute.all.Nodup := by
  have apart : Category.all.Nodup := by decide
  refine List.nodup_flatMap.mpr ⟨fun category _ => (bits_nodup category).of_map _, ?_⟩
  refine apart.imp ?_
  intro first second different attr here there
  exact different ((category_of_mem here).symm.trans (category_of_mem there))

theorem bit_lt (attr : Attribute) : attr.bit < 32 := by
  revert attr
  decide +kernel

theorem has_bit_shifted {position : Nat} (small : position < 32) :
    HasBit (1 <<< UInt32.ofNat position) bit ↔ bit = position := by
  have amount : (UInt32.ofNat position).toBitVec % 32 = BitVec.ofNat 32 position := by
    apply BitVec.eq_of_toNat_eq
    simp
    omega
  rw [HasBit, UInt32.toBitVec_shiftLeft, amount]
  simp only [UInt32.toBitVec_one, BitVec.shiftLeft_eq', BitVec.toNat_ofNat,
    BitVec.getLsbD_shiftLeft, BitVec.getLsbD_one, Bool.and_eq_true, Bool.not_eq_true',
    decide_eq_true_eq, decide_eq_false_iff_not]
  omega

theorem has_bit_mask {attr : Attribute} : HasBit attr.mask bit ↔ bit = attr.bit :=
  has_bit_shifted (bit_lt attr)

/-- The known mask of a category has exactly the bits of its attributes. -/
theorem known_mask_bit : HasBit (Attribute.knownMask category) bit ↔
    ∃ attr : Attribute, attr.category = category ∧ attr.bit = bit := by
  have folded (attrs : List Attribute) (start : UInt32) :
      HasBit (attrs.foldl (fun known attr => known ||| attr.mask) start) bit ↔
        HasBit start bit ∨ ∃ attr ∈ attrs, attr.bit = bit := by
    induction attrs generalizing start with
    | nil => simp
    | cons attr attrs ih => simp [ih, has_bit_mask, or_assoc, eq_comm]
  rw [Attribute.knownMask, folded]
  constructor
  · rintro (none | ⟨attr, member, same⟩)
    · exact absurd none has_bit_zero
    · exact ⟨attr, category_of_mem member, same⟩
  · rintro ⟨attr, rfl, same⟩
    exact .inr ⟨attr, mem_category attr, same⟩

/-! ## Sets -/

theorem contains_iff {set : AttributeSet} :
    set.contains attr = true ↔ HasBit (set.mask attr.category) attr.bit := by
  rw [AttributeSet.contains, bne_iff_ne, ne_eq, eq_zero_iff]
  simp only [has_bit_and, has_bit_mask]
  constructor
  · intro shared
    apply Classical.byContradiction
    intro absent
    exact shared fun bit ⟨set, same⟩ => absent (same ▸ set)
  · intro set none
    exact none attr.bit ⟨set, rfl⟩

theorem map_mask_own (set : AttributeSet) (category : Category) (change : UInt32 → UInt32) :
    (set.mapMask category change).mask category = change (set.mask category) := by
  cases category <;> rfl

theorem map_mask_other (set : AttributeSet) (change : UInt32 → UInt32)
    (other : category ≠ changed) : (set.mapMask changed change).mask category = set.mask category := by
  cases changed <;> cases category <;> first | rfl | exact absurd rfl other

theorem mem_members_iff {set : AttributeSet} :
    attr ∈ set.members category ↔ attr.category = category ∧ set.contains attr = true := by
  rw [AttributeSet.members, List.mem_filter]
  exact and_congr_left fun _ => ⟨category_of_mem, fun own => own ▸ mem_category attr⟩

/-- The bits of a set all belong to attributes of the catalogue, except that the marker of volume
requests may be set. -/
def Catalogued (set : AttributeSet) : Prop :=
  ∀ category bit, HasBit (set.mask category) bit →
    (∃ attr : Attribute, attr.category = category ∧ attr.bit = bit) ∨
      (category = .volume ∧ bit = 31)

theorem volume_marker_bit : HasBit volumeMarker bit ↔ bit = 31 := by
  have shifted : volumeMarker = 1 <<< UInt32.ofNat 31 := rfl
  rw [shifted]
  exact has_bit_shifted (by decide)

/-- The marker of volume requests is the bit of no attribute. -/
theorem marker_free (attr : Attribute) : ¬(attr.category = .volume ∧ attr.bit = 31) := by
  revert attr
  decide +kernel

/-- The bit is set in the category, but neither an attribute has it nor is it the marker of volume
requests. -/
def Unknown (set : AttributeSet) (category : Category) (bit : Nat) : Prop :=
  HasBit (set.mask category) bit ∧ ¬HasBit (Attribute.knownMask category) bit ∧
    ¬(category = .volume ∧ bit = 31)

theorem unknown_bits_bit {set : AttributeSet} :
    HasBit (set.unknownBits category) bit ↔ Unknown set category bit := by
  cases category <;>
    simp only [AttributeSet.unknownBits, Unknown, has_bit_and_not, volume_marker_bit, and_assoc,
      reduceCtorEq, false_and, true_and, not_false_eq_true, and_true]

theorem unknown_bits_eq_zero_iff {set : AttributeSet} :
    set.unknownBits category = 0 ↔ ∀ bit, ¬Unknown set category bit := by
  simp only [eq_zero_iff, unknown_bits_bit]

theorem catalogued_iff {set : AttributeSet} :
    Catalogued set ↔ ∀ category bit, ¬Unknown set category bit := by
  constructor
  · rintro known category bit ⟨present, unknown, unmarked⟩
    exact (known category bit present).elim (fun own => unknown (known_mask_bit.mpr own)) unmarked
  · intro none category bit present
    apply Classical.byContradiction
    intro foreign
    obtain ⟨unknown, unmarked⟩ := not_or.mp foreign
    exact none category bit ⟨present, fun own => unknown (known_mask_bit.mp own), unmarked⟩

/-- Decoding finds no foreign bits exactly in catalogued sets. -/
theorem unknown_eq_none_iff {set : AttributeSet} : set.unknown? = none ↔ Catalogued set := by
  have clear (category : Category) :
      (let bits := set.unknownBits category
        if bits = 0 then none else some (category, bits)) = none ↔ set.unknownBits category = 0 := by
    simp
  simp only [AttributeSet.unknown?, List.findSome?_eq_none_iff, clear, unknown_bits_eq_zero_iff,
    catalogued_iff]
  constructor
  · intro every category
    exact every category (mem_categories category)
  · intro every category _
    exact every category

/-- What decoding finds are all foreign bits of the first category that has any. -/
theorem unknown_eq_some_iff {set : AttributeSet} :
    set.unknown? = some (category, bits) ↔ bits ≠ 0 ∧ set.unknownBits category = bits ∧
      ∃ before behind, Category.all = before ++ category :: behind ∧
        ∀ earlier ∈ before, set.unknownBits earlier = 0 := by
  simp only [AttributeSet.unknown?, List.findSome?_eq_some_iff]
  constructor
  · rintro ⟨before, found, behind, order, own, clear⟩
    split at own
    · cases own
    · cases own
      exact ⟨‹_›, rfl, before, behind, order, fun earlier member => by simpa using clear earlier member⟩
  · rintro ⟨some, rfl, before, behind, order, clear⟩
    exact ⟨before, category, behind, order, if_neg some, fun earlier member => if_pos (clear earlier member)⟩

/-- The fields of a set are its attributes in the order of the catalogue. -/
theorem fields_eq_filter (set : AttributeSet) :
    set.fields =
      Attribute.all.filter (fun attr => set.contains attr && attr != .returnedAttributes) := by
  simp only [AttributeSet.fields, AttributeSet.members, Attribute.all, List.filter_flatMap,
    List.filter_filter, Bool.and_comm]

theorem mem_fields_iff {set : AttributeSet} :
    attr ∈ set.fields ↔ set.contains attr = true ∧ attr ≠ .returnedAttributes := by
  simp [fields_eq_filter, mem_all]

end PackedAttributes.CatalogMasks
