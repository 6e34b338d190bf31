import PackedAttributes.Kernel.StoredObject
import PackedAttributes.Proofs.ActivityOutcomes
import PackedAttributes.Proofs.CatalogMasks

/-! What a request asks the kernel for: the masks hold exactly the selected attributes, however they
were ordered or repeated, and what the kernel makes of the masks and options holds them still. Only
the marker of volume requests is added on the way. -/
namespace PackedAttributes.RequestMasks
open ActivityOutcomes CatalogMasks

/-! ## Options -/

theorem option_on_iff {options : Options} {flag : OptionFlag} :
    options.contains flag = true ↔
      ∀ bit, flag.mask.toBitVec.getLsbD bit = true → options.bits.toBitVec.getLsbD bit = true := by
  rw [Options.contains, beq_iff_eq, ← UInt64.toBitVec_inj]
  constructor
  · intro same bit set
    rw [← same] at set
    simp only [UInt64.toBitVec_and, BitVec.getLsbD_and, Bool.and_eq_true] at set
    exact set.1
  · intro covered
    apply BitVec.eq_of_getLsbD_eq
    intro bit _
    simpa using covered bit

theorem insert_switches_on (options : Options) (flag : OptionFlag) :
    (options.insert flag).contains flag = true := by
  rw [option_on_iff]
  intro bit set
  simp [Options.insert, set]

theorem insert_keeps_on {options : Options} (flag : OptionFlag) (on : options.contains other = true) :
    (options.insert flag).contains other = true := by
  rw [option_on_iff] at on ⊢
  intro bit set
  simp [Options.insert, on bit set]

/-! ## Masks of a selection -/

/-- The bits of the set are exactly those of the listed attributes. -/
def Holds (set : AttributeSet) (attrs : List Attribute) : Prop :=
  ∀ category bit, HasBit (set.mask category) bit ↔
    ∃ attr ∈ attrs, attr.category = category ∧ attr.bit = bit

theorem holds_contains {set : AttributeSet} (holds : Holds set attrs) :
    set.contains attr = true ↔ attr ∈ attrs := by
  rw [contains_iff, holds]
  constructor
  · rintro ⟨other, member, category, bit⟩
    rwa [← bit_injective category bit]
  · intro member
    exact ⟨attr, member, rfl, rfl⟩

theorem holds_catalogued {set : AttributeSet} (holds : Holds set attrs) : Catalogued set := by
  intro category bit present
  obtain ⟨attr, _, own⟩ := (holds category bit).mp present
  exact .inl ⟨attr, own⟩

theorem insert_bit (set : AttributeSet) (attr : Attribute) :
    HasBit ((set.insert attr).mask category) bit ↔
      HasBit (set.mask category) bit ∨ (attr.category = category ∧ attr.bit = bit) := by
  by_cases own : attr.category = category
  · subst own
    rw [AttributeSet.insert, map_mask_own, has_bit_or, has_bit_mask]
    simp [eq_comm]
  · rw [AttributeSet.insert, map_mask_other set _ (Ne.symm own)]
    simp [own]

/-- Folding a list of attributes adds exactly their bits, in whatever order they come. -/
theorem fold_holds {set : AttributeSet} {before attrs : List Attribute} (holds : Holds set before)
    (requestable : ∀ attr ∈ attrs, attr.isRequestable = true) :
    ∃ folded, Request.fold set attrs = .ok folded ∧ Holds folded (before ++ attrs) := by
  induction attrs generalizing set before with
  | nil => exact ⟨set, rfl, by simpa using holds⟩
  | cons attr rest ih =>
    obtain ⟨own, others⟩ := List.forall_mem_cons.mp requestable
    have inserted : Holds (set.insert attr) (before ++ [attr]) := by
      intro category bit
      rw [insert_bit, holds]
      simp [or_and_right, exists_or]
    obtain ⟨folded, outcome, all⟩ := ih inserted others
    refine ⟨folded, ?_, by simpa using all⟩
    rw [Request.fold, if_pos own, outcome]

/-! ## Requests -/

theorem requestable_bit {attr : Attribute} (requestable : attr.isRequestable = true) :
    HasBit attr.category.validMask attr.bit := by
  rw [Attribute.isRequestable, beq_iff_eq] at requestable
  have own : HasBit attr.mask attr.bit := has_bit_mask.mpr rfl
  rw [← requestable] at own
  exact (has_bit_and.mp own).2

/-- Only the extent records of files are refused. -/
theorem requestable_iff {attr : Attribute} : attr.isRequestable = true ↔
    attr ≠ .file .dataExtents ∧ attr ≠ .file .resourceExtents := by
  revert attr
  decide +kernel

theorem clamp_bit (set : AttributeSet) (category : Category) :
    HasBit (set.clamp.mask category) bit ↔
      HasBit (set.mask category) bit ∧ HasBit category.validMask bit := by
  cases category <;> exact has_bit_and

/-- Nothing that the kernel accepts is dropped. -/
theorem clamp_holds {set : AttributeSet} (holds : Holds set attrs)
    (requestable : ∀ attr ∈ attrs, attr.isRequestable = true) : Holds set.clamp attrs := by
  intro category bit
  rw [clamp_bit, holds, and_iff_left_of_imp]
  rintro ⟨attr, member, rfl, rfl⟩
  exact requestable_bit (requestable attr member)

/-- The options under which the kernel reads all masks of a set as they are meant. -/
def optionsFor (set : AttributeSet) (options : Options) : Options :=
  if set.extended != 0 then options.insert .useExtendedCommonAttributes else options

theorem options_for_on {set : AttributeSet} (options : Options) (extended : set.extended ≠ 0) :
    (optionsFor set options).contains .useExtendedCommonAttributes = true := by
  rw [optionsFor, if_pos (bne_iff_ne.mpr extended)]
  exact insert_switches_on options _

/-- Extended attributes are requested under their option only. -/
def ExtendedCovered (request : Request) : Prop :=
  request.attributes.extended ≠ 0 → request.options.contains .useExtendedCommonAttributes = true

/-- A selection without extent records becomes a request for exactly its attributes. -/
theorem build_holds {selection : Selection} (options : Options)
    (requestable : ∀ attr ∈ selection.attributes, attr.isRequestable = true) :
    ∃ request, (Request.build selection options).outcome = .ok request ∧
      Holds request.attributes selection.attributes ∧ ExtendedCovered request := by
  have empty : Holds .empty [] := by
    intro category bit
    cases category <;> simp [AttributeSet.empty, AttributeSet.mask]
  obtain ⟨folded, outcome, holds⟩ := fold_holds empty requestable
  refine ⟨Request.ofSet folded options, ?_, clamp_holds holds requestable, ?_⟩
  · rw [Request.build, traced_bind_outcome, silently_outcome, outcome]
    rfl
  · exact options_for_on options

/-! ## What the kernel sees -/

/-- The set with the marker that volume requests need. -/
def marked (set : AttributeSet) : AttributeSet :=
  { set with volume := if set.volume != 0 then set.volume ||| volumeMarker else 0 }

theorem marked_bit (set : AttributeSet) (category : Category) :
    HasBit ((marked set).mask category) bit ↔ HasBit (set.mask category) bit ∨
      (category = .volume ∧ set.volume ≠ 0 ∧ bit = 31) := by
  cases category with
  | volume =>
    by_cases none : set.volume = 0
    · simp [marked, AttributeSet.mask, none]
    · simp [marked, AttributeSet.mask, none, volume_marker_bit]
  | _ => simp [marked, AttributeSet.mask]

/-- The marker is no attribute. -/
theorem marked_contains (set : AttributeSet) (attr : Attribute) :
    (marked set).contains attr = set.contains attr := by
  rw [Bool.eq_iff_iff, contains_iff, contains_iff, marked_bit]
  constructor
  · rintro (own | ⟨category, _, bit⟩)
    · exact own
    · exact absurd ⟨category, bit⟩ (marker_free attr)
  · exact .inl

theorem marked_fields (set : AttributeSet) : (marked set).fields = set.fields := by
  simp only [fields_eq_filter, marked_contains]

theorem marked_catalogued {set : AttributeSet} (known : Catalogued set) : Catalogued (marked set) := by
  intro category bit present
  rcases (marked_bit set category).mp present with own | ⟨volume, _, marker⟩
  · exact known category bit own
  · exact .inr ⟨volume, marker⟩

/-- The kernel takes from a call exactly the attributes of the request. -/
theorem requested_eq_marked (request : Request) (call : Call)
    (list : call.list = request.attributeList)
    (covered : request.attributes.extended ≠ 0 →
      call.options.contains .useExtendedCommonAttributes = true) :
    call.requested = marked request.attributes := by
  have volume : (if request.attributeList.volume &&& volumeMarker != 0
      then request.attributeList.volume else 0) = (marked request.attributes).volume := by
    by_cases none : request.attributes.volume = 0
    · simp [Request.attributeList, marked, none]
    · have marker : (request.attributes.volume ||| volumeMarker) &&& volumeMarker ≠ 0 := by
        rw [ne_eq, eq_zero_iff]
        intro clear
        exact clear 31 (by simp [volume_marker_bit])
      simp [Request.attributeList, marked, none, marker]
  have extended : (if call.options.contains .useExtendedCommonAttributes
      then request.attributes.extended else 0) = request.attributes.extended := by
    by_cases none : request.attributes.extended = 0
    · simp [none]
    · rw [if_pos (covered none)]
  rw [Call.requested, list, volume]
  exact congrArg _ extended

end PackedAttributes.RequestMasks
