import PackedAttributes.Proofs.RequestMasks

/-! What holds of every request, whichever way it was made. A request is settled when the kernel
accepts all its bits and its options are those of the caller with nothing but what extended attributes
need. Each way to make a request settles it, and a settled request is what its own masks and options
make. -/
namespace PackedAttributes.RequestInvariants
open ActivityOutcomes CatalogMasks RequestMasks

/-- The requests that can be made with the options of a caller: from a selection, from raw masks, and
from these by asking which attributes are returned, any number of times. -/
inductive Made (options : Options) : Request → Prop where
  | built (outcome : (Request.build selection options).outcome = .ok request) : Made options request
  | masked (set : AttributeSet) : Made options (Request.ofSet set options)
  | returning (made : Made options request) : Made options request.withReturnedAttributes

/-! ## Accepted sets -/

/-- The kernel accepts every bit of the set. -/
def Accepted (set : AttributeSet) : Prop :=
  ∀ category bit, HasBit (set.mask category) bit → HasBit category.validMask bit

theorem set_ext {left right : AttributeSet}
    (same : ∀ category bit, HasBit (left.mask category) bit ↔ HasBit (right.mask category) bit) :
    left = right := by
  have masks (category : Category) : left.mask category = right.mask category :=
    mask_ext (same category)
  cases left
  cases right
  rw [AttributeSet.mk.injEq]
  exact ⟨masks .common, masks .volume, masks .directory, masks .file, masks .extended⟩

theorem clamp_accepted (set : AttributeSet) : Accepted set.clamp :=
  fun category _ present => ((clamp_bit set category).mp present).2

/-- Dropping what the kernel refuses changes nothing where it refuses nothing. -/
theorem clamp_of_accepted {set : AttributeSet} (accepted : Accepted set) : set.clamp = set := by
  apply set_ext
  intro category bit
  rw [clamp_bit]
  exact and_iff_left_of_imp (accepted category bit)

theorem insert_accepted {set : AttributeSet} {attr : Attribute} (accepted : Accepted set)
    (requestable : attr.isRequestable = true) : Accepted (set.insert attr) := by
  intro category bit present
  rcases (insert_bit set attr).mp present with old | ⟨rfl, rfl⟩
  · exact accepted category bit old
  · exact requestable_bit requestable

theorem insert_insert (set : AttributeSet) (attr : Attribute) :
    (set.insert attr).insert attr = set.insert attr := by
  apply set_ext
  intro category bit
  rw [insert_bit, insert_bit, or_assoc, or_self]

/-! ## Options of a set -/

theorem insert_insert_option (options : Options) (flag : OptionFlag) :
    (options.insert flag).insert flag = options.insert flag := by
  simp only [Options.insert, UInt64.or_assoc, UInt64.or_self]

theorem options_for_again (set : AttributeSet) (options : Options) :
    optionsFor set (optionsFor set options) = optionsFor set options := by
  unfold optionsFor
  split
  · exact insert_insert_option options _
  · rfl

theorem options_for_others (set : AttributeSet) (options : Options) :
    (optionsFor set options).bits &&& ~~~0x20 = options.bits &&& ~~~0x20 := by
  unfold optionsFor
  split
  · -- The option that may have been added is the one that is cut out again.
    have own : (OptionFlag.mask .useExtendedCommonAttributes).toBitVec &&&
      (~~~0x20 : UInt64).toBitVec = 0 := by decide
    rw [Options.insert, ← UInt64.toBitVec_inj, UInt64.toBitVec_and, UInt64.toBitVec_or,
      BitVec.and_or_distrib_right, own, UInt64.toBitVec_and]
    exact BitVec.or_zero
  · rfl

theorem options_for_changed {set : AttributeSet} {options : Options}
    (changed : optionsFor set options ≠ options) : set.extended ≠ 0 := by
  intro none
  exact changed (if_neg (by simp [none]))

/-! ## Settled requests -/

/-- The kernel accepts all bits of the request, and its options are those of the caller with what the
set needs. -/
structure Settled (options : Options) (request : Request) : Prop where
  accepted : Accepted request.attributes
  options_follow : request.options = optionsFor request.attributes options

theorem of_set_settled (set : AttributeSet) (options : Options) :
    Settled options (Request.ofSet set options) :=
  ⟨clamp_accepted set, rfl⟩

/-- A selection becomes a request by way of a set. -/
theorem built_of_set (built : (Request.build selection options).outcome = .ok request) :
    ∃ set, request = Request.ofSet set options := by
  rw [Request.build, traced_bind_outcome] at built
  obtain ⟨set, _, made⟩ := except_bind_ok_iff.mp built
  cases made
  exact ⟨set, rfl⟩

theorem returning_settled (settled : Settled options request) :
    Settled options request.withReturnedAttributes :=
  ⟨insert_accepted settled.accepted (by decide), settled.options_follow⟩

theorem made_settled (made : Made options request) : Settled options request := by
  induction made with
  | built outcome =>
    obtain ⟨set, rfl⟩ := built_of_set outcome
    exact of_set_settled set options
  | masked set => exact of_set_settled set options
  | returning _ ih => exact returning_settled ih

/-- A settled request is what its own masks and options make. -/
theorem of_set_of_settled (settled : Settled options request) :
    Request.ofSet request.attributes request.options = request := by
  have kept : request.attributes.clamp = request.attributes := clamp_of_accepted settled.accepted
  have follow : optionsFor request.attributes request.options = request.options := by
    rw [settled.options_follow, options_for_again]
  calc
    Request.ofSet request.attributes request.options
      = ⟨request.attributes.clamp, optionsFor request.attributes.clamp request.options⟩ := rfl
    _ = request := by rw [kept, follow]

/-- However a request was made, its masks stay within what the kernel accepts, its options differ from
those of the caller in nothing but the option that extended attributes need, and it is what its own
masks and options make. -/
theorem made_request_settled (made : Made options request) :
    (∀ category : Category, request.attributes.mask category &&& ~~~category.validMask = 0) ∧
    (request.attributes.extended ≠ 0 → request.options.bits &&& 0x20 = 0x20) ∧
    request.options.bits &&& ~~~0x20 = options.bits &&& ~~~0x20 ∧
    (request.options ≠ options → request.attributes.extended ≠ 0) ∧
    request.withReturnedAttributes =
      ⟨{ request.attributes with common := request.attributes.common ||| 0x80000000 },
        request.options⟩ ∧
    request.withReturnedAttributes.withReturnedAttributes = request.withReturnedAttributes ∧
    Request.ofSet request.attributes request.options = request ∧
    request.attributeList =
      { maskCount := 5
        reserved := 0
        common := request.attributes.common
        volume :=
          if request.attributes.volume = 0 then 0 else request.attributes.volume ||| 0x80000000
        directory := request.attributes.directory
        file := request.attributes.file
        fork := request.attributes.extended } := by
  have settled := made_settled made
  have follow := settled.options_follow
  refine ⟨fun category => and_not_eq_zero_iff.mpr (settled.accepted category), ?_, ?_, ?_, rfl, ?_,
    of_set_of_settled settled, ?_⟩
  · intro extended
    have on := options_for_on options extended
    rw [← follow] at on
    exact beq_iff_eq.mp on
  · rw [follow, options_for_others]
  · rw [follow]
    exact options_for_changed
  · have twice := insert_insert request.attributes .returnedAttributes
    exact congrArg (Request.mk · request.options) twice
  · by_cases none : request.attributes.volume = 0
    · simp [Request.attributeList, none]
    · simp [Request.attributeList, none, volumeMarker]

/-- Bits that the kernel refuses neither reach the request nor change its options. -/
theorem raw_masks_settled :
    let options : Options := ⟨0x8000000000000001⟩
    let request := Request.ofSet ⟨8, 0xFFFFFFFF, 0xFFFFFFFF, 0xFFFFFFFF, 0xFFFFE003⟩ options
    Made options request.withReturnedAttributes ∧
    request.withReturnedAttributes.attributes = ⟨0x80000008, 0xF0B7FFFF, 0x3F, 0x37FF, 0⟩ ∧
    request.withReturnedAttributes.options = options := by
  intro options request
  have made : Made options request.withReturnedAttributes := .returning (.masked _)
  obtain ⟨_, _, _, changed, _⟩ := made_request_settled made
  exact ⟨made, by decide, Classical.byContradiction fun other => changed other (by decide)⟩

end PackedAttributes.RequestInvariants
