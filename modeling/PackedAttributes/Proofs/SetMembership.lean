import Mathlib.Data.List.Induction
import PackedAttributes.Proofs.PresentValues
import PackedAttributes.Proofs.RequestInvariants

/-! What a set holds after any changes. Only the last change that names an attribute decides whether
the attribute is a member, and a bit that belongs to none of the named attributes stays as it was,
even where no attribute has it. So attributes never get in each other's way: changes by different
attributes may be made in any order, before or after the refused bits are dropped. -/
namespace PackedAttributes.SetMembership
open CatalogMasks PresentValues RequestMasks RequestInvariants

/-! ## Changes -/

/-- A change of a set by one attribute. -/
inductive Change where
  | insert (attr : Attribute)
  | remove (attr : Attribute)
  deriving DecidableEq

namespace Change

def attr : Change → Attribute
  | insert attr | remove attr => attr

def apply (set : AttributeSet) : Change → AttributeSet
  | insert attr => set.insert attr
  | remove attr => set.remove attr

/-- The change is about the attribute that has the bit in the category. -/
def Touches (change : Change) (category : Category) (bit : Nat) : Prop :=
  change.attr.category = category ∧ change.attr.bit = bit

instance (change : Change) : Decidable (change.Touches category bit) :=
  inferInstanceAs (Decidable (_ ∧ _))

end Change

/-- The set after changes that are made one after the other. -/
def changed (set : AttributeSet) (changes : List Change) : AttributeSet :=
  changes.foldl Change.apply set

/-- The changes by one attribute, in their order. -/
def naming (attr : Attribute) (changes : List Change) : List Change :=
  changes.filter fun change => change.attr == attr

def lastNaming? (attr : Attribute) (changes : List Change) : Option Change :=
  (naming attr changes).getLast?

/-! ## One change -/

theorem remove_bit (set : AttributeSet) (attr : Attribute) :
    HasBit ((set.remove attr).mask category) bit ↔
      HasBit (set.mask category) bit ∧ ¬(attr.category = category ∧ attr.bit = bit) := by
  by_cases own : attr.category = category
  · subst own
    rw [AttributeSet.remove, map_mask_own, has_bit_and_not, has_bit_mask]
    simp [eq_comm]
  · rw [AttributeSet.remove, map_mask_other set _ (Ne.symm own)]
    simp [own]

theorem apply_untouched {set : AttributeSet} {change : Change}
    (untouched : ¬change.Touches category bit) :
    HasBit ((change.apply set).mask category) bit ↔ HasBit (set.mask category) bit := by
  cases change with
  | insert attr =>
    rw [Change.apply, insert_bit]
    exact or_iff_left untouched
  | remove attr =>
    rw [Change.apply, remove_bit]
    exact and_iff_left untouched

/-- A change decides about its own attribute, and about no other one. -/
theorem apply_contains_iff (set : AttributeSet) (change : Change) (attr : Attribute) :
    (change.apply set).contains attr = true ↔
      change = .insert attr ∨ (change.attr ≠ attr ∧ set.contains attr = true) := by
  by_cases own : change.attr = attr
  · subst own
    rw [contains_iff]
    cases change with
    | insert attr => simp [Change.apply, Change.attr, insert_bit]
    | remove attr => simp [Change.apply, Change.attr, remove_bit]
  · have untouched : ¬change.Touches attr.category attr.bit := fun touched =>
      own (bit_injective touched.1 touched.2)
    have other : change ≠ .insert attr := by
      rintro rfl
      exact own rfl
    rw [contains_iff, apply_untouched untouched, ← contains_iff]
    simp [own, other]

theorem apply_clamp {change : Change}
    (valid : ∀ attr, change = .insert attr → attr.isRequestable = true) (set : AttributeSet) :
    (change.apply set).clamp = change.apply set.clamp := by
  apply set_ext
  intro category bit
  cases change with
  | insert attr =>
    have kept : attr.category = category ∧ attr.bit = bit → HasBit category.validMask bit := by
      rintro ⟨rfl, rfl⟩
      exact requestable_bit (valid attr rfl)
    rw [clamp_bit, Change.apply, Change.apply, insert_bit, insert_bit, clamp_bit, or_and_right,
      and_iff_left_of_imp kept]
  | remove attr =>
    rw [clamp_bit, Change.apply, Change.apply, remove_bit, remove_bit, clamp_bit, and_right_comm]

/-! ## All changes -/

theorem changed_append (set : AttributeSet) (changes : List Change) (change : Change) :
    changed set (changes ++ [change]) = change.apply (changed set changes) :=
  List.foldl_concat ..

theorem last_naming_append (attr : Attribute) (changes : List Change) (change : Change) :
    lastNaming? attr (changes ++ [change]) =
      if change.attr = attr then some change else lastNaming? attr changes := by
  by_cases own : change.attr = attr <;> simp [lastNaming?, naming, own]

theorem changed_contains_iff (set : AttributeSet) (changes : List Change) (attr : Attribute) :
    (changed set changes).contains attr = true ↔
      lastNaming? attr changes = some (.insert attr) ∨
        (lastNaming? attr changes = none ∧ set.contains attr = true) := by
  -- The last change comes first in this induction, as it is the one that may decide.
  induction changes using List.reverseRecOn with
  | nil => simp [changed, lastNaming?, naming]
  | append_singleton changes change ih =>
    rw [changed_append, apply_contains_iff, ih, last_naming_append]
    by_cases own : change.attr = attr
    · simp [own]
    · have other : change ≠ .insert attr := by
        rintro rfl
        exact own rfl
      simp [own, other]

theorem changed_untouched {changes : List Change} (set : AttributeSet)
    (untouched : ∀ change ∈ changes, ¬change.Touches category bit) :
    HasBit ((changed set changes).mask category) bit ↔ HasBit (set.mask category) bit := by
  induction changes generalizing set with
  | nil => exact Iff.rfl
  | cons change rest ih =>
    obtain ⟨own, others⟩ := List.forall_mem_cons.mp untouched
    exact (ih (change.apply set) others).trans (apply_untouched own)

/-- Only the order of the changes by the same attribute matters. -/
theorem changed_reordered {changes others : List Change} (set : AttributeSet)
    (same : ∀ attr, naming attr changes = naming attr others) :
    changed set changes = changed set others := by
  apply set_ext
  intro category bit
  by_cases known : ∃ attr : Attribute, attr.category = category ∧ attr.bit = bit
  · obtain ⟨attr, rfl, rfl⟩ := known
    rw [← contains_iff, ← contains_iff, changed_contains_iff, changed_contains_iff, lastNaming?,
      lastNaming?, same]
  · have foreign (all : List Change) : ∀ change ∈ all, ¬change.Touches category bit :=
      fun change _ touched => known ⟨change.attr, touched⟩
    rw [changed_untouched set (foreign changes), changed_untouched set (foreign others)]

theorem changed_clamp {changes : List Change} (set : AttributeSet)
    (valid : ∀ attr, .insert attr ∈ changes → attr.isRequestable = true) :
    (changed set changes).clamp = changed set.clamp changes := by
  induction changes generalizing set with
  | nil => rfl
  | cons change rest ih =>
    have own : ∀ attr, change = .insert attr → attr.isRequestable = true := by
      rintro attr rfl
      exact valid attr List.mem_cons_self
    have others : ∀ attr, .insert attr ∈ rest → attr.isRequestable = true := fun attr member =>
      valid attr (List.mem_cons_of_mem _ member)
    calc
      (changed set (change :: rest)).clamp
        = changed (change.apply set).clamp rest := ih (change.apply set) others
      _ = changed set.clamp (change :: rest) := by rw [apply_clamp own]; rfl

theorem members_listed (set : AttributeSet) (category : Category) :
    (set.members category).Sublist (Attribute.inCategory category) ∧ (set.members category).Nodup :=
  ⟨List.filter_sublist, (ordered_nodup (category_ordered category)).filter _⟩

/-- After any changes of any set, an attribute is a member exactly if the last change that names it
inserts it, or if none names it and it was a member before. All bits that no change is about are as
before. The members of a category come in the order of the catalogue, each once. Changes by different
attributes may be exchanged, and dropping the refused bits may be exchanged with changes that insert
none of them. -/
theorem members_follow_changes (set : AttributeSet) (changes : List Change) :
    let final := changed set changes
    (∀ attr, final.contains attr = true ↔
      lastNaming? attr changes = some (.insert attr) ∨
        (lastNaming? attr changes = none ∧ set.contains attr = true)) ∧
    (∀ category bit, (∀ change ∈ changes, ¬change.Touches category bit) →
      (HasBit (final.mask category) bit ↔ HasBit (set.mask category) bit)) ∧
    (∀ category, (final.members category).Sublist (Attribute.inCategory category) ∧
      (final.members category).Nodup ∧ ∀ attr, attr ∈ final.members category ↔
        attr.category = category ∧ final.contains attr = true) ∧
    (∀ others, (∀ attr, naming attr changes = naming attr others) → changed set others = final) ∧
    set.clamp.clamp = set.clamp ∧
    ((∀ attr, .insert attr ∈ changes → attr.isRequestable = true) →
      final.clamp = changed set.clamp changes) := by
  intro final
  refine ⟨changed_contains_iff set changes, fun _ _ => changed_untouched set, ?_, ?_,
    clamp_of_accepted (clamp_accepted set), changed_clamp set⟩
  · intro category
    obtain ⟨ordered, distinct⟩ := members_listed final category
    exact ⟨ordered, distinct, fun attr => mem_members_iff⟩
  · intro others same
    exact (changed_reordered set same).symm

/-- A bit that no attribute has and a bit that another category uses are kept, whichever of the
attributes is changed first. -/
theorem foreign_bits_kept :
    let set : AttributeSet := ⟨5, 0x01000004, 0, 0x8000, 0⟩
    let changes : List Change := [.insert (.common .objectType), .remove (.volume .size),
      .remove (.common .name), .insert (.common .name), .remove (.common .objectType)]
    let others : List Change := [.remove (.common .name), .insert (.common .objectType),
      .insert (.common .name), .remove (.common .objectType), .remove (.volume .size)]
    let final := changed set changes
    final = ⟨5, 0x01000000, 0, 0x8000, 0⟩ ∧
    final.contains (.common .name) = true ∧ ¬final.contains (.common .objectType) = true ∧
    HasBit (final.mask .volume) 24 ∧ HasBit (final.mask .common) 2 ∧
    (∀ attr, naming attr changes = naming attr others) ∧ changed set others = final ∧
    (∀ attr, .insert attr ∈ changes → attr.isRequestable = true) ∧
    final.clamp = changed set.clamp changes := by
  intro set changes others final
  have same : ∀ attr, naming attr changes = naming attr others := by decide +kernel
  have valid : ∀ attr, .insert attr ∈ changes → attr.isRequestable = true := by decide +kernel
  have foreign : ∀ change ∈ changes, ¬change.Touches .volume 24 := by decide +kernel
  have shared : ∀ change ∈ changes, ¬change.Touches .common 2 := by decide +kernel
  obtain ⟨contains, kept, _, exchanged, _, clamped⟩ := members_follow_changes set changes
  refine ⟨by decide +kernel, ?_, ?_, ?_, ?_, same, exchanged others same, valid, clamped valid⟩
  · exact (contains _).mpr (.inl (by decide +kernel))
  · rw [contains]
    decide +kernel
  · exact (kept .volume 24 foreign).mpr (by decide)
  · exact (kept .common 2 shared).mpr (by decide)

end PackedAttributes.SetMembership
