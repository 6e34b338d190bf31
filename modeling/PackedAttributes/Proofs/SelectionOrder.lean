import Mathlib.Data.List.Dedup
import Mathlib.Data.List.Induction
import PackedAttributes.Proofs.PresentValues
import PackedAttributes.Proofs.SelectionFolding

/-! What a selection holds after any steps. Only the steps since the last one that starts anew count,
and of these the attributes that they name, each at the place where it was named first. A step that
names a whole category names none that the kernel refuses. -/
namespace PackedAttributes.SelectionOrder
open PresentValues SelectionFolding

/-! ## Steps -/

/-- A step in making a selection. -/
inductive Step where
  | clear
  | insert (attr : Attribute)
  | including (attr : Attribute)
  | insertAll (attrs : List Attribute)
  | collect (attrs : List Attribute)
  | insertCategory (category : Category)
  deriving DecidableEq

/-- The attributes of a category that are not refused, in the order of the catalogue. -/
def accepted (category : Category) : List Attribute :=
  (Attribute.inCategory category).filter (¬Refused ·)

namespace Step

def apply (selection : Selection) : Step → Selection
  | clear => .empty
  | insert attr => selection.insert attr
  | including attr => selection.including attr
  | insertAll attrs => selection.insertAll attrs
  | collect attrs => .ofList attrs
  | insertCategory category => selection.insertCategory category

/-- Whether the step forgets what was selected before. -/
def startsAnew : Step → Bool
  | clear | collect _ => true
  | _ => false

/-- The attributes that the step names one by one. -/
def given : Step → List Attribute
  | clear | insertCategory _ => []
  | insert attr | including attr => [attr]
  | insertAll attrs | collect attrs => attrs

/-- All attributes that the step names. -/
def names : Step → List Attribute
  | insertCategory category => accepted category
  | step => step.given

end Step

/-- The selection that steps make, one after the other. -/
def made (steps : List Step) : Selection :=
  steps.foldl Step.apply .empty

/-- The last step that starts anew, if there is one, and the steps behind it. -/
def current (steps : List Step) : List Step :=
  steps.foldl (fun kept step => if step.startsAnew then [step] else kept ++ [step]) []

def namesOf (steps : List Step) : List Attribute :=
  (current steps).flatMap Step.names

def givenOf (steps : List Step) : List Attribute :=
  (current steps).flatMap Step.given

/-! ## Order -/

/-- The attributes are those that were named, each once and in the order in which they were named
first. -/
structure FirstOrder (attrs named : List Attribute) : Prop where
  distinct : attrs.Nodup
  members : ∀ attr, attr ∈ attrs ↔ attr ∈ named
  ordered : attrs.Pairwise fun before behind => named.idxOf before < named.idxOf behind

theorem distinct_of_ordered {attrs named : List Attribute}
    (ordered : attrs.Pairwise fun before behind => named.idxOf before < named.idxOf behind) :
    attrs.Nodup := by
  refine ordered.imp ?_
  rintro attr _ before rfl
  exact Nat.lt_irrefl _ before

theorem first_order_empty : FirstOrder Selection.empty.attributes [] :=
  ⟨List.nodup_nil, fun _ => Iff.rfl, List.Pairwise.nil⟩

theorem first_order_insert {selection : Selection} (first : FirstOrder selection.attributes named)
    (attr : Attribute) : FirstOrder (selection.insert attr).attributes (named ++ [attr]) := by
  -- What was named before keeps its place.
  have place : ∀ other ∈ selection.attributes, (named ++ [attr]).idxOf other = named.idxOf other :=
    fun other member => List.idxOf_append_of_mem ((first.members other).mp member)
  have kept : selection.attributes.Pairwise fun before behind =>
      (named ++ [attr]).idxOf before < (named ++ [attr]).idxOf behind :=
    first.ordered.imp_of_mem fun member also earlier => by rwa [place _ member, place _ also]
  rw [Selection.insert]
  split
  · rename_i present
    have again : attr ∈ named := (first.members attr).mp (contains_iff_mem.mp present)
    refine ⟨first.distinct, fun other => ?_, kept⟩
    rw [first.members, List.mem_append, List.mem_singleton]
    exact (or_iff_left_of_imp fun same => same ▸ again).symm
  · rename_i absent
    have unnamed : attr ∉ named := fun member =>
      absent (contains_iff_mem.mpr ((first.members attr).mpr member))
    have ordered : (selection.attributes ++ [attr]).Pairwise fun before behind =>
        (named ++ [attr]).idxOf before < (named ++ [attr]).idxOf behind := by
      refine List.pairwise_append.mpr ⟨kept, List.pairwise_singleton .., ?_⟩
      intro other member _ last
      rw [List.mem_singleton.mp last, place other member, List.idxOf_append_of_notMem unnamed,
        List.idxOf_cons_self]
      exact List.idxOf_lt_length_of_mem ((first.members other).mp member)
    refine ⟨distinct_of_ordered ordered, fun other => ?_, ordered⟩
    simp only [List.mem_append, first.members]

theorem first_order_insert_all {selection : Selection}
    (first : FirstOrder selection.attributes named) (attrs : List Attribute) :
    FirstOrder (selection.insertAll attrs).attributes (named ++ attrs) := by
  induction attrs generalizing selection named with
  | nil => simpa [Selection.insertAll] using first
  | cons attr rest ih =>
    have all := ih (first_order_insert first attr)
    rwa [List.append_assoc, List.singleton_append] at all

/-- The names leave only one such order. -/
theorem first_order_unique {attrs others named : List Attribute} (first : FirstOrder attrs named)
    (second : FirstOrder others named) : attrs = others := by
  let Earlier (before behind : Attribute) : Prop := named.idxOf before < named.idxOf behind
  have irrefl : Std.Irrefl Earlier := ⟨fun _ => Nat.lt_irrefl _⟩
  have antisymm : Std.Antisymm Earlier := ⟨fun _ _ before behind =>
    absurd behind (Nat.lt_asymm before)⟩
  have left : attrs.Pairwise Earlier := first.ordered
  refine left.eq_of_mem_iff second.ordered fun attr => ?_
  rw [first.members, second.members]

/-! ## Naming many attributes -/

theorem insert_all_present {selection : Selection} {attrs : List Attribute}
    (present : ∀ attr ∈ attrs, attr ∈ selection.attributes) : selection.insertAll attrs = selection := by
  induction attrs with
  | nil => rfl
  | cons attr rest ih =>
    obtain ⟨own, others⟩ := List.forall_mem_cons.mp present
    have kept : selection.insert attr = selection := if_pos (contains_iff_mem.mpr own)
    calc
      selection.insertAll (attr :: rest) = (selection.insert attr).insertAll rest := rfl
      _ = selection := by rw [kept, ih others]

/-- Of different attributes, those that are not selected yet are added as they come. -/
theorem insert_all_distinct {attrs : List Attribute} (selection : Selection)
    (distinct : attrs.Nodup) : (selection.insertAll attrs).attributes =
      selection.attributes ++ attrs.filter (· ∉ selection.attributes) := by
  induction attrs generalizing selection with
  | nil => simp [Selection.insertAll]
  | cons attr rest ih =>
    obtain ⟨fresh, others⟩ := List.nodup_cons.mp distinct
    have first : selection.insertAll (attr :: rest) = (selection.insert attr).insertAll rest := rfl
    rw [first, ih _ others, Selection.insert]
    split
    · rename_i present
      rw [List.filter_cons_of_neg (by simpa using contains_iff_mem.mp present)]
    · rename_i absent
      have unselected : attr ∉ selection.attributes := fun member =>
        absent (contains_iff_mem.mpr member)
      have same : rest.filter (· ∉ selection.attributes ++ [attr]) =
          rest.filter (· ∉ selection.attributes) := by
        refine List.filter_congr fun other member => ?_
        have different : other ≠ attr := fun same => fresh (same ▸ member)
        simp [different]
      rw [same, List.filter_cons_of_pos (by simpa using unselected), List.append_assoc,
        List.singleton_append]

theorem mem_accepted_iff :
    attr ∈ accepted category ↔ attr ∈ Attribute.inCategory category ∧ ¬Refused attr := by
  simp [accepted]

theorem accepted_distinct (category : Category) : (accepted category).Nodup :=
  (ordered_nodup (category_ordered category)).filter _

/-! ## Steps and their names -/

theorem insert_category_names (selection : Selection) (category : Category) :
    selection.insertCategory category = selection.insertAll (accepted category) := by
  have requestable : (Attribute.inCategory category).filter Attribute.isRequestable =
      accepted category := List.filter_congr fun attr _ => by simp [refused_iff]
  rw [Selection.insertCategory, requestable]

/-- A step adds what it names to what it keeps. -/
theorem apply_adds_names (selection : Selection) (step : Step) :
    step.apply selection =
      (if step.startsAnew then .empty else selection).insertAll step.names := by
  cases step with
  | insertCategory category => exact insert_category_names selection category
  | _ => rfl

theorem made_append (steps : List Step) (step : Step) :
    made (steps ++ [step]) = step.apply (made steps) :=
  List.foldl_concat ..

theorem current_append (steps : List Step) (step : Step) : current (steps ++ [step]) =
    if step.startsAnew then [step] else current steps ++ [step] :=
  List.foldl_concat ..

theorem names_of_append (steps : List Step) (step : Step) :
    namesOf (steps ++ [step]) = (if step.startsAnew then [] else namesOf steps) ++ step.names := by
  rw [namesOf, current_append]
  split <;> simp [namesOf]

theorem made_first_order (steps : List Step) :
    FirstOrder (made steps).attributes (namesOf steps) := by
  induction steps using List.reverseRecOn with
  | nil => exact first_order_empty
  | append_singleton steps step ih =>
    rw [made_append, names_of_append, apply_adds_names]
    split
    · exact first_order_insert_all first_order_empty step.names
    · exact first_order_insert_all ih step.names

/-- Nothing is refused that was named with its category only. -/
theorem names_accepted_iff {steps : List Step} :
    (∀ attr ∈ namesOf steps, ¬Refused attr) ↔ ∀ attr ∈ givenOf steps, ¬Refused attr := by
  have each (step : Step) :
      (∀ attr ∈ step.names, ¬Refused attr) ↔ ∀ attr ∈ step.given, ¬Refused attr := by
    cases step with
    | insertCategory category => simp [Step.names, Step.given, mem_accepted_iff]
    | _ => exact Iff.rfl
  simp only [namesOf, givenOf, List.forall_mem_flatMap, each]

theorem built_exists_iff {selection : Selection} {options : Options} :
    (∃ request, (Request.build selection options).outcome = .ok request) ↔
      ∀ attr ∈ selection.attributes, ¬Refused attr := by
  have refusals := refused_among selection options
  cases outcome : (Request.build selection options).outcome with
  | error failure =>
    obtain ⟨attr, member, refused⟩ := refusals.mp ⟨failure, outcome⟩
    exact iff_of_false nofun fun none => none attr member refused
  | ok request =>
    refine iff_of_true ⟨request, rfl⟩ fun attr member refused => ?_
    obtain ⟨failure, error⟩ := refusals.mpr ⟨attr, member, refused⟩
    cases outcome.symm.trans error

/-! ## Selections -/

/-- Whatever steps were made, the selection holds the attributes named since the last step that starts
anew, each once and in the order in which they were named first, and nothing else decides what it
holds. A further step changes nothing exactly if it names nothing new, and a category adds its
attributes in the order of the catalogue, except those that are refused or were named before. So only
attributes that were named one by one can keep a selection from becoming a request. -/
theorem selection_keeps_first_order (steps : List Step) :
    let selection := made steps
    let named := namesOf steps
    FirstOrder selection.attributes named ∧
    (∀ attrs, FirstOrder attrs named → attrs = selection.attributes) ∧
    (∀ attr, selection.contains attr = true ↔ attr ∈ named) ∧
    selection.size = selection.attributes.length ∧ selection.size = named.dedup.length ∧
    (selection.isEmpty = true ↔ named = []) ∧
    (∀ step : Step, step.startsAnew = false →
      (made (steps ++ [step]) = selection ↔ ∀ attr ∈ step.names, attr ∈ named)) ∧
    (∀ category, (selection.insertCategory category).attributes = selection.attributes ++
      (Attribute.inCategory category).filter (fun attr => ¬Refused attr ∧ attr ∉ named)) ∧
    ∀ options, (∃ request, (Request.build selection options).outcome = .ok request) ↔
      ∀ attr ∈ givenOf steps, ¬Refused attr := by
  intro selection named
  have first : FirstOrder selection.attributes named := made_first_order steps
  refine ⟨first, fun attrs other => first_order_unique other first,
    fun attr => contains_iff_mem.trans (first.members attr), rfl, ?_, ?_, ?_, ?_, ?_⟩
  · have same : selection.attributes.Perm named.dedup := by
      refine (List.perm_ext_iff_of_nodup first.distinct named.nodup_dedup).mpr fun attr => ?_
      rw [first.members, List.mem_dedup]
    exact same.length_eq
  · rw [Selection.isEmpty, List.isEmpty_iff]
    simp only [List.eq_nil_iff_forall_not_mem, first.members]
  · intro step continues
    have extended : made (steps ++ [step]) = selection.insertAll step.names := by
      rw [made_append, apply_adds_names, continues]
      rfl
    constructor
    · intro same attr member
      have all := made_first_order (steps ++ [step])
      rw [← first.members, ← same, all.members, names_of_append]
      exact List.mem_append_right _ member
    · intro known
      rw [extended]
      exact insert_all_present fun attr member => (first.members attr).mpr (known attr member)
  · intro category
    rw [insert_category_names, insert_all_distinct selection (accepted_distinct category), accepted,
      List.filter_filter]
    simp only [first.members, Bool.decide_and, Bool.and_comm]
  · intro options
    rw [built_exists_iff, ← names_accepted_iff]
    simp only [first.members]
    exact Iff.rfl

/-- A refused attribute is forgotten, and a category that was named in part is completed. -/
theorem completed_category_in_first_order :
    let steps : List Step := [.insert (.file .dataExtents),
      .collect [.common .name, .directory .mountStatus, .common .name],
      .insertCategory .directory, .including (.volume .size), .insert (.directory .linkCount)]
    let named : List Attribute := [.common .name, .directory .mountStatus, .directory .linkCount,
      .directory .entryCount, .directory .allocationSize, .directory .ioBlockSize,
      .directory .dataLength, .volume .size]
    FirstOrder named (namesOf steps) ∧ (made steps).attributes = named ∧
    (∀ attr ∈ Step.names (.insertCategory .directory), attr ∈ namesOf steps) ∧
    made (steps ++ [.insertCategory .directory]) = made steps ∧
    (∀ attr ∈ givenOf steps, ¬Refused attr) ∧
    ∃ request, (Request.build (made steps) .none).outcome = .ok request := by
  intro steps named
  have order : FirstOrder named (namesOf steps) :=
    ⟨by decide +kernel, by decide +kernel, by decide +kernel⟩
  have known : ∀ attr ∈ Step.names (.insertCategory .directory), attr ∈ namesOf steps := by
    decide +kernel
  have accepted : ∀ attr ∈ givenOf steps, ¬Refused attr := by decide +kernel
  obtain ⟨_, unique, _, _, _, _, again, _, built⟩ := selection_keeps_first_order steps
  exact ⟨order, (unique named order).symm, known, (again _ rfl).mpr known, accepted,
    (built .none).mpr accepted⟩

end PackedAttributes.SelectionOrder
