import PackedAttributes.Proofs.RequestInvariants

/-! What a selection becomes. Folding it into masks ends at the first attribute that the kernel
refuses; otherwise the masks hold the selected attributes and nothing else. So a request tells neither
the order in which attributes were named nor how often. -/
namespace PackedAttributes.SelectionFolding
open ActivityOutcomes CatalogMasks RequestMasks RequestInvariants

/-! ## Refused attributes -/

/-- The mask of the attribute is not within the valid mask of its category. -/
def Refused (attr : Attribute) : Prop :=
  attr.mask &&& ~~~attr.category.validMask ≠ 0

instance : DecidablePred Refused :=
  fun _ => inferInstanceAs (Decidable (_ ≠ _))

theorem refused_iff {attr : Attribute} : Refused attr ↔ attr.isRequestable = false := by
  revert attr
  decide +kernel

/-- The attribute is refused and all attributes before it are not. -/
def FirstRefused (attrs : List Attribute) (attr : Attribute) : Prop :=
  ∃ before behind, attrs = before ++ attr :: behind ∧ Refused attr ∧
    ∀ earlier ∈ before, ¬Refused earlier

/-- Looks for the first attribute that is refused. -/
def firstRefused? (attrs : List Attribute) : Option Attribute :=
  attrs.find? (fun attr => !attr.isRequestable)

theorem first_refused_iff {attrs : List Attribute} :
    firstRefused? attrs = some attr ↔ FirstRefused attrs attr := by
  simp only [firstRefused?, List.find?_eq_some_iff_append, FirstRefused, refused_iff,
    Bool.not_eq_true', Bool.not_not, Bool.not_eq_false]
  constructor
  · rintro ⟨refused, before, behind, split, accepted⟩
    exact ⟨before, behind, split, refused, accepted⟩
  · rintro ⟨before, behind, split, refused, accepted⟩
    exact ⟨refused, before, behind, split, accepted⟩

theorem first_refused_none {attrs : List Attribute} :
    firstRefused? attrs = none ↔ ∀ attr ∈ attrs, attr.isRequestable = true := by
  simp [firstRefused?]

/-- Folding goes through all attributes, or ends at the first one that is refused. -/
theorem fold_outcome (set : AttributeSet) (attrs : List Attribute) :
    Request.fold set attrs =
      match firstRefused? attrs with
      | some attr => .error (.invalidAttribute attr)
      | none => .ok (attrs.foldl AttributeSet.insert set) := by
  induction attrs generalizing set with
  | nil => rfl
  | cons attr rest ih =>
    rw [Request.fold, firstRefused?, List.find?_cons, List.foldl_cons]
    cases attr.isRequestable with
    | false => rfl
    | true => exact ih (set.insert attr)

/-! ## Requests -/

theorem build_outcome (selection : Selection) (options : Options) :
    (Request.build selection options).outcome =
      (Request.fold .empty selection.attributes).map (Request.ofSet · options) := by
  rw [Request.build, traced_bind_outcome, silently_outcome]
  cases Request.fold .empty selection.attributes <;> rfl

theorem build_error_iff {failure : Failure} : (Request.build selection options).outcome = .error failure ↔
    ∃ attr, FirstRefused selection.attributes attr ∧ failure = .invalidAttribute attr := by
  rw [build_outcome, except_map_error_iff, fold_outcome]
  simp only [← first_refused_iff]
  cases firstRefused? selection.attributes with
  | none => simp
  | some attr => simp [eq_comm]

/-- A request holds the attributes of the selection that it was built from. -/
theorem built_holds (built : (Request.build selection options).outcome = .ok request) :
    Holds request.attributes selection.attributes := by
  have requestable : ∀ attr ∈ selection.attributes, attr.isRequestable = true := by
    rw [← first_refused_none]
    cases refused : firstRefused? selection.attributes with
    | none => rfl
    | some attr =>
      rw [build_error_iff.mpr ⟨attr, first_refused_iff.mp refused, rfl⟩] at built
      cases built
  obtain ⟨other, outcome, holds, _⟩ := build_holds options requestable
  rw [built] at outcome
  cases outcome
  exact holds

theorem holds_unique {left right : AttributeSet} (first : Holds left attrs)
    (second : Holds right others) (same : ∀ attr, attr ∈ attrs ↔ attr ∈ others) : left = right := by
  apply set_ext
  intro category bit
  rw [first, second]
  simp only [same]

/-- The masks of a request decide its options. -/
theorem built_unique {selection other : Selection}
    (first : (Request.build selection options).outcome = .ok request)
    (second : (Request.build other options).outcome = .ok again)
    (same : ∀ attr, attr ∈ selection.attributes ↔ attr ∈ other.attributes) : request = again := by
  have attributes : request.attributes = again.attributes :=
    holds_unique (built_holds first) (built_holds second) same
  have follow := (made_settled (.built first)).options_follow
  rw [attributes, ← (made_settled (.built second)).options_follow] at follow
  cases request
  cases again
  exact congr (congrArg Request.mk attributes) follow

/-- Two selections become the same request, or neither becomes one. -/
def BuiltAlike (options : Options) (selection other : Selection) : Prop :=
  (∃ request, (Request.build selection options).outcome = .ok request ∧
    (Request.build other options).outcome = .ok request) ∨
  ((∃ failure, (Request.build selection options).outcome = .error failure) ∧
    ∃ failure, (Request.build other options).outcome = .error failure)

theorem refused_among (selection : Selection) (options : Options) :
    (∃ failure, (Request.build selection options).outcome = .error failure) ↔
      ∃ attr ∈ selection.attributes, Refused attr := by
  simp only [build_error_iff, ← first_refused_iff, refused_iff]
  constructor
  · rintro ⟨_, attr, found, _⟩
    exact ⟨attr, List.mem_of_find?_eq_some found, by simpa using List.find?_some found⟩
  · rintro ⟨attr, member, refused⟩
    have some : (firstRefused? selection.attributes).isSome = true :=
      List.find?_isSome.mpr ⟨attr, member, by simpa using refused⟩
    obtain ⟨first, found⟩ := Option.isSome_iff_exists.mp some
    exact ⟨_, first, found, rfl⟩

theorem built_alike {selection other : Selection} (options : Options)
    (same : ∀ attr, attr ∈ selection.attributes ↔ attr ∈ other.attributes) :
    BuiltAlike options selection other := by
  have refusals := refused_among selection options
  simp only [same, ← refused_among other options] at refusals
  cases first : (Request.build selection options).outcome with
  | error failure => exact .inr ⟨⟨failure, first⟩, refusals.mp ⟨failure, first⟩⟩
  | ok request =>
    cases second : (Request.build other options).outcome with
    | error failure =>
      obtain ⟨_, refused⟩ := refusals.mpr ⟨failure, second⟩
      rw [first] at refused
      cases refused
    | ok again =>
      obtain rfl := built_unique first second same
      exact .inl ⟨request, first, second⟩

/-! ## Naming attributes -/

theorem contains_iff_mem {selection : Selection} :
    selection.contains attr = true ↔ attr ∈ selection.attributes :=
  List.contains_iff_mem

/-- Naming an attribute that is selected already changes nothing, so only the first time counts. -/
theorem insert_find (selection : Selection) (attr : Attribute) (wanted : Attribute → Bool) :
    (selection.insert attr).attributes.find? wanted =
      (selection.attributes.find? wanted).or ([attr].find? wanted) := by
  rw [Selection.insert]
  split
  · rename_i present
    by_cases sought : wanted attr = true
    · have found : (selection.attributes.find? wanted).isSome = true :=
        List.find?_isSome.mpr ⟨attr, contains_iff_mem.mp present, sought⟩
      rw [Option.or_of_isSome found]
    · simp [sought]
  · exact List.find?_append

theorem insert_all_find (selection : Selection) (attrs : List Attribute)
    (wanted : Attribute → Bool) :
    (selection.insertAll attrs).attributes.find? wanted =
      (selection.attributes.find? wanted).or (attrs.find? wanted) := by
  induction attrs generalizing selection with
  | nil => simp [Selection.insertAll]
  | cons attr rest ih =>
    have first : selection.insertAll (attr :: rest) = (selection.insert attr).insertAll rest := rfl
    rw [first, ih, insert_find, Option.or_assoc, ← List.find?_append, List.singleton_append]

theorem of_list_find (attrs : List Attribute) (wanted : Attribute → Bool) :
    (Selection.ofList attrs).attributes.find? wanted = attrs.find? wanted :=
  insert_all_find .empty attrs wanted

theorem mem_of_list {attrs : List Attribute} :
    attr ∈ (Selection.ofList attrs).attributes ↔ attr ∈ attrs := by
  -- An attribute is a member exactly if looking for it finds something.
  have searched (among : List Attribute) :
      attr ∈ among ↔ (among.find? (· == attr)).isSome = true := by
    simp
  rw [searched, of_list_find, ← searched]

/-! ## Selections -/

/-- A request is refused exactly for the first attribute of the selection that the kernel refuses.
Otherwise it holds the selected attributes, each category in the order of the catalogue, and no other
bit. Only the members of the selection matter: however often and in whatever order they were named,
the request is the same. -/
theorem selection_folded_exactly (selection : Selection) (options : Options) :
    let built := (Request.build selection options).outcome
    (∀ failure, built = .error failure ↔
      ∃ attr, FirstRefused selection.attributes attr ∧ failure = .invalidAttribute attr) ∧
    ((∃ failure, built = .error failure) ↔ ∃ attr, selection.contains attr = true ∧ Refused attr) ∧
    (∀ request, built = .ok request →
      (∀ attr, request.attributes.contains attr = selection.contains attr) ∧
      (∀ category, request.attributes.members category =
        (Attribute.inCategory category).filter selection.contains) ∧
      (∀ category bit, HasBit (request.attributes.mask category) bit →
        ∃ attr, selection.contains attr = true ∧ attr.category = category ∧ attr.bit = bit) ∧
      ¬HasBit request.attributes.volume 31) ∧
    (∀ other : Selection, (∀ attr, other.contains attr = selection.contains attr) →
      BuiltAlike options selection other) ∧
    ∀ named : List Attribute,
      (∀ attr, (Selection.ofList named).contains attr = true ↔ attr ∈ named) ∧
      (∀ attr, FirstRefused (Selection.ofList named).attributes attr ↔ FirstRefused named attr) := by
  intro built
  refine ⟨fun failure => build_error_iff, ?_, ?_, ?_, ?_⟩
  · simp only [contains_iff_mem]
    exact refused_among selection options
  · intro request outcome
    have holds := built_holds outcome
    have same (attr : Attribute) : request.attributes.contains attr = selection.contains attr := by
      rw [Bool.eq_iff_iff, holds_contains holds, contains_iff_mem]
    refine ⟨same, fun category => List.filter_congr fun attr _ => same attr, ?_, ?_⟩
    · intro category bit present
      obtain ⟨attr, member, own⟩ := (holds category bit).mp present
      exact ⟨attr, contains_iff_mem.mpr member, own⟩
    · intro marker
      obtain ⟨attr, _, category, bit⟩ := (holds .volume 31).mp marker
      exact absurd ⟨category, bit⟩ (marker_free attr)
  · intro other same
    refine built_alike options fun attr => ?_
    rw [← contains_iff_mem, ← contains_iff_mem, same]
  · intro named
    refine ⟨fun attr => contains_iff_mem.trans mem_of_list, fun attr => ?_⟩
    rw [← first_refused_iff, ← first_refused_iff, firstRefused?, of_list_find, firstRefused?]

/-- An attribute that is named twice, and the same members in another order. -/
theorem repeated_names_folded_exactly :
    let selection : Selection :=
      .ofList [.extended .linkId, .volume .size, .common .name, .volume .size]
    let other : Selection := .ofList [.common .name, .volume .size, .extended .linkId]
    let request : Request := ⟨⟨1, 4, 0, 0, 0x10⟩, .ofFlag .useExtendedCommonAttributes⟩
    (Request.build selection .none).outcome = .ok request ∧
    request.attributes.members .volume = [.volume .size] ∧ ¬HasBit request.attributes.volume 31 ∧
    (∀ attr, other.contains attr = selection.contains attr) ∧ BuiltAlike .none selection other := by
  intro selection other request
  have built : (Request.build selection .none).outcome = .ok request := rfl
  have same : ∀ attr, other.contains attr = selection.contains attr := by decide +kernel
  have wanted : (Attribute.inCategory .volume).filter selection.contains = [.volume .size] := by
    decide +kernel
  obtain ⟨_, _, folded, alike, _⟩ := selection_folded_exactly selection .none
  obtain ⟨_, members, _, unmarked⟩ := folded request built
  exact ⟨built, (members .volume).trans wanted, unmarked, same, alike other same⟩

end PackedAttributes.SelectionFolding
