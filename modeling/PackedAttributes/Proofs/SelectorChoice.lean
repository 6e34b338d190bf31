import PackedAttributes.Proofs.NameParsing
import PackedAttributes.Proofs.SelectionOrder
import PackedAttributes.Selectors

/-! What the selectors of the command line stand for. The lists of names are read category by category
up to the first one that is not understood. If all are, something is selected in any case, and only
attributes that were named one by one can keep it from becoming a request. -/
namespace PackedAttributes.SelectorChoice
open CatalogMasks NameParsing RequestMasks SelectionFolding SelectionOrder Text TextPieces

variable {selectors : Selectors}

/-! ## Lists of names -/

/-- The list for the category stands for the attributes. A list that is not given stands for none. -/
def Understood (selectors : Selectors) (category : Category) (attrs : List Attribute) : Prop :=
  match selectors.names category with
  | some text => Names.parse category text = .ok attrs
  | none => attrs = []

/-- A list for the category is given and is not understood, for the reason that is told. -/
def Misread (selectors : Selectors) (category : Category) (message : String) : Prop :=
  ∃ text, selectors.names category = some text ∧ Names.parse category text = .error message

/-- The list for the category is not understood, and those for all categories before it are. -/
def FirstMisread (selectors : Selectors) (categories : List Category) (category : Category)
    (message : String) : Prop :=
  ∃ before behind, categories = before ++ category :: behind ∧ Misread selectors category message ∧
    ∀ earlier ∈ before, ∃ attrs, Understood selectors earlier attrs

theorem understood_given_iff (given : selectors.names category = some text) :
    Understood selectors category attrs ↔ Names.parse category text = .ok attrs := by
  rw [Understood, given]

theorem understood_absent_iff (absent : selectors.names category = none) :
    Understood selectors category attrs ↔ attrs = [] := by
  rw [Understood, absent]

theorem understood_or_misread (selectors : Selectors) (category : Category) :
    (∃ attrs, Understood selectors category attrs) ∨ ∃ message, Misread selectors category message := by
  cases given : selectors.names category with
  | none => exact .inl ⟨[], (understood_absent_iff given).mpr rfl⟩
  | some text =>
    cases read : Names.parse category text with
    | ok attrs => exact .inl ⟨attrs, (understood_given_iff given).mpr read⟩
    | error message => exact .inr ⟨message, text, given, read⟩

theorem not_misread (understood : Understood selectors category attrs) :
    ¬Misread selectors category message := by
  rintro ⟨text, given, wrong⟩
  cases ((understood_given_iff given).mp understood).symm.trans wrong

theorem first_misread_exists {categories : List Category}
    (misread : ∃ category ∈ categories, ∃ message, Misread selectors category message) :
    ∃ category message, FirstMisread selectors categories category message := by
  induction categories with
  | nil => simp at misread
  | cons category categories ih =>
    obtain understood | ⟨message, own⟩ := understood_or_misread selectors category
    · obtain ⟨other, member, message, wrong⟩ := misread
      obtain rfl | member := List.mem_cons.mp member
      · exact absurd wrong (not_misread understood.choose_spec)
      · obtain ⟨first, message, before, behind, rfl, wrong, earlier⟩ := ih ⟨other, member, message, wrong⟩
        exact ⟨first, message, category :: before, behind, rfl, wrong,
          List.forall_mem_cons.mpr ⟨understood, earlier⟩⟩
    · exact ⟨category, message, [], categories, rfl, own, nofun⟩

/-! ## Reading the lists -/

theorem extend_understood (understood : Understood selectors category attrs)
    (selection : Selection) :
    selectors.extend selection category = .ok (selection.insertAll attrs) := by
  cases given : selectors.names category with
  | none =>
    rw [Selectors.extend, given, (understood_absent_iff given).mp understood]
    rfl
  | some text =>
    rw [understood_given_iff given] at understood
    simp only [Selectors.extend, given, understood]
    rfl

theorem extend_misread (misread : Misread selectors category message) (selection : Selection) :
    selectors.extend selection category = .error message := by
  obtain ⟨text, given, wrong⟩ := misread
  simp only [Selectors.extend, given, wrong]
  rfl

/-- Lists that are all understood are read to the end. -/
theorem fold_understood {lists : Category → List Attribute} {categories : List Category}
    (understood : ∀ category ∈ categories, Understood selectors category (lists category))
    (selection : Selection) : categories.foldlM selectors.extend selection =
      .ok (selection.insertAll (categories.flatMap lists)) := by
  induction categories generalizing selection with
  | nil => rfl
  | cons category categories ih =>
    obtain ⟨own, others⟩ := List.forall_mem_cons.mp understood
    have joined : selection.insertAll ((category :: categories).flatMap lists) =
        (selection.insertAll (lists category)).insertAll (categories.flatMap lists) := by
      rw [List.flatMap_cons, Selection.insertAll, List.foldl_append]
      rfl
    rw [List.foldlM_cons, extend_understood own, joined, ← ih others]
    rfl

/-- Reading ends at the first list that is not understood. -/
theorem fold_misread {categories : List Category}
    (first : FirstMisread selectors categories category message) (selection : Selection) :
    categories.foldlM selectors.extend selection = .error message := by
  obtain ⟨before, behind, rfl, misread, understood⟩ := first
  induction before generalizing selection with
  | nil =>
    rw [List.nil_append, List.foldlM_cons, extend_misread misread]
    rfl
  | cons earlier before ih =>
    obtain ⟨⟨attrs, own⟩, others⟩ := List.forall_mem_cons.mp understood
    rw [List.cons_append, List.foldlM_cons, extend_understood own]
    exact ih (selection.insertAll attrs) others

/-- What is selected once the lists are read: the attributes that they stand for or else the usual
ones, and the set of returned attributes if it is wanted. -/
theorem selection_understood {lists : Category → List Attribute}
    (understood : ∀ category, Understood selectors category (lists category)) :
    let named := Selection.empty.insertAll (Category.all.flatMap lists)
    let chosen := if named.isEmpty then Selectors.usual else named
    selectors.selection =
      .ok (if selectors.returned then chosen.insert .returnedAttributes else chosen) := by
  rw [Selectors.selection, Selectors.named, fold_understood fun category _ => understood category]
  rfl

theorem selection_misread (first : FirstMisread selectors Category.all category message) :
    selectors.selection = .error message := by
  rw [Selectors.selection, Selectors.named, fold_misread first]
  rfl

/-- Either all lists are understood, or there is a first one that is not. -/
theorem all_understood_or_first_misread (selectors : Selectors) :
    (∃ lists : Category → List Attribute, ∀ category, Understood selectors category (lists category)) ∨
      ∃ category message, FirstMisread selectors Category.all category message := by
  by_cases misread : ∃ category ∈ Category.all, ∃ message, Misread selectors category message
  · exact .inr (first_misread_exists misread)
  · refine .inl (Classical.axiomOfChoice fun category => ?_)
    refine (understood_or_misread selectors category).resolve_right fun wrong => ?_
    exact misread ⟨category, mem_categories category, wrong⟩

theorem selection_error_iff : selectors.selection = .error message ↔
    ∃ category, FirstMisread selectors Category.all category message := by
  constructor
  · intro failed
    obtain ⟨lists, understood⟩ | ⟨category, told, first⟩ := all_understood_or_first_misread selectors
    · cases failed.symm.trans (selection_understood understood)
    · cases failed.symm.trans (selection_misread first)
      exact ⟨category, first⟩
  · rintro ⟨category, first⟩
    exact selection_misread first

/-! ## Nothing named -/

theorem nothing_named_iff :
    Named text [] ↔ ∀ c ∈ text.toList, c = ',' ∨ isWhiteSpace c = true := by
  rw [← pieces_iff, ← split_chars_forall, Names.pieces, List.filter_eq_nil_iff]
  simp [split, trim_blank_iff, blank_iff]

theorem all_nonempty (category : Category) : Names.all category ≠ [] := by
  cases category <;> decide +kernel

/-- A list stands for no attribute exactly if it holds no name. -/
theorem read_nothing_iff : Names.parse category text = .ok [] ↔ Named text [] := by
  by_cases all : SaysAll text
  · obtain ⟨word, alone, _⟩ := says_all_named all
    rw [parse_all all]
    refine iff_of_false (fun none => all_nonempty category (Except.ok.inj none)) fun nothing => ?_
    cases named_unique nothing alone
  · have named : Named text (Names.pieces text) := pieces_iff.mp rfl
    rw [parse_named named all, resolved_ok_iff, FoundAs, List.forall₂_nil_right_iff, pieces_iff]

theorem understood_nothing_iff (understood : Understood selectors category attrs) : attrs = [] ↔
    ∀ text, selectors.names category = some text →
      ∀ c ∈ text.toList, c = ',' ∨ isWhiteSpace c = true := by
  cases given : selectors.names category with
  | none => exact iff_of_true ((understood_absent_iff given).mp understood) nofun
  | some text =>
    rw [understood_given_iff given] at understood
    rw [← Except.ok.injEq (ε := String), ← understood, read_nothing_iff, nothing_named_iff]
    simp

/-! ## Refused attributes -/

theorem found_as_mem_iff (found : FoundAs category names attrs) :
    attr ∈ attrs ↔ ∃ name ∈ names, Attribute.find? category name = some attr := by
  induction found with
  | nil => simp
  | cons own _ ih => simp [ih, own, eq_comm]

/-- The list for files names the extents of a fork. -/
def NamesExtents (selectors : Selectors) : Prop :=
  ∃ text names, selectors.file = some text ∧ Named text names ∧
    ∃ name ∈ names, lowercase name = "dataextents" ∨ lowercase name = "resourceextents"

theorem refused_extents_iff : Refused attr ↔ attr = .file .dataExtents ∨ attr = .file .resourceExtents := by
  rw [refused_iff, ← Bool.not_eq_true, requestable_iff, not_and_or, not_not, not_not]

theorem refused_found_iff : (∃ attr, Attribute.find? category name = some attr ∧ Refused attr) ↔
    category = .file ∧ (lowercase name = "dataextents" ∨ lowercase name = "resourceextents") := by
  have data : lowercase (Attribute.file .dataExtents).name = "dataextents" := by decide +kernel
  have resource : lowercase (Attribute.file .resourceExtents).name = "resourceextents" := by
    decide +kernel
  simp only [found_iff, refused_extents_iff]
  constructor
  · rintro ⟨_, ⟨rfl, same⟩, rfl | rfl⟩
    · exact ⟨rfl, .inl (same.trans data)⟩
    · exact ⟨rfl, .inr (same.trans resource)⟩
  · rintro ⟨rfl, same | same⟩
    · exact ⟨_, ⟨rfl, same.trans data.symm⟩, .inl rfl⟩
    · exact ⟨_, ⟨rfl, same.trans resource.symm⟩, .inr rfl⟩

/-- Among the attributes that a list stands for, those are refused that it names one by one. -/
theorem refused_read_iff (read : Names.parse category text = .ok attrs) (named : Named text names) :
    (∃ attr ∈ attrs, Refused attr) ↔
      ∃ name ∈ names, ∃ attr, Attribute.find? category name = some attr ∧ Refused attr := by
  by_cases all : SaysAll text
  · obtain ⟨word, alone, unknown⟩ := says_all_named all
    cases named_unique named alone
    rw [parse_all all, all_of_category] at read
    cases read
    refine iff_of_false ?_ (by simp [unknown])
    rintro ⟨attr, member, refused⟩
    exact (of_decide_eq_true (List.mem_filter.mp member).2).1 refused
  · rw [parse_named named all, resolved_ok_iff] at read
    simp only [found_as_mem_iff read]
    constructor
    · rintro ⟨attr, ⟨name, member, found⟩, refused⟩
      exact ⟨name, member, attr, found, refused⟩
    · rintro ⟨name, member, attr, found, refused⟩
      exact ⟨attr, ⟨name, member, found⟩, refused⟩

/-! ## Selections -/

theorem first_order_nil_iff (first : FirstOrder attrs named) : attrs = [] ↔ named = [] := by
  simp only [List.eq_nil_iff_forall_not_mem, first.members]

theorem insert_attributes (selection : Selection) (attr : Attribute) :
    (selection.insert attr).attributes =
      if attr ∉ selection.attributes then selection.attributes ++ [attr]
      else selection.attributes := by
  simp only [Selection.insert, contains_iff_mem, ite_not]
  split <;> rfl

/-- What is wanted by those who name the attributes, which is three usual ones if these are none. -/
def wantedOf (named : List Attribute) : List Attribute :=
  if named = [] then [.common .name, .common .objectType, .common .modificationTime] else named

theorem wanted_first_order (named : List Attribute) :
    let selection := Selection.empty.insertAll named
    FirstOrder (if selection.isEmpty then Selectors.usual else selection).attributes
      (wantedOf named) := by
  intro selection
  have first : FirstOrder selection.attributes named := first_order_insert_all first_order_empty named
  have usual : FirstOrder Selectors.usual.attributes
      [.common .name, .common .objectType, .common .modificationTime] :=
    ⟨by decide, fun _ => Iff.rfl, by decide⟩
  have none : selection.isEmpty = true ↔ named = [] := by
    rw [Selection.isEmpty, List.isEmpty_iff, first_order_nil_iff first]
  by_cases nothing : named = []
  · rwa [wantedOf, if_pos nothing, if_pos (none.mpr nothing)]
  · rwa [wantedOf, if_neg nothing, if_neg (nothing ∘ none.mp)]

theorem wanted_nonempty (named : List Attribute) : wantedOf named ≠ [] := by
  rw [wantedOf]
  split
  · exact List.cons_ne_nil _ _
  · assumption

theorem wanted_refused_iff {named : List Attribute} :
    (∃ attr ∈ wantedOf named, Refused attr) ↔ ∃ attr ∈ named, Refused attr := by
  rw [wantedOf]
  split
  · rename_i nothing
    rw [nothing]
    decide +kernel
  · rfl

/-- The attributes are selected in the order in which they were wanted first, and the set of returned
attributes behind them if it is asked for and not among them. -/
def Selected (selectors : Selectors) (wanted selected : List Attribute) : Prop :=
  ∃ chosen, FirstOrder chosen wanted ∧
    selected = if selectors.returned = true ∧ .returnedAttributes ∉ wanted then
      chosen ++ [.returnedAttributes] else chosen

theorem selected_members (selected : Selected selectors wanted attrs) :
    attr ∈ attrs ↔ attr ∈ wanted ∨ selectors.returned = true ∧ attr = .returnedAttributes := by
  obtain ⟨chosen, first, rfl⟩ := selected
  split
  · rename_i told
    simp [first.members, told.1]
  · rename_i untold
    have among : selectors.returned = true → .returnedAttributes ∈ wanted := by simpa using untold
    rw [first.members]
    refine (or_iff_left_of_imp ?_).symm
    rintro ⟨asked, rfl⟩
    exact among asked

theorem selected_nonempty (selected : Selected selectors wanted attrs) (some : wanted ≠ []) :
    attrs ≠ [] := by
  obtain ⟨attr, member⟩ := List.exists_mem_of_ne_nil wanted some
  exact List.ne_nil_of_mem ((selected_members selected).mpr (.inl member))

theorem selected_distinct (selected : Selected selectors wanted attrs) : attrs.Nodup := by
  obtain ⟨chosen, first, rfl⟩ := selected
  split
  · rename_i told
    have fresh : Attribute.returnedAttributes ∉ chosen := told.2 ∘ (first.members _).mp
    rw [← List.concat_eq_append]
    exact first.distinct.concat fresh
  · exact first.distinct

theorem selected_refused_iff {named : List Attribute}
    (selected : Selected selectors (wantedOf named) attrs) :
    (∃ attr ∈ attrs, Refused attr) ↔ ∃ attr ∈ named, Refused attr := by
  have accepted : ¬Refused .returnedAttributes := by decide
  refine Iff.trans ?_ wanted_refused_iff
  constructor
  · rintro ⟨attr, member, refused⟩
    obtain wanted | ⟨_, rfl⟩ := (selected_members selected).mp member
    · exact ⟨attr, wanted, refused⟩
    · exact absurd refused accepted
  · rintro ⟨attr, wanted, refused⟩
    exact ⟨attr, (selected_members selected).mpr (.inl wanted), refused⟩

section
variable {lists : Category → List Attribute}
  (understood : ∀ category, Understood selectors category (lists category))
include understood

theorem nothing_listed_iff :
    Category.all.flatMap lists = [] ↔ ∀ category text, selectors.names category = some text →
      ∀ c ∈ text.toList, c = ',' ∨ isWhiteSpace c = true := by
  simp only [List.flatMap_eq_nil_iff, mem_categories, true_imp_iff,
    understood_nothing_iff (understood _)]

theorem refused_listed_iff :
    (∃ attr ∈ Category.all.flatMap lists, Refused attr) ↔ NamesExtents selectors := by
  constructor
  · rintro ⟨attr, member, refused⟩
    obtain ⟨category, _, listed⟩ := List.mem_flatMap.mp member
    have own := understood category
    cases given : selectors.names category with
    | none =>
      rw [(understood_absent_iff given).mp own] at listed
      cases listed
    | some text =>
      have named : Named text (Names.pieces text) := pieces_iff.mp rfl
      rw [understood_given_iff given] at own
      obtain ⟨name, among, found⟩ := (refused_read_iff own named).mp ⟨attr, listed, refused⟩
      -- Only attributes of files are refused, so this is the list for files.
      obtain ⟨rfl, letters⟩ := refused_found_iff.mp found
      exact ⟨text, _, given, named, name, among, letters⟩
  · rintro ⟨text, names, given, named, name, among, letters⟩
    have given : selectors.names .file = some text := given
    have read := (understood_given_iff given).mp (understood .file)
    obtain ⟨attr, listed, refused⟩ :=
      (refused_read_iff read named).mpr ⟨name, among, refused_found_iff.mpr ⟨rfl, letters⟩⟩
    exact ⟨attr, List.mem_flatMap.mpr ⟨.file, mem_categories .file, listed⟩, refused⟩

theorem selection_selects :
    ∃ selection, selectors.selection = .ok selection ∧
      Selected selectors (wantedOf (Category.all.flatMap lists)) selection.attributes := by
  let named := Selection.empty.insertAll (Category.all.flatMap lists)
  let chosen := if named.isEmpty then Selectors.usual else named
  have first : FirstOrder chosen.attributes (wantedOf (Category.all.flatMap lists)) :=
    wanted_first_order (Category.all.flatMap lists)
  refine ⟨_, selection_understood understood, chosen.attributes, first, ?_⟩
  cases selectors.returned with
  | false => simp [chosen, named]
  | true => simp [chosen, named, insert_attributes, ← first.members]

theorem selected_built_iff
    (selected : Selected selectors (wantedOf (Category.all.flatMap lists)) selection.attributes)
    (options : Options) :
    (∃ request, (Request.build selection options).outcome = .ok request) ↔
      ¬NamesExtents selectors := by
  rw [built_exists_iff, ← refused_listed_iff understood, ← selected_refused_iff selected]
  simp only [not_exists, not_and]

end

theorem selection_ok (chosen : selectors.selection = .ok selection) :
    ∃ lists : Category → List Attribute,
      (∀ category, Understood selectors category (lists category)) ∧
      Selected selectors (wantedOf (Category.all.flatMap lists)) selection.attributes := by
  obtain ⟨lists, understood⟩ | ⟨category, message, first⟩ := all_understood_or_first_misread selectors
  · obtain ⟨other, outcome, selected⟩ := selection_selects understood
    cases chosen.symm.trans outcome
    exact ⟨lists, understood, selected⟩
  · cases chosen.symm.trans (selection_misread first)

theorem all_understood (all : ∀ category text, selectors.names category = some text → SaysAll text)
    (category : Category) : ∃ attrs, Understood selectors category attrs := by
  refine (understood_or_misread selectors category).resolve_right ?_
  rintro ⟨message, text, given, wrong⟩
  cases (parse_all (all category text given)).symm.trans wrong

theorem all_names_no_extents
    (all : ∀ category text, selectors.names category = some text → SaysAll text) :
    ¬NamesExtents selectors := by
  rintro ⟨text, names, given, named, name, member, letters⟩
  obtain ⟨word, alone, unknown⟩ := says_all_named (all .file text given)
  cases named_unique named alone
  obtain ⟨attr, found, _⟩ := refused_found_iff.mpr ⟨rfl, letters⟩
  rw [List.mem_singleton.mp member, unknown] at found
  cases found

end PackedAttributes.SelectorChoice
