import Mathlib.Data.List.Forall2
import Mathlib.Data.List.Nodup
import PackedAttributes.Proofs.ActivityOutcomes
import PackedAttributes.Proofs.SelectionFolding
import PackedAttributes.Proofs.TextPieces
import PackedAttributes.Selectors

/-! How lists of names are read. A name is looked up by its small letters, and since the names of a
category differ in these, a list is read exactly if all names in it are those of attributes of the
category, whatever the case of the letters and the white space around the names. -/
namespace PackedAttributes.NameParsing
open ActivityOutcomes CatalogMasks SelectionFolding TextPieces Text

/-! ## Small letters -/

/-- The letters are the lower case of the character. A capital sigma has another one, for the ends of
words. -/
def Small (c : Char) (letters : List Char) : Prop :=
  letters = lowercaseChar c ∨ c = 'Σ' ∧ letters = ['ς']

/-- The text in small letters, with either small sigma for every capital one. -/
def Lowers (text lowered : String) : Prop :=
  ∃ letters, List.Forall₂ Small text.toList letters ∧ lowered.toList = letters.flatten

theorem lowers_own (text : String) : Lowers text (lowercase text) := by
  refine ⟨text.toList.map lowercaseChar, ?_, lowercase_chars text⟩
  exact List.forall₂_map_right_iff.mpr (List.forall₂_same.mpr fun _ _ => .inl rfl)

theorem small_chars_plain {chars : List Char} {letters : List (List Char)}
    (small : List.Forall₂ Small chars letters) (plain : 'Σ' ∉ chars ∨ 'ς' ∉ letters.flatten) :
    letters.flatten = chars.flatMap lowercaseChar := by
  induction small with
  | nil => rfl
  | @cons c own chars letters first _ ih =>
    rw [List.flatten_cons, List.flatMap_cons]
    obtain rfl | ⟨rfl, rfl⟩ := first
    · rw [ih (plain.imp (fun without member => without (List.mem_cons_of_mem c member))
        fun without member => without (List.mem_append_right _ member))]
    · simp at plain

/-- Without a sigma there is one way to write a text in small letters. -/
theorem lowers_plain (small : Lowers text lowered)
    (plain : 'Σ' ∉ text.toList ∨ 'ς' ∉ lowered.toList) : lowered = lowercase text := by
  obtain ⟨letters, each, same⟩ := small
  rw [same] at plain
  rw [← String.toList_inj, same, lowercase_chars, small_chars_plain each plain]

/-! ## The names of the catalogue -/

/-- Names are written in ASCII letters. -/
theorem name_letters (attr : Attribute) : attr.name.toList ≠ [] ∧
    ∀ c ∈ attr.name.toList, c.toNat < 0x80 ∧ c.isAlpha = true := by
  have letters (category : Category) : ((Attribute.inCategory category).all fun attr =>
      attr.name.toList != [] && attr.name.toList.all fun c => c.toNat < 0x80 && c.isAlpha) = true := by
    cases category <;> decide +kernel
  have own := List.all_eq_true.mp (letters attr.category) attr (mem_category attr)
  simpa using own

theorem small_letter {c : Char} (ascii : c.toNat < 0x80) (letter : c.isAlpha = true) :
    c.toLower.toNat < 0x80 ∧ c.toLower ≠ ',' ∧ isWhiteSpace c.toLower = false := by
  revert letter
  refine ascii_forall ascii ?_
  decide +kernel

theorem lowercase_name (attr : Attribute) :
    (lowercase attr.name).toList = attr.name.toList.map Char.toLower :=
  lowercase_ascii fun c member => ((name_letters attr).2 c member).1

theorem lowercase_name_chars {attr : Attribute} :
    ∀ c ∈ (lowercase attr.name).toList, c.toNat < 0x80 ∧ c ≠ ',' ∧ isWhiteSpace c = false := by
  rw [lowercase_name]
  intro small member
  obtain ⟨c, found, rfl⟩ := List.mem_map.mp member
  obtain ⟨ascii, letter⟩ := (name_letters attr).2 c found
  exact small_letter ascii letter

/-- No two attributes of a category have the same name, and none is called `all`. -/
theorem names_distinct (category : Category) :
    ((Attribute.inCategory category).map fun attr => attr.name.toList.map Char.toLower).Nodup ∧
      ∀ attr ∈ Attribute.inCategory category, attr.name.toList.map Char.toLower ≠ ['a', 'l', 'l'] := by
  cases category <;> decide +kernel

theorem key_injective {attr other : Attribute} (same : attr.key = other.key) : attr = other := by
  obtain ⟨category, letters⟩ := Prod.mk.inj same
  have member : attr ∈ Attribute.inCategory other.category := category ▸ mem_category attr
  refine List.inj_on_of_nodup_map (names_distinct other.category).1 member (mem_category other) ?_
  rw [← lowercase_name, ← lowercase_name, letters]

theorem key_of_found (found : Attribute.find? category name = some attr) :
    attr.key = (category, lowercase name) := by
  have same := List.find?_some found
  rwa [beq_iff_eq] at same

theorem found_iff : Attribute.find? category name = some attr ↔
    attr.category = category ∧ lowercase name = lowercase attr.name := by
  have key : attr.key = (category, lowercase name) ↔
      attr.category = category ∧ lowercase name = lowercase attr.name := by
    rw [Attribute.key, Prod.mk.injEq, eq_comm (a := lowercase attr.name)]
  rw [← key]
  refine ⟨key_of_found, fun same => ?_⟩
  have hit : (Attribute.find? category name).isSome = true :=
    List.find?_isSome.mpr ⟨attr, List.mem_reverse.mpr (mem_all attr), beq_iff_eq.mpr same⟩
  obtain ⟨other, found⟩ := Option.isSome_iff_exists.mp hit
  rw [found, key_injective ((key_of_found found).trans same.symm)]

theorem unknown_iff : Attribute.find? category name = none ↔
    ∀ attr ∈ Attribute.inCategory category, lowercase name ≠ lowercase attr.name := by
  rw [Option.eq_none_iff_forall_ne_some]
  constructor
  · intro unknown attr member same
    exact unknown attr (found_iff.mpr ⟨category_of_mem member, same⟩)
  · intro different attr found
    obtain ⟨rfl, same⟩ := found_iff.mp found
    exact different attr (mem_category attr) same

/-- Names are compared by their small letters, whichever small sigma is written. -/
theorem found_by_small_letters (small : Lowers name lowered) (own : Lowers attr.name other) :
    Attribute.find? category name = some attr ↔ attr.category = category ∧ lowered = other := by
  have ascii : ∀ c ∈ (lowercase attr.name).toList, c.toNat < 0x80 :=
    fun c member => (lowercase_name_chars c member).1
  have plain : other = lowercase attr.name := by
    refine lowers_plain own (.inl fun sigma => ?_)
    exact absurd ((name_letters attr).2 _ sigma).1 (by decide)
  rw [found_iff, plain]
  -- The small letters of a name are ASCII, so on either side there is no sigma to choose.
  refine and_congr_right fun _ => ⟨fun same => ?_, fun same => ?_⟩
  · have without : 'Σ' ∉ name.toList := fun sigma => by
      have letters : 'σ' ∈ (lowercase name).toList := by
        rw [lowercase_chars]
        exact List.mem_flatMap.mpr ⟨'Σ', sigma, by decide +kernel⟩
      exact absurd (ascii _ (same ▸ letters)) (by decide)
    rw [lowers_plain small (.inl without), same]
  · have without : 'ς' ∉ lowered.toList := fun sigma => absurd (ascii _ (same ▸ sigma)) (by decide)
    rw [← same, lowers_plain small (.inr without)]

/-! ## The names in a list -/

/-- The names that stand in the parts of a list, one after the other: what is left of the parts
without the white space around it, if anything. -/
inductive Reads : List String → List String → Prop where
  | nil : Reads [] []
  | blank (empty : isBlank part = true) (rest : Reads parts names) : Reads (part :: parts) names
  | name (solid : word ≠ "") (bare : Bare word) (opening : isBlank before = true)
      (closing : isBlank behind = true) (rest : Reads parts names) :
      Reads ((before ++ word ++ behind) :: parts) (word :: names)

/-- The text holds the names between commas. -/
def Named (text : String) (names : List String) : Prop :=
  ∃ parts, parts ≠ [] ∧ (∀ part ∈ parts, ',' ∉ part.toList) ∧ joined "," parts = text ∧
    Reads parts names

theorem trim_blank_iff {part : String} : trim part = "" ↔ isBlank part = true := by
  rw [trim_iff]
  constructor
  · rintro ⟨_, before, behind, rfl, opening, closing⟩
    rw [blank_iff] at opening closing ⊢
    simpa [or_imp, forall_and] using ⟨opening, closing⟩
  · intro empty
    exact ⟨⟨nofun, nofun⟩, part, "", by simp, empty, rfl⟩

theorem reads_iff : Reads parts names ↔
    (parts.map trim).filter (fun name => !name.isEmpty) = names := by
  constructor
  · intro reads
    induction reads with
    | nil => rfl
    | blank empty _ ih => simpa [trim_blank_iff.mpr empty] using ih
    | @name word before behind parts names solid bare opening closing _ ih =>
      have core : trim (before ++ word ++ behind) = word :=
        trim_iff.mpr ⟨bare, before, behind, rfl, opening, closing⟩
      simpa [core, solid] using ih
  · rintro rfl
    induction parts with
    | nil => exact .nil
    | cons part parts ih =>
      rw [List.map_cons, List.filter_cons]
      split
      · rename_i solid
        obtain ⟨bare, before, behind, same, opening, closing⟩ := trim_iff.mp (rfl : trim part = _)
        have read := Reads.name (by simpa using solid) bare opening closing ih
        rwa [← same] at read
      · rename_i empty
        exact .blank (trim_blank_iff.mp (by simpa using empty)) ih

theorem pieces_iff : Names.pieces text = names ↔ Named text names := by
  constructor
  · rintro rfl
    obtain ⟨nonempty, apart, same⟩ := split_comma_iff.mp (rfl : split ',' text = _)
    exact ⟨_, nonempty, apart, same, reads_iff.mpr rfl⟩
  · rintro ⟨parts, nonempty, apart, same, reads⟩
    rw [Names.pieces, split_comma_iff.mpr ⟨nonempty, apart, same⟩, reads_iff.mp reads]

/-! ## The word for all attributes -/

/-- The text is the word `all`, in any letter case and with any white space around it. -/
def SaysAll (text : String) : Prop :=
  ∃ before word behind, text = before ++ word ++ behind ∧ isBlank before = true ∧
    isBlank behind = true ∧ word.toList.map Char.toLower = ['a', 'l', 'l']

theorem bare_of_solid {text : String} (solid : ∀ c ∈ text.toList, isWhiteSpace c = false) :
    Bare text :=
  ⟨fun c first => solid c (List.mem_of_mem_head? first),
    fun c last => solid c (List.mem_of_getLast? last)⟩

theorem ascii_of_to_lower {c : Char} (ascii : c.toLower.toNat < 0x80) : c.toNat < 0x80 := by
  by_cases capital : c.val ≥ 'A'.val ∧ c.val ≤ 'Z'.val
  · exact Nat.lt_of_le_of_lt (UInt32.le_iff_toNat_le.mp capital.2) (by decide)
  · have kept : c.toLower = c := dif_neg capital
    rwa [kept] at ascii

theorem all_word_chars {word : String} (letters : word.toList.map Char.toLower = ['a', 'l', 'l']) :
    ∀ c ∈ word.toList, c.toNat < 0x80 ∧ c ≠ ',' ∧ isWhiteSpace c = false := by
  intro c member
  have small : c.toLower ∈ ['a', 'l', 'l'] := letters ▸ List.mem_map_of_mem member
  have ascii : c.toNat < 0x80 := by
    have all : ∀ small ∈ ['a', 'l', 'l'], small.toNat < 0x80 := by simp
    exact ascii_of_to_lower (all _ small)
  refine ⟨ascii, ?_⟩
  revert small
  refine ascii_forall ascii ?_
  decide +kernel

theorem says_all_iff : SaysAll text ↔ agreesUpToAsciiCase (trim text) "all" = true := by
  rw [agreesUpToAsciiCase, beq_iff_eq]
  constructor
  · rintro ⟨before, word, behind, same, opening, closing, letters⟩
    have bare : Bare word := bare_of_solid fun c member => (all_word_chars letters c member).2.2
    rw [trim_iff.mpr ⟨bare, before, behind, same, opening, closing⟩]
    exact letters
  · intro letters
    obtain ⟨_, before, behind, same, opening, closing⟩ := trim_iff.mp (rfl : trim text = _)
    exact ⟨before, trim text, behind, same, opening, closing, letters⟩

theorem blank_no_comma {text : String} (blank : isBlank text = true) : ',' ∉ text.toList :=
  fun member => absurd (blank_iff.mp blank ',' member) (by decide)

/-- A word between white space is a part without a comma if the word is without one. -/
theorem part_no_comma {word : String} (opening : isBlank before = true)
    (closing : isBlank behind = true) (without : ',' ∉ word.toList) :
    ',' ∉ (before ++ word ++ behind).toList := by
  simp only [String.toList_append, List.mem_append, not_or]
  exact ⟨⟨blank_no_comma opening, without⟩, blank_no_comma closing⟩

/-- The word then stands alone in the text, and no attribute has it as its name. -/
theorem says_all_named (all : SaysAll text) :
    ∃ word, Named text [word] ∧ ∀ category, Attribute.find? category word = none := by
  obtain ⟨before, word, behind, rfl, opening, closing, letters⟩ := all
  have chars := all_word_chars letters
  have without : ',' ∉ word.toList := fun member => (chars ',' member).2.1 rfl
  have solid : word ≠ "" := by
    rintro rfl
    cases letters
  have bare : Bare word := bare_of_solid fun c member => (chars c member).2.2
  refine ⟨word, ⟨[before ++ word ++ behind], List.cons_ne_nil _ _, ?_, ?_, ?_⟩, fun category => ?_⟩
  · simpa using part_no_comma opening closing without
  · simp [joined]
  · exact .name solid bare opening closing .nil
  · refine unknown_iff.mpr fun attr member same => (names_distinct category).2 attr member ?_
    rw [← lowercase_name, ← same, lowercase_ascii fun c member => (chars c member).1, letters]

theorem all_of_category (category : Category) : Names.all category =
    (Attribute.inCategory category).filter (fun attr => ¬Refused attr ∧
      attr ≠ .common .returnedAttributes ∧ attr ≠ .common .error ∧ attr ≠ .common .finderInfo) := by
  refine List.filter_congr fun attr _ => ?_
  simp [refused_iff, Names.leftOutOfAll, Attribute.returnedAttributes]

/-! ## Lists -/

/-- The names are found, and the attributes are those that have them, one by one. -/
def FoundAs (category : Category) (names : List String) (attrs : List Attribute) : Prop :=
  List.Forall₂ (fun name attr => Attribute.find? category name = some attr) names attrs

theorem resolved_unknown (unknown : Attribute.find? category name = none) :
    (name :: names).mapM (Names.resolve category) = .error (Names.unknownMessage category name) := by
  rw [List.mapM_cons, Names.resolve, unknown, except_error_bind]

theorem resolved_known (found : Attribute.find? category name = some attr) :
    (name :: names).mapM (Names.resolve category) =
      (names.mapM (Names.resolve category)).map (attr :: ·) := by
  rw [List.mapM_cons, Names.resolve, found, except_ok_bind]
  rfl

/-- Names are understood if attributes of the category have them, and then stand for these. -/
theorem resolved_ok_iff {names : List String} :
    names.mapM (Names.resolve category) = .ok attrs ↔ FoundAs category names attrs := by
  induction names generalizing attrs with
  | nil =>
    rw [List.mapM_nil, FoundAs, List.forall₂_nil_left_iff, eq_comm (a := attrs)]
    exact (Except.ok.injEq _ _).to_iff
  | cons name names ih =>
    rw [FoundAs, List.forall₂_cons_left_iff]
    cases found : Attribute.find? category name with
    | none =>
      rw [resolved_unknown found]
      exact iff_of_false nofun nofun
    | some attr =>
      rw [resolved_known found, except_map_ok_iff]
      constructor
      · rintro ⟨rest, others, rfl⟩
        exact ⟨attr, rest, rfl, ih.mp others, rfl⟩
      · rintro ⟨_, rest, own, others, rfl⟩
        cases own
        exact ⟨rest, ih.mpr others, rfl⟩

/-- The name is the first one that no attribute of the category has. -/
def FirstUnknown (category : Category) (names : List String) (name : String) : Prop :=
  ∃ before behind, names = before ++ name :: behind ∧ Attribute.find? category name = none ∧
    ∀ earlier ∈ before, Attribute.find? category earlier ≠ none

/-- Looks for the first name that no attribute of the category has. -/
def firstUnknown? (category : Category) (names : List String) : Option String :=
  names.find? (fun name => (Attribute.find? category name).isNone)

theorem first_unknown_iff :
    firstUnknown? category names = some name ↔ FirstUnknown category names name := by
  simp only [firstUnknown?, List.find?_eq_some_iff_append, FirstUnknown, Option.isNone_iff_eq_none,
    Bool.not_eq_true', Option.isNone_eq_false_iff, Option.isSome_iff_ne_none]
  constructor
  · rintro ⟨unknown, before, behind, same, known⟩
    exact ⟨before, behind, same, unknown, known⟩
  · rintro ⟨before, behind, same, unknown, known⟩
    exact ⟨unknown, before, behind, same, known⟩

theorem resolved_error_iff {names : List String} :
    names.mapM (Names.resolve category) = .error message ↔
      ∃ name, FirstUnknown category names name ∧
        message = Names.unknownMessage category name := by
  simp only [← first_unknown_iff]
  induction names with
  | nil => exact iff_of_false nofun nofun
  | cons name names ih =>
    rw [firstUnknown?, List.find?_cons]
    cases found : Attribute.find? category name with
    | none =>
      rw [resolved_unknown found]
      simp [eq_comm]
    | some attr =>
      rw [resolved_known found, except_map_error_iff, ih]
      rfl

theorem known_exists_iff {names : List String} :
    (∃ attrs, FoundAs category names attrs) ↔
      ∀ name ∈ names, Attribute.find? category name ≠ none := by
  induction names with
  | nil => exact iff_of_true ⟨[], .nil⟩ nofun
  | cons name names ih =>
    rw [List.forall_mem_cons, ← ih, Option.ne_none_iff_exists']
    constructor
    · rintro ⟨_, each⟩
      obtain ⟨attr, attrs, own, others, _⟩ := List.forall₂_cons_left_iff.mp each
      exact ⟨⟨attr, own⟩, attrs, others⟩
    · rintro ⟨⟨attr, own⟩, attrs, others⟩
      exact ⟨attr :: attrs, .cons own others⟩

/-- The parts of a list that names attributes of a category one after the other, each in any letter
case and with any white space around its name, and that may have blank parts anywhere. -/
inductive Spells (category : Category) : List String → List Attribute → Prop where
  | nil : Spells category [] []
  | blank (empty : isBlank part = true) (rest : Spells category parts attrs) :
      Spells category (part :: parts) attrs
  | name (own : attr.category = category) (letters : lowercase word = lowercase attr.name)
      (opening : isBlank before = true) (closing : isBlank behind = true)
      (rest : Spells category parts attrs) :
      Spells category ((before ++ word ++ behind) :: parts) (attr :: attrs)

theorem spelling_chars {attr : Attribute} {word : String}
    (letters : lowercase word = lowercase attr.name) :
    word ≠ "" ∧ ∀ c ∈ word.toList, c ≠ ',' ∧ isWhiteSpace c = false := by
  constructor
  · rintro rfl
    have empty : (lowercase attr.name).toList = [] := by rw [← letters]; rfl
    rw [lowercase_name, List.map_eq_nil_iff] at empty
    exact (name_letters attr).1 empty
  · intro c member
    constructor
    · rintro rfl
      have comma := mem_lowercase (by decide +kernel) member
      rw [letters] at comma
      exact (lowercase_name_chars _ comma).2.1 rfl
    · refine eq_false_of_ne_true fun white => ?_
      have blank := mem_lowercase (lowercase_white_space white) member
      rw [letters] at blank
      have solid := (lowercase_name_chars _ blank).2.2
      rw [white] at solid
      cases solid

theorem spells_reads (spells : Spells category parts attrs) :
    (∀ part ∈ parts, ',' ∉ part.toList) ∧
      ∃ names, Reads parts names ∧ FoundAs category names attrs := by
  induction spells with
  | nil => exact ⟨nofun, [], .nil, .nil⟩
  | blank empty _ ih =>
    obtain ⟨apart, names, reads, found⟩ := ih
    exact ⟨List.forall_mem_cons.mpr ⟨blank_no_comma empty, apart⟩, names, .blank empty reads, found⟩
  | @name word before behind parts attrs attr own letters opening closing _ ih =>
    obtain ⟨apart, names, reads, found⟩ := ih
    obtain ⟨solid, chars⟩ := spelling_chars letters
    have bare : Bare word := bare_of_solid fun c member => (chars c member).2
    have without := part_no_comma opening closing fun member => (chars ',' member).1 rfl
    exact ⟨List.forall_mem_cons.mpr ⟨without, apart⟩, word :: names,
      .name solid bare opening closing reads, .cons (found_iff.mpr ⟨own, letters⟩) found⟩

theorem spells_named (spells : Spells category parts attrs) :
    ∃ names, Named (joined "," parts) names ∧ FoundAs category names attrs := by
  obtain ⟨apart, names, reads, found⟩ := spells_reads spells
  cases parts with
  | nil =>
    -- An empty text has one part, which is blank.
    have empty : Named (joined "," []) names :=
      ⟨[""], List.cons_ne_nil _ _, by simp, by decide +kernel, .blank rfl reads⟩
    exact ⟨names, empty, found⟩
  | cons part parts => exact ⟨names, ⟨_, List.cons_ne_nil _ _, apart, rfl, reads⟩, found⟩

theorem parse_all (all : SaysAll text) :
    Names.parse category text = .ok (Names.all category) := by
  rw [Names.parse, if_pos (says_all_iff.mp all)]

theorem parse_named (named : Named text names) (several : ¬SaysAll text) :
    Names.parse category text = names.mapM (Names.resolve category) := by
  rw [Names.parse, if_neg (several ∘ says_all_iff.mpr), pieces_iff.mpr named]

theorem named_unique (named : Named text names) (again : Named text others) : others = names :=
  (pieces_iff.mpr again).symm.trans (pieces_iff.mpr named)

/-- A list of names that are found is read as the attributes that have them. -/
theorem read_found (named : Named text names) (found : FoundAs category names attrs) :
    Names.parse category text = .ok attrs := by
  have several : ¬SaysAll text := by
    intro all
    obtain ⟨word, alone, unknown⟩ := says_all_named all
    rw [← named_unique named alone] at found
    cases found with
    | cons own _ => cases (unknown category).symm.trans own
  rw [parse_named named several]
  exact resolved_ok_iff.mpr found

theorem spells_read (spells : Spells category parts attrs) :
    Names.parse category (joined "," parts) = .ok attrs := by
  obtain ⟨names, named, found⟩ := spells_named spells
  exact read_found named found

/-- A name is that of an attribute of the category if both are the same in small letters. The word
`all` gives the attributes of the category that are not refused, in the order of the catalogue and
without three of them. Any other text gives the attributes whose names stand in it between commas, in
their order, unless there is a name that no attribute has; the first of these is told together with
all names that there are. So whatever spells attributes of the category is read as these. -/
theorem names_read_exactly (category : Category) (text : String) :
    Lowers text (lowercase text) ∧
    (∀ (attr : Attribute) lowered own, Lowers text lowered → Lowers attr.name own →
      (Attribute.find? category text = some attr ↔ attr.category = category ∧ lowered = own)) ∧
    (SaysAll text → Names.parse category text = .ok ((Attribute.inCategory category).filter
      fun attr => ¬Refused attr ∧ attr ≠ .common .returnedAttributes ∧ attr ≠ .common .error ∧
        attr ≠ .common .finderInfo)) ∧
    (∃ names, Named text names ∧ (∀ others, Named text others → others = names) ∧
      (¬SaysAll text →
        ((∃ attrs, Names.parse category text = .ok attrs) ↔
          ∀ name ∈ names, Attribute.find? category name ≠ none) ∧
        (∀ attrs, Names.parse category text = .ok attrs ↔ FoundAs category names attrs) ∧
        ∀ message, Names.parse category text = .error message ↔
          ∃ name, FirstUnknown category names name ∧
            message = "Unknown " ++ category.name ++ " attribute '" ++ name ++ "'. Valid names: " ++
              joined ", " ((Attribute.inCategory category).map Attribute.name))) ∧
    ∀ parts attrs, Spells category parts attrs →
      Names.parse category (joined "," parts) = .ok attrs := by
  refine ⟨lowers_own text, fun attr lowered own small => found_by_small_letters small, ?_, ?_,
    fun parts attrs => spells_read⟩
  · intro all
    rw [parse_all all, all_of_category]
  · have named : Named text (Names.pieces text) := pieces_iff.mp rfl
    refine ⟨Names.pieces text, named, fun others again => named_unique named again,
      fun several => ?_⟩
    rw [parse_named named several]
    refine ⟨?_, fun attrs => resolved_ok_iff, fun message => ?_⟩
    · simp only [resolved_ok_iff, known_exists_iff]
    · rw [resolved_error_iff]
      rfl

/-- The sign for kelvin counts as a letter, and of two unknown names the first one is told. -/
theorem directory_lists_read :
    let parts := ["\t" ++ "LINKCOUNT" ++ " ", " ", "" ++ "physicalSize" ++ "", "",
      "\n" ++ "lin\u212ACount" ++ "\n"]
    let attrs : List Attribute :=
      [.directory .linkCount, .directory .allocationSize, .directory .linkCount]
    let text := "linkcount, SIZE,,name"
    let names := ["linkcount", "SIZE", "name"]
    (Lowers "lin\u212ACount" "linkcount" ∧ Lowers "linkCount" "linkcount" ∧
      Attribute.find? .directory "lin\u212ACount" = some (.directory .linkCount)) ∧
    (SaysAll "\tAll " ∧ Names.parse .directory "\tAll " = .ok (Attribute.inCategory .directory)) ∧
    (Spells .directory parts attrs ∧ Names.parse .directory (joined "," parts) = .ok attrs) ∧
    ¬SaysAll text ∧ Named text names ∧ FirstUnknown .directory names "SIZE" ∧
    Names.parse .directory text = .error ("Unknown directory attribute 'SIZE'. Valid names: " ++
      "linkCount, entryCount, mountStatus, physicalSize, ioBlockSize, logicalSize") := by
  intro parts attrs text names
  have kelvin : lowercase "lin\u212ACount" = "linkcount" := by decide +kernel
  have plain : lowercase "linkCount" = "linkcount" := by decide +kernel
  have other : Lowers "lin\u212ACount" "linkcount" := kelvin ▸ lowers_own _
  have own : Lowers "linkCount" "linkcount" := plain ▸ lowers_own _
  have all : SaysAll "\tAll " := says_all_iff.mpr (by decide +kernel)
  have every : (Attribute.inCategory .directory).filter (fun attr => ¬Refused attr ∧
      attr ≠ .common .returnedAttributes ∧ attr ≠ .common .error ∧ attr ≠ .common .finderInfo) =
      Attribute.inCategory .directory := by decide +kernel
  have spells : Spells .directory parts attrs :=
    .name rfl (by decide +kernel) rfl rfl <| .blank rfl <| .name rfl rfl rfl rfl <| .blank rfl <|
      .name rfl (by decide +kernel) rfl rfl .nil
  have several : ¬SaysAll text := fun all => absurd (says_all_iff.mp all) (by decide +kernel)
  have named : Named text names := pieces_iff.mp (by decide +kernel)
  have unknown : FirstUnknown .directory names "SIZE" := by
    have known : Attribute.find? .directory "linkcount" = some (.directory .linkCount) :=
      found_iff.mpr ⟨rfl, by decide +kernel⟩
    refine ⟨["linkcount"], ["name"], rfl, unknown_iff.mpr (by decide +kernel), ?_⟩
    rw [List.forall_mem_singleton, known]
    exact Option.some_ne_none _
  obtain ⟨_, found, _, _, _⟩ := names_read_exactly .directory "lin\u212ACount"
  obtain ⟨_, _, said, _, _⟩ := names_read_exactly .directory "\tAll "
  obtain ⟨_, _, _, ⟨others, _, unique, read⟩, spelled⟩ := names_read_exactly .directory text
  have refused := ((read several).2.2 _).mpr ⟨"SIZE", unique names named ▸ unknown, rfl⟩
  refine ⟨⟨other, own, (found (.directory .linkCount) _ _ other own).mpr ⟨rfl, rfl⟩⟩,
    ⟨all, every ▸ said all⟩, ⟨spells, spelled parts attrs spells⟩, several, named, unknown,
    refused.trans ?_⟩
  decide +kernel

end PackedAttributes.NameParsing
