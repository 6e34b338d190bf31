import PackedAttributes.Listing
import PackedAttributes.Proofs.NameParsing
import PackedAttributes.Proofs.PresentValues
import PackedAttributes.Proofs.QuotedText

/-! The lines of a listing. Every attribute has one line, except for the error of an entry, and the
line says whose it is before anything that comes from outside. No value breaks its line, so what an
object is called, or where a volume is mounted, cannot pass for the line of another attribute. -/
namespace PackedAttributes.ListingLines
open ActivityOutcomes CatalogMasks Listing NameParsing PresentValues QuotedText RecordDecoding Text TextPieces

/-! ## Numbers -/

theorem text_shown (text : String) : toString text = text :=
  rfl

@[simp] theorem decimal_digits_unbroken (n : Nat) : Unbroken (Nat.toDigits 10 n) :=
  to_digits_unbroken (by decide) (by decide) n

theorem word_unbroken (word : UInt32) : Unbroken (toString word).toList := by
  change Unbroken (toString word.toNat).toList
  simp

@[simp] theorem integer_unbroken (n : Int) : Unbroken n.repr.toList := by
  cases n with
  | ofNat n =>
    change Unbroken n.repr.toList
    simp
  | negSucc n =>
    change Unbroken ("-" ++ (n + 1).repr).toList
    simp

/-- What holds of all digits of a base holds of all digits of a padded number. -/
theorem padded_forall {property : Char → Prop} (wide : 1 < base)
    (all : ∀ digit < base, property (Nat.digitChar digit)) (width n : Nat) :
    ∀ c ∈ (padLeft width '0' (numeral base n)).toList, property c := by
  intro c member
  rw [padLeft, numeral, String.toList_append, String.toList_ofList, String.toList_ofList] at member
  rcases List.mem_append.mp member with padding | digit
  · rw [List.eq_of_mem_replicate padding]
    exact all 0 (by omega)
  · exact to_digits_forall wide all n c digit

theorem padded_unbroken (wide : 1 < base) (narrow : base ≤ 16) (width n : Nat) :
    Unbroken (padLeft width '0' (numeral base n)).toList :=
  padded_forall wide (fun digit small => hex_digit_unbroken digit (by omega)) width n

@[simp] theorem hexadecimal_unbroken (width n : Nat) : Unbroken (hexadecimal width n).toList :=
  padded_unbroken (by decide) (by decide) width n

theorem octal_unbroken (width n : Nat) : Unbroken (octal width n).toList :=
  padded_unbroken (by decide) (by decide) width n

@[simp] theorem decimal_unbroken (width n : Nat) : Unbroken (decimal width n).toList :=
  padded_unbroken (by decide) (by decide) width n

theorem capital_byte_unbroken (byte : UInt8) : Unbroken (capitalHexByte byte).toList := by
  have digits : ∀ c ∈ (hexByte byte).toList, c.toUpper ≠ '\n' ∧ c.toUpper ≠ '\r' :=
    padded_forall (by decide) (by decide) 2 byte.toNat
  rw [capitalHexByte, String.toList_map]
  exact List.forall_mem_map.mpr digits

@[simp] theorem hex_word_unbroken (word : Int32) : Unbroken (hexWord word).toList := by
  have digits := to_digits_unbroken (by decide) (Nat.le_refl 16) word.toUInt32.toNat
  simp [hexWord, numeral, digits]

/-! ## Sequences -/

theorem joined_unbroken (flat : Unbroken separator.toList)
    (each : ∀ part ∈ parts, Unbroken part.toList) : Unbroken (joined separator parts).toList := by
  rw [joined, String.toList_intercalate]
  induction parts with
  | nil => simp
  | cons part rest ih =>
    obtain ⟨own, others⟩ := List.forall_mem_cons.mp each
    cases rest with
    | nil => simpa using own
    | cons next rest =>
      rw [List.map_cons, List.map_cons, List.intercalate_cons_cons]
      simpa [own, flat] using ih others

theorem sequence_unbroken (each : ∀ part ∈ parts, Unbroken part.toList) :
    Unbroken (Text.sequence parts).toList := by
  have inner : Unbroken (joined ", " parts).toList := joined_unbroken (by decide) each
  simp [Text.sequence, inner]

/-! ## Values -/

theorem visible_byte_unbroken {byte : UInt8} (visible : 0x20 ≤ byte) :
    Char.ofNat byte.toNat ≠ '\n' ∧ Char.ofNat byte.toNat ≠ '\r' := by
  have all : ∀ n < 256, 0x20 ≤ n → Char.ofNat n ≠ '\n' ∧ Char.ofNat n ≠ '\r' := by decide +kernel
  exact all byte.toNat byte.toNat_lt (UInt8.le_iff_toNat_le.mp visible)

theorem code_unbroken (code : UInt32) : Unbroken (fourCharacterCode code).toList := by
  by_cases visible : (Bytes.ofBigWord32 code).all (fun byte => 0x20 ≤ byte && byte ≤ 0x7E) = true
  · have shown : Unbroken ((Bytes.ofBigWord32 code).map fun byte => Char.ofNat byte.toNat) := by
      intro c member
      obtain ⟨byte, inside, rfl⟩ := List.mem_map.mp member
      have range := List.all_eq_true.mp visible byte inside
      exact visible_byte_unbroken (of_decide_eq_true (Bool.and_eq_true_iff.mp range).1)
    simp [fourCharacterCode, visible, shown]
  · simp [fourCharacterCode, visible, text_shown]

theorem seconds_unbroken (nanoseconds : Nat) : Unbroken (secondsText nanoseconds).toList := by
  simp [secondsText, text_shown]

theorem set_unbroken (set : AttributeSet) : Unbroken set.text.toList :=
  joined_unbroken (by decide) (List.forall_mem_map.mpr fun mask _ => hexadecimal_unbroken 8 mask.toNat)

theorem guid_digits_unbroken (guid : Guid) (first past : Nat) :
    Unbroken (guid.digits first past).toList :=
  joined_unbroken (by decide) (List.forall_mem_map.mpr fun byte _ => capital_byte_unbroken byte)

theorem guid_unbroken (guid : Guid) : Unbroken guid.text.toList :=
  joined_unbroken (by decide) (by simp [guid_digits_unbroken])

theorem extents_unbroken (extents : Extents) : Unbroken extents.text.toList := by
  refine sequence_unbroken (List.forall_mem_map.mpr fun run _ => ?_)
  simp [Extent.text, text_shown, word_unbroken]

theorem hex_text_unbroken (bytes : Bytes) : Unbroken bytes.hexText.toList := by
  rw [Bytes.hexText, String.toList_join]
  exact unbroken_flat_map (List.forall_mem_map.mpr fun byte _ => hexadecimal_unbroken 2 byte.toNat)

theorem blob_unbroken (bytes : Bytes) : Unbroken (Value.blobText bytes).toList := by
  simp only [Value.blobText, text_shown]
  split <;> split <;> simp [hex_text_unbroken]

theorem type_unbroken (type : ObjectType) : Unbroken type.text.toList := by
  cases type with
  | unknown number => simp [ObjectType.text, text_shown, word_unbroken]
  | _ => decide

theorem finder_info_unbroken (info : FinderInfo) : Unbroken info.text.toList := by
  unfold FinderInfo.text
  cases info <;> simp [text_shown, code_unbroken]

/-- No value breaks the line that it is shown in. -/
theorem display_unbroken (value : Value) : Unbroken value.display.toList := by
  cases value with
  | word32 word => exact word_unbroken word
  | word64 word =>
    change Unbroken (toString word.toNat).toList
    simp
  | offset word => exact integer_unbroken word.toInt
  | device word => exact hex_word_unbroken word
  | filesystemId id => simp [Value.display, FilesystemId.text, text_shown]
  | objectType type => exact type_unbroken type
  | objectId id => simp [Value.display, ObjectId.text, text_shown, word_unbroken]
  | timespec time =>
    simp only [Value.display, Timespec.text]
    split <;> simp [seconds_unbroken]
  | guid id => exact guid_unbroken id
  | accessMask permissions => exact octal_unbroken 4 permissions.toNat
  | volumeCapabilities volume => simp [Value.display, VolumeCapabilities.text, text_shown]
  | volumeSupport volume => simp [Value.display, VolumeSupport.text, text_shown, set_unbroken]
  | extents runs => exact extents_unbroken runs
  | text content => exact quoted_unbroken content
  | blob bytes => exact blob_unbroken bytes
  | finderInfo info => exact finder_info_unbroken info

/-! ## Lines -/

/-- Lines as a text are the lines and an empty text joined by line feeds. -/
theorem joined_unlines (lines : List String) :
    joined (String.singleton '\n') (lines ++ [""]) = unlines lines := by
  rw [← String.toList_inj, joined, unlines, String.toList_intercalate, String.toList_join]
  induction lines with
  | nil => rfl
  | cons line rest ih =>
    obtain ⟨next, others, same⟩ := List.exists_cons_of_ne_nil
      (List.append_ne_nil_of_right_ne_nil rest (List.cons_ne_nil "" []))
    rw [List.map_cons, List.flatMap_cons, ← ih, List.cons_append, same, List.map_cons, List.map_cons,
      List.intercalate_cons_cons, String.toList_append]
    rfl

/-- Lines that no line feed breaks are what stands between the line feeds of a text, behind the last of
which there is nothing. -/
theorem unlines_split (flat : ∀ line ∈ lines, Unbroken line.toList) :
    split '\n' (unlines lines) = lines ++ [""] := by
  refine split_iff.mpr ⟨by simp, fun line member broken => ?_, joined_unlines lines⟩
  rcases List.mem_append.mp member with own | last
  · exact (flat line own '\n' broken).1 rfl
  · rw [List.mem_singleton.mp last] at broken
    exact List.not_mem_nil broken

/-! ## Names -/

theorem category_letters (category : Category) : ∀ c ∈ category.name.toList, c.isAlpha = true := by
  have letters : category.name.toList.all Char.isAlpha = true := by cases category <;> decide
  simpa using letters

theorem category_name_injective {category other : Category} (same : category.name = other.name) :
    category = other := by
  cases category <;> cases other <;> first | rfl | exact absurd same (by decide)

theorem letters_unbroken {chars : List Char} (letters : ∀ c ∈ chars, c.isAlpha = true) :
    Unbroken chars := by
  intro c member
  constructor <;> rintro rfl <;> exact absurd (letters _ member) (by decide)

theorem letters_no_mark {chars : List Char} (letters : ∀ c ∈ chars, c.isAlpha = true)
    (mark : c.isAlpha = false) : c ∉ chars :=
  fun member => by simp [letters c member] at mark

/-- Texts that are equal are equal in front of the first mark and behind it. -/
theorem cut_at_mark {front other : List Char} (own : mark ∉ front) (also : mark ∉ other)
    (same : front ++ mark :: rest = other ++ mark :: behind) : front = other ∧ rest = behind := by
  induction front generalizing other with
  | nil =>
    cases other with
    | nil => exact ⟨rfl, (List.cons.inj same).2⟩
    | cons c other =>
      obtain ⟨first, _⟩ := List.cons.inj same
      exact absurd (first ▸ List.mem_cons_self) also
  | cons c front ih =>
    rw [List.mem_cons, not_or] at own
    cases other with
    | nil => exact absurd (List.cons.inj same).1.symm own.1
    | cons d other =>
      rw [List.mem_cons, not_or] at also
      obtain ⟨first, others⟩ := List.cons.inj same
      obtain ⟨fronts, rests⟩ := ih own.2 also.2 others
      exact ⟨by rw [first, fronts], rests⟩

/-- The line for an attribute behind an indent, with any text in the place of the value. -/
def lineFor (indent : String) (attr : Attribute) (shown : String) : String :=
  indent ++ attr.category.name ++ "." ++ attr.name ++ " = " ++ shown

theorem line_for_chars (indent : String) (attr : Attribute) (shown : String) :
    (lineFor indent attr shown).toList = indent.toList ++
      (attr.category.name.toList ++ '.' :: (attr.name.toList ++ ' ' :: '=' :: ' ' :: shown.toList)) := by
  simp [lineFor]

/-- A line tells the attribute that it is for, whatever is shown behind the name. -/
theorem line_for_injective (same : lineFor indent attr shown = lineFor indent other also) :
    attr = other ∧ shown = also := by
  have letters (attr : Attribute) : ∀ c ∈ attr.name.toList, c.isAlpha = true :=
    fun c member => ((name_letters attr).2 c member).2
  have chars := congrArg String.toList same
  rw [line_for_chars, line_for_chars, List.append_cancel_left_eq] at chars
  obtain ⟨categories, behind⟩ := cut_at_mark
    (letters_no_mark (category_letters _) (by decide)) (letters_no_mark (category_letters _) (by decide))
    chars
  obtain ⟨names, texts⟩ := cut_at_mark
    (letters_no_mark (letters attr) (by decide)) (letters_no_mark (letters other) (by decide)) behind
  have category := category_name_injective (String.toList_inj.mp categories)
  have key : attr.key = other.key := by
    rw [Attribute.key, Attribute.key, category, String.toList_inj.mp names]
  refine ⟨key_injective key, String.toList_inj.mp ?_⟩
  simpa using texts

theorem line_for_unbroken (indented : Unbroken indent.toList) (attr : Attribute) (value : Value) :
    Unbroken (lineFor indent attr value.display).toList := by
  have category := letters_unbroken (category_letters attr.category)
  have name := letters_unbroken fun c member => ((name_letters attr).2 c member).2
  simp [line_for_chars, indented, category, name, display_unbroken value]

/-! ## Listings -/

theorem value_lines_eq (values : AttributeValues) (indent : String) :
    valueLines values indent = (values.entries.filter fun entry => entry.1 != .common .error).map
      fun entry => lineFor indent entry.1 entry.2.display := by
  refine List.map_congr_left fun entry _ => ?_
  simp [lineFor, Attribute.qualifiedName, text_shown, ← String.toList_inj]

theorem mem_value_lines {record : Record} (decoded : record.decode.outcome = .ok values) :
    lineFor indent attr shown ∈ valueLines values indent ↔
      attr ≠ .common .error ∧ ∃ value, values.get? attr = some value ∧ value.display = shown := by
  rw [value_lines_eq, List.mem_map]
  constructor
  · rintro ⟨⟨own, value⟩, kept, same⟩
    obtain ⟨rfl, rfl⟩ := line_for_injective same
    obtain ⟨inside, other⟩ := List.mem_filter.mp kept
    exact ⟨bne_iff_ne.mp other, value, (decoded_get_iff decoded).mpr inside, rfl⟩
  · rintro ⟨other, value, found, rfl⟩
    have inside := (decoded_get_iff decoded).mp found
    exact ⟨(attr, value), List.mem_filter.mpr ⟨inside, bne_iff_ne.mpr other⟩, rfl⟩

/-- The attributes that have a line, in the order of their fields in the record. -/
def listed (record : Record) : List Attribute :=
  record.present.fields.filter (fun attr => attr != .common .error)

theorem listed_eq {record : Record} (decoded : record.decode.outcome = .ok values) :
    listed record = (values.entries.filter fun entry => entry.1 != .common .error).map Prod.fst := by
  rw [listed, ← decoded_keys decoded, List.filter_map]
  rfl

theorem lines_in_order {record : Record} (decoded : record.decode.outcome = .ok values) :
    List.Forall₂ (fun attr line => ∃ value, values.get? attr = some value ∧
        line = lineFor indent attr value.display)
      (listed record) (valueLines values indent) := by
  rw [listed_eq decoded, value_lines_eq, List.forall₂_map_left_iff, List.forall₂_map_right_iff,
    List.forall₂_same]
  intro entry member
  exact ⟨entry.2, (decoded_get_iff decoded).mpr (List.mem_of_mem_filter member), rfl⟩

theorem listed_count {record : Record} (decoded : record.decode.outcome = .ok values) :
    (listed record).length + (if values.contains (.common .error) then 1 else 0) = values.size := by
  have size : values.size = record.present.fields.length := by
    rw [← decoded_keys decoded, List.length_map, AttributeValues.size]
  have present : values.contains (.common .error) = true ↔
      Attribute.common .error ∈ record.present.fields := by
    rw [mem_fields_iff, ← decoded_present_iff decoded, AttributeValues.contains]
  rw [size, listed, ← (fields_nodup record.present).erase_eq_filter]
  split
  · rename_i shown
    exact List.length_erase_add_one (present.mp shown)
  · rename_i absent
    rw [List.erase_of_not_mem (mt present.mpr absent), Nat.add_zero]

/-- A decoded record is listed with one line for every attribute but the error of an entry, in the order
of the record. What is listed has as many line feeds as lines and no carriage returns, and a line for an
attribute is there only if the attribute is, with its own value. Texts show all of what they are. -/
theorem listing_holds_attributes (record : Record) (values : AttributeValues) (indent : String)
    (decoded : record.decode.outcome = .ok values) (indented : Unbroken indent.toList) :
    let lines := valueLines values indent
    List.Forall₂ (fun attr line => ∃ value, values.get? attr = some value ∧
        line = lineFor indent attr value.display) (listed record) lines ∧
    lines.length + (if values.contains (.common .error) then 1 else 0) = values.size ∧
    split '\n' (unlines lines) = lines ++ [""] ∧
    (∀ line ∈ lines, Unbroken line.toList) ∧
    (∀ attr shown, lineFor indent attr shown ∈ lines ↔
      attr ≠ .common .error ∧ ∃ value, values.get? attr = some value ∧ value.display = shown) ∧
    (∀ value : Value, Unbroken value.display.toList) ∧
    (∀ text, unquote? (Value.text text).display = some text) ∧
    ∀ text other, text ≠ other → (Value.text text).display ≠ (Value.text other).display := by
  intro lines
  have order : List.Forall₂ _ (listed record) lines := lines_in_order decoded
  have flat : ∀ line ∈ lines, Unbroken line.toList := by
    intro line member
    rw [show lines = _ from value_lines_eq values indent] at member
    obtain ⟨⟨attr, value⟩, _, rfl⟩ := List.mem_map.mp member
    exact line_for_unbroken indented attr value
  refine ⟨order, ?_, unlines_split flat, flat, fun _ _ => mem_value_lines decoded, display_unbroken,
    unquote_quoted, fun _ _ => mt quoted_injective⟩
  rw [← order.length_eq, listed_count decoded]

/-- The name of an object that tries to add a line about its links stays in the line of the name. -/
theorem hostile_name_listed :
    let returned : AttributeSet := ⟨0x20000001, 0, 0, 0, 0⟩
    let requested : AttributeSet := ⟨0xA0000001, 0, 0, 0, 0⟩
    let name := "x\nfile.linkCount = 9"
    let bytes := [57, 0, 0, 0] ++ returned.toBytes ++ [2, 0, 0, 0] ++ [8, 0, 0, 0] ++ [21, 0, 0, 0] ++
      Utf8.encode name ++ [0]
    let record : Record := ⟨bytes, requested, some returned⟩
    let values : AttributeValues := ⟨[(.common .error, .word32 2), (.common .name, .text name)]⟩
    Record.parse bytes requested = .ok record ∧ record.decode.outcome = .ok values ∧
    Unbroken "".toList ∧
    unlines (valueLines values "") = "common.name = \"x\\nfile.linkCount = 9\"\n" ∧
    split '\n' (unlines (valueLines values "")) = valueLines values "" ++ [""] ∧
    (valueLines values "").length + 1 = values.size ∧
    lineFor "" (.file .linkCount) "9" ∉ valueLines values "" := by
  intro returned requested name bytes record values
  have parsed : Record.parse bytes requested = .ok record :=
    to_option_ok_iff.mp (by decide +kernel)
  have decoded : record.decode.outcome = .ok values := to_option_ok_iff.mp (by decide +kernel)
  have indented : Unbroken "".toList := unbroken_nil
  obtain ⟨_, size, cut, _, member, _⟩ := listing_holds_attributes record values "" decoded indented
  have failed : values.contains (.common .error) = true := by decide +kernel
  have absent : values.get? (.file .linkCount) = none := by decide +kernel
  rw [if_pos failed] at size
  refine ⟨parsed, decoded, indented, by decide +kernel, cut, size, fun forged => ?_⟩
  obtain ⟨_, value, found, _⟩ := (member _ _).mp forged
  exact absurd (absent.symm.trans found) nofun

end PackedAttributes.ListingLines
