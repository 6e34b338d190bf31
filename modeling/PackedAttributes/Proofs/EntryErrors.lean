import PackedAttributes.Listing
import PackedAttributes.Proofs.DirectoryReading
import PackedAttributes.Proofs.ValueShapes

/-! What a listing tells about the errors of entries. An error is shown in words, in a line of its own,
and not among the attributes. It has words only if it is a positive signed number, so an entry with a
greater word looks like one without an error. -/
namespace PackedAttributes.EntryErrors
open ActivityOutcomes PresentValues ValueShapes DirectoryReading Listing

/-! ## Error numbers -/

/-- The words that are error numbers: zero stands for no error, and the number is a signed one. -/
def NumbersError (word : UInt32) : Prop :=
  word ≠ 0 ∧ word.toNat < 0x80000000

theorem error_word_iff {record : Record} {values : AttributeValues}
    (decoded : record.decode.outcome = .ok values) :
    (values.get? (.common .error)).bind Value.asWord32? = some word ↔
      values.get? (.common .error) = some (.word32 word) :=
  view_some_iff decoded (fun _ => rfl) fun _ ⟨own, same, _⟩ => ⟨own, same⟩

theorem error_number_iff {record : Record} {values : AttributeValues}
    (decoded : record.decode.outcome = .ok values) :
    values.errorNumber? = some number ↔
      values.get? (.common .error) = some (.word32 number) ∧ NumbersError number := by
  rw [AttributeValues.errorNumber?, Option.filter_eq_some_iff, error_word_iff decoded]
  simp [NumbersError]

theorem error_present_iff {record : Record} {values : AttributeValues}
    (decoded : record.decode.outcome = .ok values) :
    record.present.contains (.common .error) = true ↔
      ∃ word, values.get? (.common .error) = some (.word32 word) := by
  rw [← field_present_iff decoded (by decide), Option.isSome_iff_exists]
  constructor
  · rintro ⟨value, found⟩
    obtain ⟨word, rfl, _⟩ := decoded_shows decoded found
    exact ⟨word, found⟩
  · rintro ⟨word, found⟩
    exact ⟨_, found⟩

/-! ## Lines -/

/-- The line begins with the text. -/
def Begins (line front : String) : Prop :=
  front.toList <+: line.toList

instance (line front : String) : Decidable (Begins line front) :=
  inferInstanceAs (Decidable (_ <+: _))

theorem append_begins (front rest : String) : Begins (front ++ rest) front := by
  rw [Begins, String.toList_append]
  exact List.prefix_append _ _

/-- No line begins with both of the texts. -/
def Apart (front other : String) : Prop :=
  ¬Begins front other ∧ ¬Begins other front

instance (front other : String) : Decidable (Apart front other) :=
  inferInstanceAs (Decidable (_ ∧ _))

theorem apart_not_begins (apart : Apart front other) (begins : Begins line front) :
    ¬Begins line other := by
  intro both
  rcases List.prefix_or_prefix_of_prefix both begins with before | behind
  · exact apart.1 before
  · exact apart.2 behind

theorem append_apart (shared : String) (apart : Apart front other) :
    Apart (shared ++ front) (shared ++ other) := by
  simpa only [Apart, Begins, String.toList_append, List.prefix_append_right_inj] using apart

theorem error_line_begins (number : UInt32) : Begins (errorLine number) "  error = " :=
  append_begins _ _

theorem category_error_apart (category : Category) : Apart s!"  {category.name}." "  error = " := by
  cases category <;> decide +kernel

theorem other_category_apart {category : Category} (other : category ≠ .common) :
    Apart s!"  {category.name}." "  common.error = " := by
  cases category with
  | common => exact absurd rfl other
  | _ => decide +kernel

theorem common_names_apart : ∀ attr : Attribute, attr.category = .common →
    attr ≠ .common .error → Apart s!"{attr.name} = " "error = " := by
  decide +kernel

theorem value_line_fronts (member : line ∈ valueLines values "  ") :
    ∃ attr : Attribute, attr ≠ .common .error ∧ Begins line s!"  {attr.category.name}." ∧
      Begins line (s!"  {attr.category.name}." ++ s!"{attr.name} = ") := by
  obtain ⟨⟨attr, value⟩, kept, rfl⟩ := List.mem_map.mp member
  have other : attr ≠ .common .error := bne_iff_ne.mp (List.mem_filter.mp kept).2
  have line : s!"  {attr.qualifiedName} = {value.display}" =
      s!"  {attr.category.name}." ++ s!"{attr.name} = " ++ value.display := by
    simp only [Attribute.qualifiedName, toString, String.append_assoc]
  refine ⟨attr, other, ?_, ?_⟩
  · change Begins s!"  {attr.qualifiedName} = {value.display}" _
    rw [line, String.append_assoc]
    exact append_begins _ _
  · change Begins s!"  {attr.qualifiedName} = {value.display}" _
    rw [line]
    exact append_begins _ _

theorem value_line_apart (member : line ∈ valueLines values "  ") :
    ¬Begins line "  error = " ∧ ¬Begins line "  common.error = " := by
  obtain ⟨attr, other, category, name⟩ := value_line_fronts member
  refine ⟨apart_not_begins (category_error_apart _) category, ?_⟩
  by_cases common : attr.category = .common
  · have front : "  common.error = " = s!"  {attr.category.name}." ++ "error = " := by
      rw [common]
      decide +kernel
    rw [front]
    exact apart_not_begins (append_apart _ (common_names_apart attr common other)) name
  · exact apart_not_begins (other_category_apart common) category

/-- The lines about errors, among the lines for an entry that stand behind its name. -/
def errorLines (lines : List String) : List String :=
  lines.tail.filter (fun line => Begins line "  error = ")

theorem entry_error_lines (values : AttributeValues) :
    errorLines (entryLines values) = (values.errorNumber?.map errorLine).toList := by
  have shown : ∀ line ∈ (values.errorNumber?.map errorLine).toList, Begins line "  error = " := by
    intro line member
    obtain ⟨number, _, rfl⟩ := Option.map_eq_some_iff.mp (Option.mem_toList.mp member)
    exact error_line_begins number
  have others : ∀ line ∈ valueLines values "  ", ¬Begins line "  error = " :=
    fun line member => (value_line_apart member).1
  rw [errorLines, entryLines, List.tail_cons, List.filter_append, List.filter_eq_self.mpr,
    List.filter_eq_nil_iff.mpr, List.append_nil]
  · simpa using others
  · simpa using shown

theorem error_value_unlisted (member : line ∈ (entryLines values).tail) :
    ¬Begins line "  common.error = " := by
  rw [entryLines, List.tail_cons, List.mem_append] at member
  rcases member with told | value
  · obtain ⟨number, _, rfl⟩ := Option.map_eq_some_iff.mp (Option.mem_toList.mp told)
    exact apart_not_begins (by decide +kernel) (error_line_begins number)
  · exact (value_line_apart value).2

/-! ## Listings -/

theorem listing_ok_iff {reader : DirectoryReader} :
    (directoryLines reader directory selection options script).traced.outcome = .ok lines ↔
      ∃ entries, (reader.read directory (entrySelection selection) options script).traced.outcome =
        .ok entries ∧ entries.flatMap entryLines = lines := by
  change (bind (reader.read directory (entrySelection selection) options) _ script).traced.outcome = _ ↔ _
  simp only [bind]
  cases (reader.read directory (entrySelection selection) options script).traced.outcome with
  | error failure => simp
  | ok entries => simp [pure]

/-- The word of the error is not zero. -/
def HasError (values : AttributeValues) : Prop :=
  ∃ word, values.get? (.common .error) = some (.word32 word) ∧ word ≠ 0

/-- There is an error number exactly if there is an error, and then there is a line for it as well. -/
def ErrorKnown (values : AttributeValues) : Prop :=
  (values.errorNumber?.isSome = true ↔ HasError values) ∧
    (HasError values → errorLines (entryLines values) ≠ [])

/-- What an entry and its lines tell about its error: if its word is an error number, one line tells
the error in words, and if not, none does. The word itself is not listed either way. So an error
stays unknown exactly if the highest bit of its word is set. -/
structure ErrorTold (values : AttributeValues) : Prop where
  number_iff : ∀ number, values.errorNumber? = some number ↔
    values.get? (.common .error) = some (.word32 number) ∧ NumbersError number
  shown : errorLines (entryLines values) = (values.errorNumber?.map errorLine).toList
  unlisted : ∀ line ∈ (entryLines values).tail, ¬Begins line "  common.error = "
  known_iff : ErrorKnown values ↔
    ∀ word, values.get? (.common .error) = some (.word32 word) → word.toNat < 0x80000000

theorem has_error_of_number {record : Record} {values : AttributeValues}
    (decoded : record.decode.outcome = .ok values) (number : values.errorNumber?.isSome = true) :
    HasError values := by
  obtain ⟨word, told⟩ := Option.isSome_iff_exists.mp number
  obtain ⟨found, nonzero, _⟩ := (error_number_iff decoded).mp told
  exact ⟨word, found, nonzero⟩

theorem error_known_iff {record : Record} {values : AttributeValues}
    (decoded : record.decode.outcome = .ok values) :
    ErrorKnown values ↔
      ∀ word, values.get? (.common .error) = some (.word32 word) → word.toNat < 0x80000000 := by
  constructor
  · intro known word found
    by_cases zero : word = 0
    · subst zero
      decide
    obtain ⟨number, told⟩ := Option.isSome_iff_exists.mp (known.1.mpr ⟨word, found, zero⟩)
    obtain ⟨same, _, small⟩ := (error_number_iff decoded).mp told
    cases found.symm.trans same
    exact small
  · intro small
    have number : HasError values → values.errorNumber?.isSome = true := by
      rintro ⟨word, found, nonzero⟩
      exact Option.isSome_iff_exists.mpr
        ⟨word, (error_number_iff decoded).mpr ⟨found, nonzero, small word found⟩⟩
    refine ⟨⟨has_error_of_number decoded, number⟩, ?_⟩
    intro error
    obtain ⟨word, told⟩ := Option.isSome_iff_exists.mp (number error)
    rw [entry_error_lines, told]
    nofun

theorem decoded_error_told {record : Record} {values : AttributeValues}
    (decoded : record.decode.outcome = .ok values) : ErrorTold values where
  number_iff _ := error_number_iff decoded
  shown := entry_error_lines values
  unlisted _ := error_value_unlisted
  known_iff := error_known_iff decoded

/-- The error of a record is there exactly if its bit is set, and it is any word. A positive signed
number among these words is shown, in a line of its own among the lines for its entry, and no other
line tells of an error; where the highest bit of the word is set, neither a number nor a line does.
Every listing of a directory consists of such entries, one behind the other. -/
theorem numbered_errors_shown (record : Record) (values : AttributeValues)
    (decoded : record.decode.outcome = .ok values) :
    (record.present.contains (.common .error) = true ↔
      ∃ word, values.get? (.common .error) = some (.word32 word)) ∧
    ErrorTold values ∧
    ∀ (reader : DirectoryReader) directory selection options script lines,
      (directoryLines reader directory selection options script).traced.outcome = .ok lines →
        ∃ entries, (reader.read directory (entrySelection selection) options script).traced.outcome =
          .ok entries ∧ lines = entries.flatMap entryLines ∧ ∀ entry ∈ entries, ErrorTold entry := by
  refine ⟨error_present_iff decoded, decoded_error_told decoded, ?_⟩
  intro reader directory selection options script lines listed
  obtain ⟨entries, read, rfl⟩ := listing_ok_iff.mp listed
  refine ⟨entries, read, rfl, ?_⟩
  intro entry member
  obtain ⟨_, own⟩ := read_entry_decoded read member
  exact decoded_error_told own

/-- An entry with an error and a name. -/
def failedEntry (error : UInt32) : Bytes :=
  [38, 0, 0, 0] ++ AttributeSet.toBytes ⟨0x20000001, 0, 0, 0, 0⟩ ++ Bytes.ofWord32 error ++
    [8, 0, 0, 0, 2, 0, 0, 0] ++ [0x61, 0]

/-- The same entry as a record of its own and in a listing that asks for nothing else. -/
theorem denied_entry_shown :
    let record : Record := ⟨failedEntry 13, ⟨0xA0000001, 0, 0, 0, 0⟩, some ⟨0x20000001, 0, 0, 0, 0⟩⟩
    let told := ["  error = Permission denied (os error 13)"]
    (∃ values, record.decode.outcome = .ok values ∧ values.errorNumber? = some 13 ∧
      errorLines (entryLines values) = told) ∧
    ∃ lines, (directoryLines ⟨64⟩ 3 .empty .none [.success record.bytes 1]).traced.outcome = .ok lines ∧
      errorLines lines = told := by
  intro record told
  let values : AttributeValues := ⟨[(.common .error, .word32 13), (.common .name, .text "a")]⟩
  have decoded : record.decode.outcome = .ok values := to_option_ok_iff.mp (by decide +kernel)
  obtain ⟨_, ⟨number, shown, _, _⟩, listed⟩ := numbered_errors_shown record values decoded
  have own : values.errorNumber? = some 13 := (number 13).mpr ⟨rfl, by decide, by decide⟩
  have words : (values.errorNumber?.map errorLine).toList = told := by
    rw [own]
    decide +kernel
  refine ⟨⟨values, decoded, own, shown.trans words⟩, ?_⟩
  have read : (DirectoryReader.read ⟨64⟩ 3 (entrySelection .empty) .none
      [.success record.bytes 1]).traced.outcome = .ok [values] :=
    to_option_ok_iff.mp (by decide +kernel)
  have outcome := listing_ok_iff.mpr ⟨_, read, rfl⟩
  obtain ⟨entries, again, lines, each⟩ := listed _ _ _ _ _ _ outcome
  cases read.symm.trans again
  refine ⟨_, outcome, ?_⟩
  rw [List.flatMap_singleton]
  exact (each values (List.mem_singleton_self _)).shown.trans words

/-- The word of the error is not zero, and still the entry has no error number, and its only line is the
one for its missing name. -/
theorem greatest_error_hidden :
    let record : Record :=
      ⟨[8, 0, 0, 0, 0xFF, 0xFF, 0xFF, 0xFF], ⟨0x20000000, 0, 0, 0, 0⟩, none⟩
    ∃ values, record.decode.outcome = .ok values ∧
      values.get? (.common .error) = some (.word32 0xFFFFFFFF) ∧ values.errorNumber? = none ∧
      entryLines values = ["?"] := by
  refine ⟨⟨[(.common .error, .word32 0xFFFFFFFF)]⟩, to_option_ok_iff.mp (by decide +kernel), rfl, ?_, ?_⟩
  · decide
  · decide +kernel

end PackedAttributes.EntryErrors
