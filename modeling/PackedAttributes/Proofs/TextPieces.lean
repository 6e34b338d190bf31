import Mathlib.Data.List.TakeWhile
import PackedAttributes.Text.Basic
import PackedAttributes.Text.Lowercase

/-! Texts and their pieces. The parts between separators are those that give the text when they are
joined, what trimming leaves is the one piece that begins and ends without white space, and the small
letters of an ASCII text are what they look like. -/
namespace PackedAttributes.TextPieces
open Text

/-! ## Parts -/

theorem split_chars_eq (separator : Char) (chars : List Char) :
    splitChars separator chars = chars.splitOn separator := by
  induction chars with
  | nil => rfl
  | cons c rest ih =>
    have step := List.splitOnP_cons_eq_if_modifyHead (p := (· == separator)) c rest
    rw [splitChars, ih, List.splitOn, List.splitOn, step]
    by_cases same : c = separator
    · simp [same]
    · cases found : List.splitOnP (· == separator) rest with
      | nil => exact absurd found (List.splitOnP_ne_nil _ rest)
      | cons part parts => simp [same]

theorem separator_not_mem (separator : Char) (chars : List Char) :
    ∀ part ∈ splitChars separator chars, separator ∉ part := by
  induction chars with
  | nil => simp [splitChars]
  | cons c rest ih =>
    rw [splitChars]
    split
    · simpa using ih
    · rename_i other
      split
      · simpa using Ne.symm other
      · rename_i part parts found
        rw [found] at ih
        obtain ⟨own, others⟩ := List.forall_mem_cons.mp ih
        refine List.forall_mem_cons.mpr ⟨?_, others⟩
        simpa using ⟨Ne.symm other, own⟩

/-- What holds of all characters of all parts holds of all characters but the separators. -/
theorem split_chars_forall {property : Char → Prop} (separator : Char) (chars : List Char) :
    (∀ part ∈ splitChars separator chars, ∀ c ∈ part, property c) ↔
      ∀ c ∈ chars, c = separator ∨ property c := by
  induction chars with
  | nil => simp [splitChars]
  | cons c rest ih =>
    rw [splitChars, List.forall_mem_cons (a := c), ← ih]
    split
    · rename_i same
      simp [same]
    · rename_i other
      split
      · rename_i none
        simp [none, other]
      · rename_i part parts found
        simp [found, other, and_assoc]

/-- The parts of a text are the texts without a separator that give it when they are joined. -/
theorem split_iff {separator : Char} {text : String} {parts : List String} :
    split separator text = parts ↔ parts ≠ [] ∧ (∀ part ∈ parts, separator ∉ part.toList) ∧
      joined (String.singleton separator) parts = text := by
  have chars : (joined (String.singleton separator) parts).toList =
      [separator].intercalate (parts.map String.toList) := by
    rw [joined, String.toList_intercalate, String.toList_singleton]
  constructor
  · rintro rfl
    refine ⟨?_, ?_, ?_⟩
    · rw [split, split_chars_eq, ne_eq, List.map_eq_nil_iff]
      exact List.splitOn_ne_nil separator text.toList
    · intro part member
      obtain ⟨own, found, rfl⟩ := List.mem_map.mp member
      rw [String.toList_ofList]
      exact separator_not_mem separator text.toList own found
    · have same : (split separator text).map String.toList = splitChars separator text.toList := by
        simp [split, Function.comp_def]
      rw [← String.toList_inj, chars, same, split_chars_eq, List.intercalate_splitOn]
  · rintro ⟨nonempty, apart, rfl⟩
    have cut : parts.map String.toList ≠ [] := by simpa using nonempty
    rw [split, split_chars_eq, chars, List.splitOn_intercalate separator (by simpa using apart) cut]
    simp

theorem split_comma_iff {text : String} {parts : List String} : split ',' text = parts ↔
    parts ≠ [] ∧ (∀ part ∈ parts, ',' ∉ part.toList) ∧ joined "," parts = text :=
  split_iff

/-! ## Trimming -/

/-- The characters neither begin nor end with white space. -/
def BareChars (chars : List Char) : Prop :=
  (∀ c ∈ chars.head?, isWhiteSpace c = false) ∧ ∀ c ∈ chars.getLast?, isWhiteSpace c = false

theorem dropped_head (chars : List Char) :
    ∀ c ∈ (chars.dropWhile isWhiteSpace).head?, isWhiteSpace c = false := by
  intro c first
  have stopped := List.head?_dropWhile_not isWhiteSpace chars
  rwa [Option.mem_def.mp first] at stopped

theorem kept_of_head {chars : List Char} (bare : ∀ c ∈ chars.head?, isWhiteSpace c = false) :
    chars.dropWhile isWhiteSpace = chars := by
  cases chars with
  | nil => rfl
  | cons c rest => exact List.dropWhile_cons_of_neg (by simp [bare c rfl])

theorem trim_chars_bare (chars : List Char) : BareChars (trimChars chars) := by
  have last : ∀ c ∈ (trimChars chars).getLast?, isWhiteSpace c = false := by
    rw [trimChars, List.getLast?_reverse]
    exact dropped_head _
  refine ⟨?_, last⟩
  -- What is left begins where the characters without the white space in front of them begin.
  intro c first
  have rest : (trimChars chars) <+: chars.dropWhile isWhiteSpace := by
    rw [trimChars, ← List.reverse_suffix, List.reverse_reverse]
    exact List.dropWhile_suffix _
  obtain ⟨behind, same⟩ := rest
  refine dropped_head chars c ?_
  rw [← same, List.head?_append, Option.mem_def.mp first]
  rfl

theorem trim_chars_split (chars : List Char) : ∃ before behind,
    chars = before ++ trimChars chars ++ behind ∧
      (∀ c ∈ before, isWhiteSpace c = true) ∧ ∀ c ∈ behind, isWhiteSpace c = true := by
  let opened := chars.dropWhile isWhiteSpace
  refine ⟨chars.takeWhile isWhiteSpace, (opened.reverse.takeWhile isWhiteSpace).reverse, ?_,
    fun c member => List.mem_takeWhile_imp member,
    fun c member => List.mem_takeWhile_imp (List.mem_reverse.mp member)⟩
  have closed : trimChars chars ++ (opened.reverse.takeWhile isWhiteSpace).reverse = opened := by
    rw [trimChars, ← List.reverse_append, List.takeWhile_append_dropWhile, List.reverse_reverse]
  rw [List.append_assoc, closed, List.takeWhile_append_dropWhile]

theorem trim_chars_of_bare {before core behind : List Char} (bare : BareChars core)
    (opening : ∀ c ∈ before, isWhiteSpace c = true) (closing : ∀ c ∈ behind, isWhiteSpace c = true) :
    trimChars (before ++ core ++ behind) = core := by
  rw [trimChars, List.append_assoc, List.dropWhile_append_of_pos opening]
  cases core with
  | nil => simp [List.dropWhile_eq_nil_iff.mpr closing]
  | cons c rest =>
    have first : isWhiteSpace c = false := bare.1 c rfl
    have reversed : ∀ c ∈ behind.reverse, isWhiteSpace c = true := by simpa using closing
    have last : ∀ other ∈ (c :: rest).reverse.head?, isWhiteSpace other = false := by
      rw [List.head?_reverse]
      exact bare.2
    rw [List.cons_append, List.dropWhile_cons_of_neg (by simp [first]), ← List.cons_append,
      List.reverse_append, List.dropWhile_append_of_pos reversed, kept_of_head last,
      List.reverse_reverse]

/-- The text neither begins nor ends with white space. -/
def Bare (text : String) : Prop :=
  BareChars text.toList

theorem blank_iff {text : String} : isBlank text = true ↔ ∀ c ∈ text.toList, isWhiteSpace c = true :=
  List.all_eq_true

/-- Trimming leaves what stands between white space and neither begins nor ends with it. -/
theorem trim_iff {text core : String} : trim text = core ↔
    Bare core ∧ ∃ before behind, text = before ++ core ++ behind ∧
      isBlank before = true ∧ isBlank behind = true := by
  constructor
  · rintro rfl
    obtain ⟨before, behind, same, opening, closing⟩ := trim_chars_split text.toList
    refine ⟨?_, String.ofList before, String.ofList behind, ?_, ?_, ?_⟩
    · rw [Bare, trim, String.toList_ofList]
      exact trim_chars_bare text.toList
    · rw [← String.toList_inj]
      simpa [trim] using same
    · simpa [blank_iff] using opening
    · simpa [blank_iff] using closing
  · rintro ⟨bare, before, behind, rfl, opening, closing⟩
    rw [trim, String.toList_append, String.toList_append,
      trim_chars_of_bare bare (blank_iff.mp opening) (blank_iff.mp closing), String.ofList_toList]

/-! ## Small letters -/

theorem lowercase_chars (text : String) :
    (lowercase text).toList = text.toList.flatMap lowercaseChar := by
  rw [lowercase, String.toList_ofList]

/-- What holds of all ASCII characters can be looked up by their numbers. -/
@[elab_as_elim]
theorem ascii_forall {property : Char → Prop} {c : Char} (ascii : c.toNat < 0x80)
    (all : ∀ n < 0x80, property (Char.ofNat n)) : property c := by
  have own := all c.toNat ascii
  rwa [Char.ofNat_toNat] at own

theorem no_capital {runs : List CapitalRun} {c : Char}
    (outside : ∀ run ∈ runs, c.toNat < run.first ∨ run.last < c.toNat) :
    runs.find? (·.contains c) = none := by
  refine List.find?_eq_none.mpr fun run member => ?_
  have beside := outside run member
  simp only [CapitalRun.contains, Bool.and_eq_true, decide_eq_true_eq]
  omega

theorem lowercase_ascii_char {c : Char} (ascii : c.toNat < 0x80) : lowercaseChar c = [c.toLower] := by
  -- Behind the Latin capitals, which are the first run, every run lies above ASCII.
  have above : ∀ run ∈ capitalRuns.tail, 0x80 ≤ run.first := by decide +kernel
  have behind : capitalRuns.tail.find? (·.contains c) = none :=
    no_capital fun run member => .inl (Nat.lt_of_lt_of_le ascii (above run member))
  have latin : capitalRuns = ⟨0x41, 0x5A, 1, 32⟩ :: capitalRuns.tail := rfl
  have undotted : (c.toNat == 0x130) = false := by
    rw [beq_eq_false_iff_ne]
    omega
  rw [lowercaseChar, undotted, latin, List.find?_cons, behind]
  exact ascii_forall ascii (by decide +kernel)

/-- The small letters of an ASCII text are what they look like. -/
theorem lowercase_ascii {text : String} (ascii : ∀ c ∈ text.toList, c.toNat < 0x80) :
    (lowercase text).toList = text.toList.map Char.toLower := by
  rw [lowercase_chars, List.map_eq_flatMap, List.flatMap, List.flatMap]
  refine congrArg List.flatten (List.map_congr_left fun c member => ?_)
  exact lowercase_ascii_char (ascii c member)

/-- A character that is its own lower case stands in the lower case of a text too. -/
theorem mem_lowercase {text : String} {c : Char} (own : lowercaseChar c = [c])
    (member : c ∈ text.toList) : c ∈ (lowercase text).toList := by
  rw [lowercase_chars]
  exact List.mem_flatMap.mpr ⟨c, member, by simp [own]⟩

/-- No white space is a capital. -/
theorem lowercase_white_space {c : Char} (white : isWhiteSpace c = true) : lowercaseChar c = [c] := by
  have apart : ∀ range ∈ whiteSpace, (range.last < 0x130 ∨ 0x130 < range.first) ∧
      ∀ run ∈ capitalRuns, range.last < run.first ∨ run.last < range.first := by
    decide +kernel
  obtain ⟨range, member, inside⟩ := List.any_eq_true.mp white
  obtain ⟨undotted, outside⟩ := apart range member
  simp only [CodeRange.contains, Bool.and_eq_true, decide_eq_true_eq] at inside
  have small : capitalRuns.find? (·.contains c) = none := by
    refine no_capital fun run found => ?_
    have beside := outside run found
    omega
  have different : (c.toNat == 0x130) = false := by
    rw [beq_eq_false_iff_ne]
    omega
  rw [lowercaseChar, different, small]
  rfl

end PackedAttributes.TextPieces
