import PackedAttributes.Logging.Filter
import PackedAttributes.Proofs.NameParsing

/-! Where logging takes its settings from. A variable counts if it holds more than white space. The
format is the only one that is looked at early, an explicit level hides the directives with all their
faults, and there is always a filter where neither is given.

Nothing is assumed about the language of filters: a text is at fault if the language says so, and where
its reader breaks off, nothing is said to be wrong with the text. -/
namespace PackedAttributes.LoggingSources
open ActivityOutcomes Files Logging NameParsing TextPieces Text

/-! ## Variables -/

/-- The variable is set to a text, and the text is more than white space. -/
def Given (setting : Option String) (text : String) : Prop :=
  setting = some text ∧ isBlank text = false

theorem non_blank_iff : nonBlank? setting = some text ↔ Given setting text := by
  simp [nonBlank?, Option.filter_eq_some_iff, Given]

theorem non_blank_none_iff : nonBlank? setting = none ↔ ∀ text, ¬Given setting text := by
  rw [Option.eq_none_iff_forall_ne_some]
  exact forall_congr' fun text => not_congr non_blank_iff

/-- The variables hold the same text, or neither of them counts. -/
def Agree (setting other : Option String) : Prop :=
  ∀ text, Given setting text ↔ Given other text

theorem agree_iff : Agree setting other ↔ nonBlank? setting = nonBlank? other := by
  constructor
  · intro agree
    refine Option.ext fun text => ?_
    rw [non_blank_iff, non_blank_iff, agree text]
  · intro same text
    rw [← non_blank_iff, ← non_blank_iff, same]

theorem blank_agrees (blank : isBlank text = true) : Agree (some text) none := by
  rw [agree_iff]
  simp [nonBlank?, blank]

/-- A variable that counts holds one text. -/
theorem given_only (given : Given setting text) : ∀ other, Given setting other ↔ other = text := by
  intro other
  rw [← non_blank_iff, non_blank_iff.mpr given, Option.some.injEq, eq_comm]

/-! ## Formats -/

/-- The words for a format. -/
def wordsFor : Format → List String
  | .pretty => ["pretty", "dev", "development"]
  | .json => ["json", "prod", "production"]

/-- The text is a word for the format, in any letter case and with any white space around it. -/
def Says (text : String) (format : Format) : Prop :=
  ∃ before word behind small, text = before ++ word ++ behind ∧ isBlank before = true ∧
    isBlank behind = true ∧ Lowers word small ∧ small ∈ wordsFor format

theorem words_chars (format : Format) : ∀ word ∈ wordsFor format,
    ∀ c ∈ word.toList, c.toNat < 0x80 ∧ isWhiteSpace c = false := by
  have all : ((wordsFor format).all fun word =>
      word.toList.all fun c => c.toNat < 0x80 && !isWhiteSpace c) = true := by
    cases format <;> decide +kernel
  simpa using all

theorem says_iff : Says text format ↔ lowercase (trim text) ∈ wordsFor format := by
  constructor
  · rintro ⟨before, word, behind, small, same, opening, closing, lowers, among⟩
    have chars := words_chars format small among
    have own : small = lowercase word := by
      refine lowers_plain lowers (.inr fun sigma => ?_)
      exact absurd (chars _ sigma).1 (by decide)
    -- White space has no other lower case, so it would be left in the word.
    have bare : Bare word := by
      refine bare_of_solid fun c member => Bool.eq_false_iff.mpr fun white => ?_
      have kept := mem_lowercase (lowercase_white_space white) member
      rw [← own] at kept
      exact absurd white (by simp [(chars c kept).2])
    rw [trim_iff.mpr ⟨bare, before, behind, same, opening, closing⟩, ← own]
    exact among
  · intro among
    obtain ⟨_, before, behind, same, opening, closing⟩ := trim_iff.mp (rfl : trim text = _)
    exact ⟨before, trim text, behind, _, same, opening, closing, lowers_own _, among⟩

theorem unsaid_iff : (∀ format, ¬Says text format) ↔ lowercase (trim text) ∉
    ["pretty", "dev", "development", "json", "prod", "production"] := by
  have all : ["pretty", "dev", "development", "json", "prod", "production"] =
      wordsFor .pretty ++ wordsFor .json := rfl
  rw [all, List.mem_append, ← says_iff, ← says_iff, not_or]
  constructor
  · exact fun none => ⟨none .pretty, none .json⟩
  · rintro ⟨pretty, json⟩ (_ | _)
    · exact pretty
    · exact json

theorem of_word_iff : Format.ofWord? word = some format ↔ lowercase word ∈ wordsFor format := by
  unfold Format.ofWord?
  split <;> cases format <;> simp_all [wordsFor]

theorem format_parsed_iff : Format.parse (trim text) = .ok format ↔ Says text format := by
  rw [says_iff, ← of_word_iff, Format.parse]
  cases found : Format.ofWord? (trim text) <;> simp

theorem format_refused_iff : Format.parse (trim text) = .error reason ↔
    (∀ format, ¬Says text format) ∧ reason = Format.unknownMessage (trim text) := by
  simp only [says_iff, ← of_word_iff, ← ne_eq, ← Option.eq_none_iff_forall_ne_some, Format.parse]
  cases found : Format.ofWord? (trim text) <;> simp [eq_comm]

theorem format_ok_iff : Config.formatOf setting = .ok format ↔
    (∀ text, Given setting text → Says text format) ∧
      ((∀ text, ¬Given setting text) → format = .pretty) := by
  rw [Config.formatOf]
  cases held : nonBlank? setting with
  | none =>
    have unset := non_blank_none_iff.mp held
    simp [unset, eq_comm]
  | some text =>
    have only := given_only (non_blank_iff.mp held)
    simp [except_map_error_ok_iff, format_parsed_iff, only]

theorem format_error_iff : Config.formatOf setting = .error error ↔
    ∃ text, Given setting text ∧ (∀ format, ¬Says text format) ∧
      error = .invalidFormat (Format.unknownMessage (trim text)) := by
  rw [Config.formatOf]
  cases held : nonBlank? setting with
  | none =>
    have unset := non_blank_none_iff.mp held
    simp [unset]
  | some text =>
    have only := given_only (non_blank_iff.mp held)
    simp only [except_map_error_error_iff, format_refused_iff, only, exists_eq_left, and_assoc]
    simp

theorem environment_ok_iff : Config.ofEnvironment environment surroundings = .ok config ↔
    ∃ format, Config.formatOf environment.format = .ok format ∧
      config = ⟨format, none, nonBlank? environment.directives,
        (nonBlank? environment.file).map fun path => surroundings.logFile (Utf8.encode path)⟩ := by
  rw [Config.ofEnvironment, except_bind_ok_iff]
  simp [pure, Except.pure, eq_comm]

theorem environment_error_iff : Config.ofEnvironment environment surroundings = .error error ↔
    Config.formatOf environment.format = .error error := by
  rw [Config.ofEnvironment]
  cases Config.formatOf environment.format with
  | error own => simp
  | ok format => simp [pure, Except.pure]

/-- Variables that agree give the same configuration. -/
theorem environment_agrees {environment other : Environment}
    (directives : Agree environment.directives other.directives)
    (format : Agree environment.format other.format) (file : Agree environment.file other.file) :
    Config.ofEnvironment environment surroundings = Config.ofEnvironment other surroundings := by
  rw [Config.ofEnvironment, Config.ofEnvironment, Config.formatOf, Config.formatOf,
    agree_iff.mp directives, agree_iff.mp format, agree_iff.mp file]

/-! ## Changes -/

/-- A change that a program makes to what the environment asks for. -/
inductive Change where
  | setLevel (level : Level)
  | setFormat (format : Format)

/-- The configuration with the change. -/
def Change.apply (config : Config) : Change → Config
  | .setLevel level => config.withLevel level
  | .setFormat format => config.withFormat format

/-- The level that is set, if it is one. -/
def Change.level? : Change → Option Level
  | .setLevel level => some level
  | .setFormat _ => none

/-- The format that is set, if it is one. -/
def Change.format? : Change → Option Format
  | .setLevel _ => none
  | .setFormat format => some format

/-- What the last of the changes to it sets, if there is one. -/
def lastSet (part : Change → Option α) (changes : List Change) : Option α :=
  (changes.filterMap part).getLast?

theorem last_set_unset {part : Change → Option α} (unset : part change = none) (rest : List Change) :
    lastSet part (change :: rest) = lastSet part rest := by
  rw [lastSet, lastSet, List.filterMap_cons_none unset]

theorem last_set_set {part : Change → Option α} (set : part change = some own) (rest : List Change) :
    lastSet part (change :: rest) = some ((lastSet part rest).getD own) := by
  rw [lastSet, lastSet, List.filterMap_cons_some set, List.getLast?_cons]

/-- Of several changes to the same, the last one counts. -/
theorem changed_eq (config : Config) (changes : List Change) :
    changes.foldl Change.apply config =
      { config with
        level := (lastSet Change.level? changes).or config.level
        format := (lastSet Change.format? changes).getD config.format } := by
  induction changes generalizing config with
  | nil => rfl
  | cons change rest ih =>
    rw [List.foldl_cons, ih]
    cases change with
    | setLevel level =>
      rw [last_set_set (rfl : Change.level? (.setLevel level) = _), last_set_unset rfl]
      cases lastSet Change.level? rest <;> rfl
    | setFormat format =>
      rw [last_set_set (rfl : Change.format? (.setFormat format) = _), last_set_unset rfl]
      rfl

/-! ## Filters -/

section
variable {filter : Type} {language : FilterLanguage filter}

/-- The configuration comes down to directives that are no filter, for a reason that the language of
filters gives. -/
def Refused (language : FilterLanguage filter) (config : Config) (reason : String) : Prop :=
  config.level = none ∧ ∃ text, config.directives = some text ∧
    language.parse text = .error (.returned reason)

theorem halt_map_returned_iff {change : ε → δ} {halt : Halt ε} :
    halt.map change = .returned error ↔ ∃ own, halt = .returned own ∧ change own = error := by
  cases halt <;> simp [Halt.map]

theorem halt_map_broken_off_iff {change : ε → δ} {halt : Halt ε} :
    halt.map change = .brokenOff message ↔ halt = .brokenOff message := by
  cases halt <;> simp [Halt.map]

theorem filter_error_iff {config : Config} : config.filter language = .error halt ↔
    config.level = none ∧ ∃ text, config.directives = some text ∧
      ∃ own, language.parse text = .error own ∧ halt = own.map .invalidFilter := by
  rw [Config.filter]
  cases config.level with
  | some level => exact iff_of_false nofun nofun
  | none =>
    cases config.directives with
    | none => exact iff_of_false nofun nofun
    | some directives => simp [except_map_error_error_iff]

theorem filter_refused_iff {config : Config} : config.filter language = .error (.returned error) ↔
    ∃ reason, error = .invalidFilter reason ∧ Refused language config reason := by
  rw [filter_error_iff]
  constructor
  · rintro ⟨unset, text, directed, own, read, same⟩
    obtain ⟨reason, rfl, rfl⟩ := halt_map_returned_iff.mp same.symm
    exact ⟨reason, rfl, unset, text, directed, read⟩
  · rintro ⟨reason, rfl, unset, text, directed, read⟩
    exact ⟨unset, text, directed, _, read, rfl⟩

theorem filter_broken_off_iff {config : Config} :
    config.filter language = .error (.brokenOff message) ↔ config.level = none ∧
      ∃ text, config.directives = some text ∧ language.parse text = .error (.brokenOff message) := by
  simp only [filter_error_iff, @eq_comm _ (Halt.brokenOff _), halt_map_broken_off_iff, exists_eq_right]

end

/-! ## Log files -/

theorem encode_append (first second : String) :
    Utf8.encode (first ++ second) = Utf8.encode first ++ Utf8.encode second := by
  rw [Utf8.encode, String.toList_append, List.flatMap_append, Utf8.encode, Utf8.encode]

theorem encode_ne_nil (solid : isBlank text = false) : Utf8.encode text ≠ [] := by
  intro empty
  have none : text.toList = [] := by
    rw [Utf8.encode, List.flatMap_eq_nil_iff] at empty
    refine List.eq_nil_iff_forall_not_mem.mpr fun c member => ?_
    exact absurd (empty c member) (by simp)
  rw [isBlank, none] at solid
  cases solid

theorem slash_mem_char {c : Char} (member : slash ∈ String.utf8EncodeChar c) : c = '/' := by
  have byte (n : Nat) : slash = UInt8.ofNat n ↔ n % 256 = 0x2F := by
    rw [← UInt8.toNat_inj, UInt8.toNat_ofNat', eq_comm]
    rfl
  have code : c.val.toNat = 0x2F := by
    simp only [String.utf8EncodeChar] at member
    split at member
    · simp only [List.mem_singleton, byte] at member
      omega
    -- All bytes of a longer encoding are beyond ASCII.
    · split at member
      · simp only [List.mem_cons, List.not_mem_nil, or_false, byte] at member
        omega
      · split at member <;> simp only [List.mem_cons, List.not_mem_nil, or_false, byte] at member <;> omega
  exact Char.ext (UInt32.toNat_inj.mp code)

theorem slash_not_mem_encode (flat : '/' ∉ text.toList) : slash ∉ Utf8.encode text := by
  rw [Utf8.encode, List.mem_flatMap]
  rintro ⟨c, member, inside⟩
  exact flat (slash_mem_char inside ▸ member)

theorem steps_eq (path : Bytes) :
    (Path.ofBytes path).steps = (path.splitOn slash).filterMap Path.step? := by
  unfold Path.ofBytes
  split
  · rename_i found
    rw [found]
    rfl
  · rfl

theorem steps_behind {last : Bytes} (front : Bytes) (flat : slash ∉ last) :
    (Path.ofBytes (front ++ slash :: last)).steps =
      (Path.ofBytes front).steps ++ (Path.step? last).toList := by
  rw [steps_eq, steps_eq, List.splitOn_append_cons_self, List.splitOn_eq_singleton flat,
    List.filterMap_append]
  cases found : Path.step? last <;> simp [found]

theorem absolute_iff (path : Bytes) :
    (Path.ofBytes path).isAbsolute = true ↔ path.head? = some slash := by
  cases path with
  | nil => simp [Path.ofBytes]
  | cons byte rest =>
    obtain ⟨part, parts, found⟩ := List.exists_cons_of_ne_nil (List.splitOn_ne_nil slash rest)
    rw [List.splitOn] at found
    rw [Path.ofBytes, List.splitOn, List.splitOnP_cons_eq_if_modifyHead, found]
    by_cases same : byte = slash <;> simp [same]

/-- Joining a name to a path leads one step further, whether or not the path ends with a slash. -/
theorem joined_path {path name : Bytes} (given : path ≠ []) (flat : slash ∉ name) :
    let joined := Path.ofBytes (joinName path name)
    joined.isAbsolute = (Path.ofBytes path).isAbsolute ∧
      joined.steps = (Path.ofBytes path).steps ++ (Path.step? name).toList := by
  have absolute (rest : Bytes) :
      (Path.ofBytes (path ++ rest)).isAbsolute = (Path.ofBytes path).isAbsolute := by
    have first : path.head?.isSome := by simpa using given
    rw [Bool.eq_iff_iff, absolute_iff, absolute_iff, List.head?_append, Option.or_of_isSome first]
  by_cases ended : path.getLast? = some slash
  · obtain ⟨front, rfl⟩ := List.getLast?_eq_some_iff.mp ended
    have joined : joinName (front ++ [slash]) name = front ++ [slash] ++ name := by simp [joinName]
    refine ⟨joined ▸ absolute name, ?_⟩
    rw [joined, List.append_assoc, List.singleton_append, steps_behind front flat,
      steps_behind front List.not_mem_nil]
    simp [Path.step?]
  · have joined : joinName path name = path ++ slash :: name := by simp [joinName, given, ended]
    exact ⟨joined ▸ absolute _, by rw [joined, steps_behind path flat]⟩

theorem daily_step (day : String) : Path.step? (Utf8.encode (dailyFileName day)) =
    some (.entry (Utf8.encode (dailyFileName day))) := by
  have long : 2 < (Utf8.encode (dailyFileName day)).length := by
    have ending : (Utf8.encode (toString "-fsattr.log")).length = 11 := by decide +kernel
    rw [dailyFileName, encode_append, List.length_append, ending]
    omega
  rw [Path.step?, if_neg, if_neg]
  · intro same
    simp [same] at long
  · rintro (same | same) <;> simp [same] at long

/-! ## Precedence -/

/-- The configuration is what the variables ask for. -/
structure Asked (environment : Environment) (surroundings : Surroundings) (config : Config) :
    Prop where
  /-- The format is the one that is named, -/
  format_named : ∀ text, Given environment.format text → Says text config.format
  /-- or the one for people. -/
  format_plain : (∀ text, ¬Given environment.format text) → config.format = .pretty
  /-- Variables set no level. -/
  level_unset : config.level = none
  /-- The directives are the text of their variable. -/
  directives_kept : ∀ text, config.directives = some text ↔ Given environment.directives text
  /-- The log file is at the path that is given, or in the directory there, named for the day. -/
  file_kept : ∀ path, config.file = some path ↔ ∃ text, Given environment.file text ∧
    path = if surroundings.isDirectory (Utf8.encode text) then
        joinName (Utf8.encode text) (Utf8.encode (dailyFileName surroundings.day))
      else Utf8.encode text

theorem environment_asked (resolved : Config.ofEnvironment environment surroundings = .ok config) :
    Asked environment surroundings config := by
  obtain ⟨format, named, rfl⟩ := environment_ok_iff.mp resolved
  obtain ⟨said, plain⟩ := format_ok_iff.mp named
  refine ⟨said, plain, rfl, fun _ => non_blank_iff, fun path => ?_⟩
  simp only [Option.map_eq_some_iff, non_blank_iff, Surroundings.logFile, @eq_comm _ path]

section
variable {filter : Type}

/-- The filter is that of the source that comes first: the explicit level, the directives, or events up
to `info`. -/
structure Decided (language : FilterLanguage filter) (level : Option Level)
    (directives : Option String) (found : Except (Halt SetupError) filter) : Prop where
  /-- An explicit level hides the directives. -/
  explicit : ∀ own, level = some own → found = .ok (language.lenient own.capitalName)
  /-- Without one the directives are read. -/
  directed : level = none → ∀ text, Given directives text →
    ∀ read, found = .ok read ↔ language.parse text = .ok read
  /-- There is a filter where neither is given. -/
  plain : level = none → (∀ text, ¬Given directives text) → found = .ok (language.lenient "INFO")
  /-- An error is returned exactly over directives that are read and are no filter. -/
  refused : ∀ error, found = .error (.returned error) ↔ ∃ reason, error = .invalidFilter reason ∧
    level = none ∧ ∃ text, Given directives text ∧ language.parse text = .error (.returned reason)
  /-- The program breaks off exactly where the reader of the directives does. -/
  broken_off : ∀ message, found = .error (.brokenOff message) ↔ level = none ∧
    ∃ text, Given directives text ∧ language.parse text = .error (.brokenOff message)

theorem filter_decided (language : FilterLanguage filter) (level : Option Level) (format : Format)
    (file : Option Bytes) : Decided language level directives
      (Config.filter ⟨format, level, nonBlank? directives, file⟩ language) := by
  refine ⟨?_, ?_, ?_, fun error => ?_, fun message => ?_⟩
  · rintro own rfl
    rfl
  · rintro rfl text given read
    rw [Config.filter, non_blank_iff.mpr given]
    exact except_map_error_ok_iff
  · rintro rfl unset
    have capital : Level.info.capitalName = "INFO" := by decide +kernel
    rw [Config.filter, non_blank_none_iff.mpr unset, capital]
  · simp only [filter_refused_iff, Refused, non_blank_iff]
  · simp only [filter_broken_off_iff, non_blank_iff]

end

theorem loud_refused : Filter.language.parse "core=loud" =
    .error (.returned Directive.Fault.unknownLevel.message) :=
  error_of_iff.mp (by decide +kernel)

end PackedAttributes.LoggingSources
