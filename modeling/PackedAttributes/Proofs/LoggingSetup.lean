import PackedAttributes.Logging.Session
import PackedAttributes.Proofs.LoggingSources

/-! Setting up logging again and again. An attempt fails over its filter before anything else, then over
the name of its log file, then over the directory of the log file, and last over logging that is in
place already. The first attempt with nothing wrong about it succeeds, and every later one returns an
error.

What is assumed about the backend, and stated as hypotheses: logging can be put in place once
(`SetOnce`), and a log file can be opened once its directory is there (`Opens`). Making directories may
fail with any error, the reader of filters may break off, and between two attempts anything may change
but whether logging is in place. -/
namespace PackedAttributes.LoggingSetup
open ActivityOutcomes Files Logging LoggingSources

variable {world filter writer : Type} {backend : Backend world filter writer}
  {present : world → Prop} {config : Config} {found : world}

/-! ## Assumptions -/

/-- Logging can be put in place once, whatever is present then, and nothing else has to do with that. -/
structure SetOnce (backend : Backend world filter writer) (present : world → Prop) : Prop where
  /-- Where no logging is in place, it can be put there. -/
  first : ∀ subscriber found, ¬present found →
    ∃ after, backend.install subscriber found = (.ok (), after) ∧ present after
  /-- Where logging is in place, it stays, and no other takes its place. -/
  again : ∀ subscriber found, present found →
    ∃ reason after, backend.install subscriber found = (.error reason, after) ∧ present after
  /-- Making directories has nothing to do with it. -/
  directories : ∀ path found, present (backend.makeDirectories path found).2 ↔ present found
  /-- Opening log files has nothing to do with it. -/
  writers : ∀ directory name found,
    present (backend.openWriter directory name found).2 ↔ present found

/-- The log file of the configuration can be opened once its directory is there. -/
def Opens (backend : Backend world filter writer) (config : Config) (found : world) : Prop :=
  ∀ path name made, config.file = some path → (Path.ofBytes path).fileName? = some name →
    backend.makeDirectories (Path.ofBytes path).directory found = (.ok (), made) →
    ∃ handle opened, backend.openWriter (Path.ofBytes path).directory name made = (.ok handle, opened)

/-- The directives of the configuration are read to their end, if they are read at all. -/
def Reports (backend : Backend world filter writer) (config : Config) : Prop :=
  ∀ message, config.filter backend.toFilterLanguage ≠ .error (.brokenOff message)

/-! ## One attempt -/

/-- The filter of the configuration is valid. -/
def Valid (backend : Backend world filter writer) (config : Config) : Prop :=
  ∃ filter, config.filter backend.toFilterLanguage = .ok filter

/-- Nothing is wrong with the configuration itself. -/
structure Usable (backend : Backend world filter writer) (config : Config) (found : world) : Prop where
  /-- The filter is valid. -/
  filter_valid : Valid backend config
  /-- A log file has a name. -/
  file_named : ∀ path, config.file = some path → ∃ name, (Path.ofBytes path).fileName? = some name
  /-- The directory of a log file is there or can be made. -/
  directory_made : ∀ path, config.file = some path →
    ∃ made, backend.makeDirectories (Path.ofBytes path).directory found = (.ok (), made)

/-- The guard knows the log file that is configured, and writes to it. -/
structure Guards (guard : Guard writer) (config : Config) : Prop where
  file_eq : guard.file = config.file
  has_file_iff : guard.hasFile = true ↔ config.file.isSome = true

/-- What one attempt does, with everything that it finds out on the way. -/
inductive Attempt (backend : Backend world filter writer) (config : Config) (found : world) :
    Except (Halt SetupError) (Guard writer) × world → Prop where
  /-- The filter is refused, whatever is wrong with the log file. -/
  | refused (refused : Refused backend.toFilterLanguage config reason) :
      Attempt backend config found (.error (.returned (.invalidFilter reason)), found)
  /-- The program breaks off over the filter. -/
  | unread (broken : config.filter backend.toFilterLanguage = .error (.brokenOff message)) :
      Attempt backend config found (.error (.brokenOff message), found)
  /-- The path of the log file does not end with a name. -/
  | nameless (valid : Valid backend config) (configured : config.file = some path)
      (unnamed : (Path.ofBytes path).fileName? = none) :
      Attempt backend config found (.error (.returned (.invalidFile (Utf8.decodeLossy path))), found)
  /-- The directory of the log file cannot be made. -/
  | unreachable (valid : Valid backend config) (configured : config.file = some path)
      (named : (Path.ofBytes path).fileName? = some name)
      (unmade : backend.makeDirectories (Path.ofBytes path).directory found = (.error error, left)) :
      Attempt backend config found (.error (.returned (.fileFailed error)), left)
  /-- The log file cannot be opened. -/
  | unopened (configured : config.file = some path)
      (named : (Path.ofBytes path).fileName? = some name)
      (made : backend.makeDirectories (Path.ofBytes path).directory found = (.ok (), middle))
      (closed : backend.openWriter (Path.ofBytes path).directory name middle = (.error message, left)) :
      Attempt backend config found (.error (.brokenOff message), left)
  /-- Logging cannot be put in place. -/
  | uninstalled {guard : Guard writer} (valid : Valid backend config)
      (attached : backend.attachFile config found = (.ok (file, guard), middle))
      (told : backend.install subscriber middle = (.error reason, left)) :
      Attempt backend config found (.error (.returned (.notInstalled reason)), left)
  /-- Logging is put in place. -/
  | installed {guard : Guard writer} (valid : Valid backend config)
      (attached : backend.attachFile config found = (.ok (file, guard), middle))
      (put : backend.install subscriber middle = (.ok (), after)) :
      Attempt backend config found (.ok guard, after)

theorem set_up_faulty (found : world) (wrong : config.filter backend.toFilterLanguage = .error halt) :
    backend.setUp config found = (.error halt, found) := by
  rw [Backend.setUp, Backend.attachFile]
  cases config.file <;> simp [wrong]

theorem set_up_nameless (found : world) (valid : Valid backend config)
    (configured : config.file = some path) (unnamed : (Path.ofBytes path).fileName? = none) :
    backend.setUp config found =
      (.error (.returned (.invalidFile (Utf8.decodeLossy path))), found) := by
  obtain ⟨filter, checked⟩ := valid
  simp [Backend.setUp, Backend.attachFile, Backend.openFile, checked, configured, unnamed]

theorem set_up_unreachable (valid : Valid backend config) (configured : config.file = some path)
    (named : (Path.ofBytes path).fileName? = some name)
    (unmade : backend.makeDirectories (Path.ofBytes path).directory found = (.error error, left)) :
    backend.setUp config found = (.error (.returned (.fileFailed error)), left) := by
  obtain ⟨filter, checked⟩ := valid
  simp [Backend.setUp, Backend.attachFile, Backend.openFile, checked, configured, named, unmade]

theorem set_up_unopened (valid : Valid backend config) (configured : config.file = some path)
    (named : (Path.ofBytes path).fileName? = some name)
    (made : backend.makeDirectories (Path.ofBytes path).directory found = (.ok (), middle))
    (closed : backend.openWriter (Path.ofBytes path).directory name middle = (.error message, left)) :
    backend.setUp config found = (.error (.brokenOff message), left) := by
  obtain ⟨filter, checked⟩ := valid
  simp [Backend.setUp, Backend.attachFile, Backend.openFile, checked, configured, named, made, closed]

/-- A log file is attached for a usable configuration if it can be opened. -/
theorem attach_usable (usable : Usable backend config found) (opens : Opens backend config found) :
    ∃ file guard middle, backend.attachFile config found = (.ok (file, guard), middle) := by
  obtain ⟨filter, checked⟩ := usable.filter_valid
  rw [Backend.attachFile]
  cases configured : config.file with
  | none => exact ⟨_, _, _, rfl⟩
  | some path =>
    obtain ⟨name, named⟩ := usable.file_named path configured
    obtain ⟨made, there⟩ := usable.directory_made path configured
    obtain ⟨handle, opened, put⟩ := opens path name made configured named there
    simp [checked, Backend.openFile, named, there, put]

theorem set_up_attempt (backend : Backend world filter writer) (config : Config) (found : world) :
    Attempt backend config found (backend.setUp config found) := by
  cases checked : config.filter backend.toFilterLanguage with
  | error halt =>
    rw [set_up_faulty found checked]
    cases halt with
    | returned error =>
      obtain ⟨reason, rfl, refused⟩ := filter_refused_iff.mp checked
      exact .refused refused
    | brokenOff message => exact .unread checked
  | ok filter =>
    have valid : Valid backend config := ⟨filter, checked⟩
    have finish (file guard middle)
        (attached : backend.attachFile config found = (.ok (file, guard), middle)) :
        Attempt backend config found (backend.setUp config found) := by
      rw [Backend.setUp, attached]
      simp only [checked]
      split
      · rename_i told
        exact .uninstalled valid attached told
      · rename_i put
        exact .installed valid attached put
    cases configured : config.file with
    | none => exact finish none .consoleOnly found (by simp [Backend.attachFile, configured])
    | some path =>
      cases named : (Path.ofBytes path).fileName? with
      | none =>
        exact set_up_nameless found valid configured named ▸ .nameless valid configured named
      | some name =>
        cases made : backend.makeDirectories (Path.ofBytes path).directory found with
        | mk outcome middle =>
        cases outcome with
        | error error =>
          exact set_up_unreachable valid configured named made ▸
            .unreachable valid configured named made
        | ok _ =>
          cases opened : backend.openWriter (Path.ofBytes path).directory name middle with
          | mk outcome last =>
          cases outcome with
          | error message =>
            exact set_up_unopened valid configured named made opened ▸
              .unopened configured named made opened
          | ok handle =>
            exact finish (some (⟨filter, config.format⟩, handle)) ⟨some handle, some path⟩ last
              (by simp [Backend.attachFile, Backend.openFile, checked, configured, named, made, opened])

/-- What is known of an attempt once its outcome is. -/
theorem attempt_of (ended : (backend.setUp config found).1 = outcome) :
    ∃ left, Attempt backend config found (outcome, left) :=
  ⟨(backend.setUp config found).2, ended ▸ set_up_attempt backend config found⟩

theorem open_file_cases (opened : backend.openFile path found = (.ok handle, after)) :
    ∃ name made, (Path.ofBytes path).fileName? = some name ∧
      backend.makeDirectories (Path.ofBytes path).directory found = (.ok (), made) ∧
      backend.openWriter (Path.ofBytes path).directory name made = (.ok handle, after) := by
  simp only [Backend.openFile] at opened
  split at opened
  · cases opened
  · rename_i name named
    split at opened
    · cases opened
    · rename_i made there
      split at opened
      · cases opened
      · rename_i put
        cases opened
        exact ⟨name, made, named, there, put⟩

/-- A log file is attached if one is configured, and the guard knows it. -/
theorem attach_file_cases {guard : Guard writer}
    (attached : backend.attachFile config found = (.ok (file, guard), middle)) :
    (config.file = none ∧ guard = .consoleOnly ∧ middle = found) ∨
      ∃ path handle, config.file = some path ∧ guard = ⟨some handle, some path⟩ ∧
        backend.openFile path found = (.ok handle, middle) := by
  rw [Backend.attachFile] at attached
  split at attached
  · rename_i unset
    cases attached
    exact .inl ⟨unset, rfl, rfl⟩
  · rename_i path configured
    split at attached
    · cases attached
    · split at attached
      · cases attached
      · rename_i handle _ opened
        cases attached
        exact .inr ⟨path, handle, configured, rfl, opened⟩

theorem attached_guards {guard : Guard writer}
    (attached : backend.attachFile config found = (.ok (file, guard), middle)) :
    Guards guard config := by
  obtain ⟨unset, rfl, -⟩ | ⟨path, handle, configured, rfl, -⟩ := attach_file_cases attached
  · exact ⟨unset.symm, iff_of_false nofun (by simp [unset])⟩
  · exact ⟨configured.symm, iff_of_true rfl (by simp [configured])⟩

theorem attached_usable {guard : Guard writer} (valid : Valid backend config)
    (attached : backend.attachFile config found = (.ok (file, guard), middle)) :
    Usable backend config found := by
  obtain ⟨unset, -, -⟩ | ⟨path, handle, configured, -, opened⟩ := attach_file_cases attached
  · exact ⟨valid, by simp [unset], by simp [unset]⟩
  · obtain ⟨name, made, named, there, -⟩ := open_file_cases opened
    refine ⟨valid, fun other own => ?_, fun other own => ?_⟩
    · cases configured.symm.trans own
      exact ⟨name, named⟩
    · cases configured.symm.trans own
      exact ⟨made, there⟩

/-! ## Logging in place -/

theorem made_present (once : SetOnce backend present)
    (made : backend.makeDirectories path found = (outcome, after)) : present after ↔ present found := by
  have kept := once.directories path found
  rwa [made] at kept

theorem opened_present (once : SetOnce backend present)
    (opened : backend.openWriter directory name found = (outcome, after)) :
    present after ↔ present found := by
  have kept := once.writers directory name found
  rwa [opened] at kept

theorem attached_present {guard : Guard writer} (once : SetOnce backend present)
    (attached : backend.attachFile config found = (.ok (file, guard), middle)) :
    present middle ↔ present found := by
  obtain ⟨-, -, rfl⟩ | ⟨path, handle, -, -, opened⟩ := attach_file_cases attached
  · exact Iff.rfl
  · obtain ⟨name, made, -, there, put⟩ := open_file_cases opened
    exact (opened_present once put).trans (made_present once there)

theorem install_ok (once : SetOnce backend present)
    (put : backend.install subscriber found = (.ok (), after)) : ¬present found ∧ present after := by
  by_cases there : present found
  · obtain ⟨reason, left, told, -⟩ := once.again subscriber found there
    cases put.symm.trans told
  · obtain ⟨own, done, now⟩ := once.first subscriber found there
    cases put.symm.trans done
    exact ⟨there, now⟩

theorem install_error (once : SetOnce backend present)
    (told : backend.install subscriber found = (.error reason, after)) :
    present found ∧ present after := by
  by_cases there : present found
  · obtain ⟨own, left, done, now⟩ := once.again subscriber found there
    cases told.symm.trans done
    exact ⟨there, now⟩
  · obtain ⟨left, put, -⟩ := once.first subscriber found there
    cases told.symm.trans put

/-- Logging is in place after an attempt if it was before or the attempt succeeded. -/
theorem present_after_iff (once : SetOnce backend present)
    (attempt : Attempt backend config found result) :
    present result.2 ↔ present found ∨ ∃ guard, result.1 = .ok guard := by
  cases attempt with
  | refused refused => simp
  | unread broken => simp
  | nameless valid configured unnamed => simp
  | unreachable valid configured named unmade => simpa using made_present once unmade
  | unopened configured named made closed =>
    simpa using (opened_present once closed).trans (made_present once made)
  | uninstalled valid attached told =>
    obtain ⟨there, now⟩ := install_error once told
    exact iff_of_true now (.inl ((attached_present once attached).mp there))
  | installed valid attached put =>
    obtain ⟨-, now⟩ := install_ok once put
    exact iff_of_true now (.inr ⟨_, rfl⟩)

/-- An attempt succeeds if nothing is wrong with its configuration and no logging is in place. -/
theorem set_up_ok_iff (once : SetOnce backend present) (opens : Opens backend config found) :
    (∃ guard, (backend.setUp config found).1 = .ok guard) ↔
      Usable backend config found ∧ ¬present found := by
  constructor
  · rintro ⟨guard, succeeded⟩
    obtain ⟨left, attempt⟩ := attempt_of succeeded
    cases attempt with
    | installed valid attached put =>
      have missing := (attached_present once attached).not.mp (install_ok once put).1
      exact ⟨attached_usable valid attached, missing⟩
  · rintro ⟨usable, missing⟩
    obtain ⟨filter, checked⟩ := usable.filter_valid
    obtain ⟨file, guard, middle, attached⟩ := attach_usable usable opens
    obtain ⟨after, put, -⟩ := once.first ⟨⟨filter, config.format⟩, file⟩ middle
      ((attached_present once attached).not.mpr missing)
    exact ⟨guard, by simp [Backend.setUp, attached, checked, put]⟩

/-- The program breaks off over a filter that is not read to its end, and over nothing else. -/
theorem set_up_breaks_iff (opens : Opens backend config found) :
    (backend.setUp config found).1 = .error (.brokenOff message) ↔
      config.filter backend.toFilterLanguage = .error (.brokenOff message) := by
  constructor
  · intro ended
    obtain ⟨left, attempt⟩ := attempt_of ended
    cases attempt with
    | unread broken => exact broken
    | unopened configured named made closed =>
      obtain ⟨handle, opened, put⟩ := opens _ _ _ configured named made
      cases closed.symm.trans put
  · intro broken
    rw [set_up_faulty found broken]

/-- An attempt succeeds or returns an error if its filter is read to its end. -/
theorem set_up_ends (reports : Reports backend config) (opens : Opens backend config found) :
    (∃ guard, (backend.setUp config found).1 = .ok guard) ∨
      ∃ error, (backend.setUp config found).1 = .error (.returned error) := by
  cases ended : (backend.setUp config found).1 with
  | ok guard => exact .inl ⟨guard, rfl⟩
  | error halt =>
    cases halt with
    | returned error => exact .inr ⟨error, rfl⟩
    | brokenOff message => exact absurd ((set_up_breaks_iff opens).mp ended) (reports message)

/-! ## The order of failures -/

/-- The errors that an attempt returns come in a fixed order, and the first two of them before anything
is made. -/
structure FailsInOrder (backend : Backend world filter writer) (present : world → Prop)
    (config : Config) (found : world) (result : Except (Halt SetupError) (Guard writer) × world) :
    Prop where
  /-- First comes a filter that is refused, whatever is wrong with the log file. -/
  filter : ∀ reason after, result = (.error (.returned (.invalidFilter reason)), after) ↔
    Refused backend.toFilterLanguage config reason ∧ after = found
  /-- Then comes a path that does not end with a name. -/
  name : ∀ shown after, result = (.error (.returned (.invalidFile shown)), after) ↔
    Valid backend config ∧ (∃ path, config.file = some path ∧
      (Path.ofBytes path).fileName? = none ∧ shown = Utf8.decodeLossy path) ∧ after = found
  /-- Then comes a directory that cannot be made, for any reason. -/
  directory : ∀ error after, result = (.error (.returned (.fileFailed error)), after) ↔
    Valid backend config ∧ ∃ path name, config.file = some path ∧
      (Path.ofBytes path).fileName? = some name ∧
      backend.makeDirectories (Path.ofBytes path).directory found = (.error error, after)
  /-- Only where nothing else is wrong comes logging that is in place already. -/
  place : (∃ reason, result.1 = .error (.returned (.notInstalled reason))) ↔
    Usable backend config found ∧ present found
  /-- The format is settled before. -/
  format : ∀ reason, result.1 ≠ .error (.returned (.invalidFormat reason))

theorem set_up_filter_iff (backend : Backend world filter writer) (config : Config)
    (found after : world) (reason : String) :
    backend.setUp config found = (.error (.returned (.invalidFilter reason)), after) ↔
      Refused backend.toFilterLanguage config reason ∧ after = found := by
  constructor
  · intro same
    have attempt := same ▸ set_up_attempt backend config found
    cases attempt with
    | refused refused => exact ⟨refused, rfl⟩
  · rintro ⟨refused, rfl⟩
    exact set_up_faulty after (filter_refused_iff.mpr ⟨reason, rfl, refused⟩)

theorem set_up_name_iff (backend : Backend world filter writer) (config : Config)
    (found after : world) (shown : String) :
    backend.setUp config found = (.error (.returned (.invalidFile shown)), after) ↔
      Valid backend config ∧ (∃ path, config.file = some path ∧
        (Path.ofBytes path).fileName? = none ∧ shown = Utf8.decodeLossy path) ∧ after = found := by
  constructor
  · intro same
    have attempt := same ▸ set_up_attempt backend config found
    cases attempt with
    | nameless valid configured unnamed => exact ⟨valid, ⟨_, configured, unnamed, rfl⟩, rfl⟩
  · rintro ⟨valid, ⟨path, configured, unnamed, rfl⟩, rfl⟩
    exact set_up_nameless after valid configured unnamed

theorem set_up_directory_iff (backend : Backend world filter writer) (config : Config)
    (found after : world) (error : FileError) :
    backend.setUp config found = (.error (.returned (.fileFailed error)), after) ↔
      Valid backend config ∧ ∃ path name, config.file = some path ∧
        (Path.ofBytes path).fileName? = some name ∧
        backend.makeDirectories (Path.ofBytes path).directory found = (.error error, after) := by
  constructor
  · intro same
    have attempt := same ▸ set_up_attempt backend config found
    cases attempt with
    | unreachable valid configured named unmade => exact ⟨valid, _, _, configured, named, unmade⟩
  · rintro ⟨valid, path, name, configured, named, unmade⟩
    exact set_up_unreachable valid configured named unmade

theorem set_up_place_iff (once : SetOnce backend present) (opens : Opens backend config found) :
    (∃ reason, (backend.setUp config found).1 = .error (.returned (.notInstalled reason))) ↔
      Usable backend config found ∧ present found := by
  constructor
  · rintro ⟨reason, failed⟩
    obtain ⟨left, attempt⟩ := attempt_of failed
    cases attempt with
    | uninstalled valid attached told =>
      have there := (attached_present once attached).mp (install_error once told).1
      exact ⟨attached_usable valid attached, there⟩
  · rintro ⟨usable, there⟩
    obtain ⟨filter, checked⟩ := usable.filter_valid
    obtain ⟨file, guard, middle, attached⟩ := attach_usable usable opens
    obtain ⟨reason, after, told, -⟩ := once.again ⟨⟨filter, config.format⟩, file⟩ middle
      ((attached_present once attached).mpr there)
    exact ⟨reason, by simp [Backend.setUp, attached, checked, told]⟩

theorem set_up_in_order (once : SetOnce backend present) (opens : Opens backend config found) :
    FailsInOrder backend present config found (backend.setUp config found) where
  filter reason after := set_up_filter_iff backend config found after reason
  name shown after := set_up_name_iff backend config found after shown
  directory error after := set_up_directory_iff backend config found after error
  place := set_up_place_iff once opens
  format := by
    intro reason failed
    obtain ⟨left, attempt⟩ := attempt_of failed
    cases attempt

theorem set_up_guards {guard : Guard writer}
    (succeeded : (backend.setUp config found).1 = .ok guard) :
    Guards guard config := by
  obtain ⟨left, attempt⟩ := attempt_of succeeded
  cases attempt with
  | installed valid attached put => exact attached_guards attached

/-! ## Many attempts -/

/-- An attempt to set up logging, and the world that it finds. -/
structure Call (world : Type) where
  config : Config
  found : world

/-- The attempts of one program, which starts without logging. From one attempt to the next anything
may change but whether logging is in place. -/
structure OneProgram (backend : Backend world filter writer) (present : world → Prop)
    (calls : List (Call world)) : Prop where
  /-- The first attempt finds no logging in place. -/
  fresh : ∀ call, calls[0]? = some call → ¬present call.found
  /-- Every later one finds logging in place if the one before left it there. -/
  carried : ∀ index call next, calls[index]? = some call → calls[index + 1]? = some next →
    (present next.found ↔ present (backend.setUp call.config call.found).2)

/-- Attempts one right after the other. -/
def consecutive (backend : Backend world filter writer) : List Config → world → List (Call world)
  | [], _ => []
  | config :: rest, found =>
    ⟨config, found⟩ :: consecutive backend rest (backend.setUp config found).2

theorem consecutive_one_program (configs : List Config) (fresh : ¬present found) :
    OneProgram backend present (consecutive backend configs found) := by
  have carried : ∀ index call next, (consecutive backend configs found)[index]? = some call →
      (consecutive backend configs found)[index + 1]? = some next →
      next.found = (backend.setUp call.config call.found).2 := by
    clear fresh
    induction configs generalizing found with
    | nil => simp [consecutive]
    | cons config rest ih =>
      intro index call next here behind
      cases index with
      | zero =>
        cases here
        cases rest with
        | nil => cases behind
        | cons other others =>
          cases behind
          rfl
      | succ index => exact ih index call next here behind
  refine ⟨fun call here => ?_, fun index call next here behind => ?_⟩
  · cases configs with
    | nil => cases here
    | cons config rest =>
      cases here
      exact fresh
  · rw [carried index call next here behind]

/-- Logging is missing as long as something was wrong with every configuration that was tried. -/
theorem missing_iff (once : SetOnce backend present) {calls : List (Call world)}
    (program : OneProgram backend present calls)
    (opens : ∀ call ∈ calls, Opens backend call.config call.found) (index : Nat) :
    ∀ call, calls[index]? = some call → (¬present call.found ↔
      ∀ earlier < index, ∀ other, calls[earlier]? = some other →
        ¬Usable backend other.config other.found) := by
  induction index with
  | zero => exact fun call here => iff_of_true (program.fresh call here) nofun
  | succ index ih =>
    intro next behind
    obtain ⟨call, here⟩ : ∃ call, calls[index]? = some call := by
      have inside := (List.getElem?_eq_some_iff.mp behind).1
      exact ⟨_, List.getElem?_eq_getElem (by omega)⟩
    have own := opens call (List.mem_of_getElem? here)
    rw [Nat.forall_lt_succ_right, ← ih call here, program.carried index call next here behind,
      present_after_iff once (set_up_attempt backend call.config call.found), set_up_ok_iff once own]
    simp only [here, Option.some.injEq, forall_eq']
    tauto

/-- Logging is in place. -/
def InPlace (session : Session) : Prop :=
  session.installed.isSome = true

theorem session_set_once : SetOnce Session.backend InPlace where
  first subscriber session missing := by
    have none : session.installed = none := by simpa [InPlace] using missing
    refine ⟨{ session with installed := some subscriber }, ?_, rfl⟩
    simp [Session.backend, Session.install, none]
  again subscriber session there := by
    obtain ⟨installed, found⟩ := Option.isSome_iff_exists.mp there
    refine ⟨Session.takenMessage, session, ?_, there⟩
    simp [Session.backend, Session.install, found]
  directories path session := by
    simp only [Session.backend, Session.makeDirectories]
    split <;> exact Iff.rfl
  writers directory name session := by
    simp only [Session.backend, Session.openWriter]
    split <;> exact Iff.rfl

end PackedAttributes.LoggingSetup
