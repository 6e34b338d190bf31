import PackedAttributes.Proofs.ReferenceRange
import PackedAttributes.Text.Basic
import PackedAttributes.Value.Timespec

/-! A pair of seconds and nanoseconds stands for one instant, and all that is made of it tells the same
one. A time of the system is reached from the epoch in one step or in two, each of which is exact or
fails; the text can be read back; and where the nanoseconds are in range, comparing the pairs compares
the instants. -/
namespace PackedAttributes.TimespecInstant
open ReferenceRange Text

/-! ## Steps in time -/

theorem second_eq : nanosecondsPerSecond = 1000000000 :=
  rfl

theorem since_epoch_eq (time : SystemTime) :
    time.sinceEpoch = time.seconds.toInt * 1000000000 + time.nanoseconds :=
  rfl

theorem total_eq (length : Duration) :
    length.total = length.seconds.toNat * 1000000000 + length.nanoseconds :=
  rfl

theorem instant_eq (time : Timespec) :
    time.instant = time.seconds.toInt * 1000000000 + time.nanoseconds.toInt :=
  rfl

theorem checked_sum_iff :
    checkedSum? word distance = some sum ↔ sum.toInt = word.toInt + distance := by
  apply checked_iff fun _ _ => Int64.toInt_inj.mp
  · exact id
  · intro other same
    rw [← same, Int64.ofInt_toInt]

theorem since_epoch_injective {time other : SystemTime} (same : time.sinceEpoch = other.sinceEpoch) :
    time = other := by
  have below : time.nanoseconds < 1000000000 := time.nanoseconds_lt
  have otherBelow : other.nanoseconds < 1000000000 := other.nanoseconds_lt
  simp only [since_epoch_eq] at same
  have seconds : time.seconds.toInt = other.seconds.toInt := by omega
  have nanoseconds : time.nanoseconds = other.nanoseconds := by omega
  cases time
  cases other
  rw [SystemTime.mk.injEq]
  exact ⟨Int64.toInt_inj.mp seconds, nanoseconds⟩

theorem later_exact {time later : SystemTime} {length : Duration}
    (reached : time.later? length = some later) :
    later.sinceEpoch = time.sinceEpoch + length.total := by
  have second := second_eq
  obtain ⟨seconds, whole, rest⟩ := Option.bind_eq_some_iff.mp reached
  rw [checked_sum_iff] at whole
  split at rest
  · cases rest
    simp only [since_epoch_eq, total_eq]
    omega
  · obtain ⟨carried, one, rest⟩ := Option.bind_eq_some_iff.mp rest
    rw [checked_sum_iff] at one
    cases rest
    simp only [since_epoch_eq, total_eq]
    omega

/-- The time later is the one that lies exactly so much behind, and there is none if no time does. -/
theorem later_iff {time later : SystemTime} {length : Duration} :
    time.later? length = some later ↔ later.sinceEpoch = time.sinceEpoch + length.total := by
  refine ⟨later_exact, fun same => ?_⟩
  suffices ∃ reached, time.later? length = some reached by
    obtain ⟨reached, found⟩ := this
    rw [found, since_epoch_injective ((later_exact found).trans same.symm)]
  have below : later.nanoseconds < 1000000000 := later.nanoseconds_lt
  have low := time.seconds.le_toInt
  have high := later.seconds.toInt_lt
  simp only [since_epoch_eq, total_eq] at same
  obtain ⟨seconds, whole⟩ : ∃ seconds : Int64,
      seconds.toInt = time.seconds.toInt + length.seconds.toNat :=
    signed_word (by omega) (by omega)
  rw [SystemTime.later?, checked_sum_iff.mpr whole, Option.bind_eq_bind, Option.bind_some]
  split
  · exact ⟨_, rfl⟩
  · rename_i full
    rw [second_eq] at full
    obtain ⟨carried, one⟩ : ∃ carried : Int64, carried.toInt = seconds.toInt + 1 :=
      signed_word (by omega) (by omega)
    rw [checked_sum_iff.mpr one]
    exact ⟨_, rfl⟩

theorem earlier_exact {time earlier : SystemTime} {length : Duration}
    (reached : time.earlier? length = some earlier) :
    earlier.sinceEpoch = time.sinceEpoch - length.total := by
  have second := second_eq
  have below : length.nanoseconds < 1000000000 := length.nanoseconds_lt
  obtain ⟨seconds, whole, rest⟩ := Option.bind_eq_some_iff.mp reached
  rw [checked_sum_iff] at whole
  split at rest
  · cases rest
    simp only [since_epoch_eq, total_eq]
    omega
  · obtain ⟨borrowed, one, rest⟩ := Option.bind_eq_some_iff.mp rest
    rw [checked_sum_iff] at one
    cases rest
    simp only [since_epoch_eq, total_eq]
    omega

theorem earlier_iff {time earlier : SystemTime} {length : Duration} :
    time.earlier? length = some earlier ↔ earlier.sinceEpoch = time.sinceEpoch - length.total := by
  refine ⟨earlier_exact, fun same => ?_⟩
  suffices ∃ reached, time.earlier? length = some reached by
    obtain ⟨reached, found⟩ := this
    rw [found, since_epoch_injective ((earlier_exact found).trans same.symm)]
  have below : time.nanoseconds < 1000000000 := time.nanoseconds_lt
  have lengthBelow : length.nanoseconds < 1000000000 := length.nanoseconds_lt
  have earlierBelow : earlier.nanoseconds < 1000000000 := earlier.nanoseconds_lt
  have low := earlier.seconds.le_toInt
  have high := time.seconds.toInt_lt
  simp only [since_epoch_eq, total_eq] at same
  obtain ⟨seconds, whole⟩ : ∃ seconds : Int64,
      seconds.toInt = time.seconds.toInt + -length.seconds.toNat :=
    signed_word (by omega) (by omega)
  rw [SystemTime.earlier?, checked_sum_iff.mpr whole, Option.bind_eq_bind, Option.bind_some]
  split
  · exact ⟨_, rfl⟩
  · obtain ⟨borrowed, one⟩ : ∃ borrowed : Int64, borrowed.toInt = seconds.toInt + -1 :=
      signed_word (by omega) (by omega)
    rw [checked_sum_iff.mpr one]
    exact ⟨_, rfl⟩

/-! ## The time of the system -/

/-- The nanoseconds stay below one second. -/
def InRange (time : Timespec) : Prop :=
  0 ≤ time.nanoseconds.toInt ∧ time.nanoseconds.toInt < 1000000000

instance (time : Timespec) : Decidable (InRange time) :=
  inferInstanceAs (Decidable (_ ∧ _))

theorem nanoseconds_total (nanoseconds : UInt64) :
    (Duration.ofNanoseconds nanoseconds).total = nanoseconds.toNat := by
  have bound := nanoseconds.toNat_lt
  have seconds : (UInt64.ofNat (nanoseconds.toNat / nanosecondsPerSecond)).toNat =
      nanoseconds.toNat / nanosecondsPerSecond :=
    UInt64.toNat_ofNat_of_lt' (Nat.lt_of_le_of_lt (Nat.div_le_self ..) bound)
  rw [Duration.total, Duration.ofNanoseconds, seconds]
  exact Nat.div_add_mod' ..

theorem system_time_iff {time : Timespec} :
    time.toSystemTime? = some system ↔ InRange time ∧ system.sinceEpoch = time.instant := by
  have low := time.seconds.le_toInt
  have high := time.seconds.toInt_lt
  have epoch : SystemTime.epoch.sinceEpoch = 0 := rfl
  have magnitude : (UInt64.ofNat time.seconds.toInt.natAbs).toNat = time.seconds.toInt.natAbs :=
    UInt64.toNat_ofNat_of_lt' (by change _ < 2 ^ 64; omega)
  rw [Timespec.toSystemTime?]
  split
  · rename_i inRange
    have known : InRange time := inRange
    have nanoseconds : (UInt64.ofNat time.nanoseconds.toInt.toNat).toNat =
        time.nanoseconds.toInt.toNat := UInt64.toNat_ofNat_of_lt' (by
      have := known.2
      change _ < 2 ^ 64
      omega)
    have forward := Int.toNat_of_nonneg known.1
    rw [and_iff_right known, instant_eq]
    dsimp only
    split
    · rw [later_iff, epoch, total_eq]
      simp only [magnitude]
      omega
    · -- The whole seconds before the epoch are always reached.
      have back : SystemTime.epoch.earlier? (.ofSeconds (.ofNat time.seconds.toInt.natAbs)) =
          some ⟨time.seconds, 0, by decide⟩ := by
        rw [earlier_iff, epoch, Duration.ofSeconds, total_eq, since_epoch_eq]
        simp only [magnitude]
        omega
      rw [back, Option.bind_eq_bind, Option.bind_some, later_iff, nanoseconds_total, nanoseconds]
      simp only [since_epoch_eq]
      omega
  · rename_i outside
    exact iff_of_false nofun fun both => outside both.1

theorem system_time_exists_iff {time : Timespec} :
    (∃ system, time.toSystemTime? = some system) ↔ InRange time := by
  constructor
  · rintro ⟨system, found⟩
    exact (system_time_iff.mp found).1
  · intro inRange
    have below : time.nanoseconds.toInt.toNat < nanosecondsPerSecond := by
      have := inRange.2
      rw [nanosecondsPerSecond]
      omega
    refine ⟨⟨time.seconds, time.nanoseconds.toInt.toNat, below⟩, system_time_iff.mpr ⟨inRange, ?_⟩⟩
    rw [SystemTime.sinceEpoch, Timespec.instant, Int.toNat_of_nonneg inRange.1]

/-! ## Text -/

theorem decimal_chars (width n : Nat) : (decimal width n).toList =
    List.replicate (width - (Nat.toDigits 10 n).length) '0' ++ Nat.toDigits 10 n := by
  simp [decimal, numeral, padLeft]

/-- Leading zeros count for nothing. -/
theorem digits_value_zeros (count : Nat) (digits : List Char) :
    digitsValue (List.replicate count '0' ++ digits) = digitsValue digits := by
  induction count with
  | zero => rfl
  | succ count ih => exact ih

theorem decimal_value (width n : Nat) : digitsValue (decimal width n).toList = n := by
  rw [decimal_chars, digits_value_zeros]
  exact Nat.ofDigitChars_ten_toDigits

theorem decimal_digits (width n : Nat) : ∀ c ∈ (decimal width n).toList, c.isDigit = true := by
  intro c member
  rw [decimal_chars, List.mem_append] at member
  rcases member with zero | digit
  · rw [List.eq_of_mem_replicate zero]
    rfl
  · exact Nat.isDigit_of_mem_toDigits (by decide) (by decide) digit

theorem fraction_length (small : n < 1000000000) : (decimal 9 n).toList.length = 9 := by
  have short : (Nat.toDigits 10 n).length ≤ 9 :=
    (Nat.length_toDigits_le_iff (by decide) (by decide)).mpr small
  rw [decimal_chars, List.length_append, List.length_replicate]
  omega

theorem seconds_chars (nanoseconds : Nat) : (secondsText nanoseconds).toList =
    Nat.toDigits 10 (nanoseconds / 1000000000) ++
      '.' :: (decimal 9 (nanoseconds % 1000000000)).toList := by
  simp [secondsText, nanosecondsPerSecond, toString]

/-- Reads whole seconds and nine digits behind the point, in nanoseconds. -/
def readSeconds? (text : String) : Option Int := do
  let (isNegative, rest) := splitSign text.toList
  let (before, behind) := splitFirst '.' (String.ofList rest)
  let whole ← digits? before.toList
  let fraction ← behind.filter (fun digits => digits.length == 9)
  let nanoseconds ← digits? fraction.toList
  let total : Int := whole * 1000000000 + nanoseconds
  return if isNegative then -total else total

theorem digits_read {digits : List Char} (nonempty : digits ≠ [])
    (all : ∀ c ∈ digits, c.isDigit = true) : digits? digits = some (digitsValue digits) := by
  rw [digits?, if_pos]
  simpa [nonempty] using all

/-- A digit is no sign. -/
theorem split_sign_digit (digit : c.isDigit = true) (rest : List Char) :
    splitSign (c :: rest) = (false, c :: rest) := by
  unfold splitSign
  split
  · rename_i same
    cases same
    cases digit
  · rename_i same
    cases same
    cases digit
  · rfl

theorem split_first_at (separator : Char) {before : List Char} (absent : separator ∉ before)
    (behind : List Char) : splitFirst separator (String.ofList (before ++ separator :: behind)) =
      (String.ofList before, some (String.ofList behind)) := by
  have apart : ∀ c ∈ before, (c != separator) = true := by
    intro c member
    exact bne_iff_ne.mpr fun same => absent (same ▸ member)
  simp [splitFirst, List.takeWhile_append_of_pos apart, List.dropWhile_append_of_pos apart]

theorem whole_digits (n : Nat) : ∀ c ∈ Nat.toDigits 10 n, c.isDigit = true :=
  fun _ => Nat.isDigit_of_mem_toDigits (by decide) (by decide)

theorem whole_nonempty (n : Nat) : Nat.toDigits 10 n ≠ [] :=
  List.ne_nil_of_length_pos Nat.length_toDigits_pos

theorem seconds_read {text : String} {nanoseconds : Nat}
    (sign : splitSign text.toList = (isNegative, (secondsText nanoseconds).toList)) :
    readSeconds? text = some (if isNegative then -(nanoseconds : Int) else nanoseconds) := by
  have point : '.' ∉ Nat.toDigits 10 (nanoseconds / 1000000000) := fun member => by
    cases whole_digits _ _ member
  have whole : digits? (Nat.toDigits 10 (nanoseconds / 1000000000)) =
      some (nanoseconds / 1000000000) := by
    rw [digits_read (whole_nonempty _) (whole_digits _)]
    exact congrArg some Nat.ofDigitChars_ten_toDigits
  have length : (decimal 9 (nanoseconds % 1000000000)).length = 9 :=
    fraction_length (Nat.mod_lt _ (by decide))
  have kept : (some (decimal 9 (nanoseconds % 1000000000))).filter (fun digits => digits.length == 9) =
      some (decimal 9 (nanoseconds % 1000000000)) := by
    rw [Option.filter_some, length, if_pos (by decide)]
  have fraction : digits? (decimal 9 (nanoseconds % 1000000000)).toList =
      some (nanoseconds % 1000000000) := by
    have nonempty : (decimal 9 (nanoseconds % 1000000000)).toList ≠ [] :=
      List.ne_nil_of_length_pos (by rw [String.length_toList, length]; decide)
    rw [digits_read nonempty (decimal_digits 9 _), decimal_value]
  have parts : ((nanoseconds / 1000000000 : Nat) : Int) * 1000000000 +
      (nanoseconds % 1000000000 : Nat) = nanoseconds := by omega
  simp only [readSeconds?, sign, seconds_chars, split_first_at '.' point, String.toList_ofList,
    String.ofList_toList, whole, kept, fraction, Option.bind_eq_bind, Option.bind_some, parts]
  rfl

theorem text_chars (time : Timespec) : time.text.toList =
    (if time.instant < 0 then ['-'] else []) ++ (secondsText time.instant.natAbs).toList := by
  rw [Timespec.text, String.toList_append]
  split <;> rfl

/-- The text of an instant can be read back. -/
theorem text_read (time : Timespec) : readSeconds? time.text = some time.instant := by
  have chars := text_chars time
  by_cases before : time.instant < 0
  · rw [if_pos before] at chars
    have sign : splitSign time.text.toList = (true, (secondsText time.instant.natAbs).toList) := by
      rw [chars]
      rfl
    rw [seconds_read sign, if_pos rfl]
    congr
    omega
  · rw [if_neg before, List.nil_append] at chars
    have sign : splitSign time.text.toList = (false, (secondsText time.instant.natAbs).toList) := by
      obtain ⟨c, rest, digits⟩ := List.exists_cons_of_ne_nil
        (whole_nonempty (time.instant.natAbs / 1000000000))
      have digit : c.isDigit = true := whole_digits _ c (digits ▸ List.mem_cons_self)
      rw [chars, seconds_chars, digits, List.cons_append, split_sign_digit digit]
    rw [seconds_read sign, if_neg (by decide)]
    congr
    omega

/-! ## Order -/

theorem order_eq_compare {left right : Timespec} (leftInRange : InRange left)
    (rightInRange : InRange right) : left.order right = compare left.instant right.instant := by
  obtain ⟨leftLow, leftHigh⟩ := leftInRange
  obtain ⟨rightLow, rightHigh⟩ := rightInRange
  rw [Timespec.order, instant_eq, instant_eq]
  cases seconds : compare left.seconds.toInt right.seconds.toInt with
  | lt =>
    rw [Int.compare_eq_lt] at seconds
    exact (Int.compare_eq_lt.mpr (by omega)).symm
  | gt =>
    rw [Int.compare_eq_gt] at seconds
    exact (Int.compare_eq_gt.mpr (by omega)).symm
  | eq =>
    rw [Int.compare_eq_eq] at seconds
    rw [seconds, Ordering.eq_then]
    cases nanoseconds : compare left.nanoseconds.toInt right.nanoseconds.toInt with
    | lt => exact (Int.compare_eq_lt.mpr (Int.add_lt_add_left (Int.compare_eq_lt.mp nanoseconds) _)).symm
    | gt => exact (Int.compare_eq_gt.mpr (Int.add_lt_add_left (Int.compare_eq_gt.mp nanoseconds) _)).symm
    | eq => exact (Int.compare_eq_eq.mpr (by rw [Int.compare_eq_eq.mp nanoseconds])).symm

/-! ## Instants -/

/-- A pair of seconds and nanoseconds stands for one instant, which 128 bits always hold. It is a time
of the system exactly if the nanoseconds are in range, and then lies that far from the epoch. Its text
has a sign only before the epoch, the whole seconds and nine digits behind the point, and reading it
gives the instant back, whatever the nanoseconds are. Pairs in range are ordered as their instants. -/
theorem timespec_tells_instant (time : Timespec) :
    let instant := time.seconds.toInt * 1000000000 + time.nanoseconds.toInt
    (-2 ^ 127 ≤ instant ∧ instant < 2 ^ 127) ∧
    ((∃ system, time.toSystemTime? = some system) ↔ InRange time) ∧
    (∀ system, time.toSystemTime? = some system → system.sinceEpoch = instant) ∧
    (∃ fraction : List Char,
      time.text.toList = (if instant < 0 then ['-'] else []) ++
        Nat.toDigits 10 (instant.natAbs / 1000000000) ++ '.' :: fraction ∧
      fraction.length = 9 ∧ (∀ c ∈ fraction, c.isDigit = true) ∧
      digitsValue fraction = instant.natAbs % 1000000000) ∧
    readSeconds? time.text = some instant ∧
    ∀ other, InRange time → InRange other → time.order other = compare instant other.instant := by
  intro instant
  refine ⟨?_, system_time_exists_iff, fun system found => (system_time_iff.mp found).2, ?_,
    text_read time, fun other inRange otherInRange => order_eq_compare inRange otherInRange⟩
  · have low := time.seconds.le_toInt
    have high := time.seconds.toInt_lt
    have nanosecondsLow := time.nanoseconds.le_toInt
    have nanosecondsHigh := time.nanoseconds.toInt_lt
    omega
  · refine ⟨(decimal 9 (instant.natAbs % 1000000000)).toList, ?_,
      fraction_length (Nat.mod_lt _ (by decide)), decimal_digits 9 _, decimal_value 9 _⟩
    rw [text_chars, seconds_chars, List.append_assoc]
    rfl

/-- The last nanosecond of the first second that can be told, long before the epoch. -/
theorem first_second_told :
    let time : Timespec := ⟨Int64.minValue, 999999999⟩
    let other : Timespec := ⟨Int64.maxValue, 0⟩
    let instant : Int := -9223372036854775807000000001
    time.text = "-9223372036854775807.000000001" ∧ readSeconds? time.text = some instant ∧
    (∃ system, time.toSystemTime? = some system ∧ system.sinceEpoch = instant) ∧
    InRange time ∧ InRange other ∧ time.order other = .lt := by
  intro time other instant
  have inRange : InRange time := by decide
  have otherInRange : InRange other := by decide
  obtain ⟨_, exist, since, _, read, order⟩ := timespec_tells_instant time
  obtain ⟨system, found⟩ := exist.mpr inRange
  exact ⟨by decide +kernel, read, ⟨system, found, since system found⟩, inRange, otherInRange,
    order other inRange otherInRange⟩

end PackedAttributes.TimespecInstant
