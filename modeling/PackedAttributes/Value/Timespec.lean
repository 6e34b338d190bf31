import PackedAttributes.Text.Basic

/-!
Times as seconds and nanoseconds since the Unix epoch. Both parts are signed, and the nanoseconds
count forward also before the epoch. As text, both parts are folded into one instant; as a time of
the system, which lies a length of time before or after the epoch, only nanoseconds below one second
are accepted.
-/
namespace PackedAttributes

/-- The number of nanoseconds in a second. -/
def nanosecondsPerSecond : Nat := 1000000000

/-- Seconds and nanoseconds since the Unix epoch, as they lie in a record. -/
structure Timespec where
  /-- Whole seconds, negative before the epoch. -/
  seconds : Int64
  /-- Nanoseconds behind the seconds, in any range. -/
  nanoseconds : Int64
  deriving DecidableEq, Repr

/-- A length of time, in whole seconds and nanoseconds below one second behind them. -/
structure Duration where
  /-- Whole seconds. -/
  seconds : UInt64
  /-- Nanoseconds behind the seconds. -/
  nanoseconds : Nat
  /-- The nanoseconds stay below one second. -/
  nanoseconds_lt : nanoseconds < nanosecondsPerSecond
  deriving DecidableEq, Repr

namespace Duration

/-- A length of whole seconds. -/
def ofSeconds (seconds : UInt64) : Duration :=
  ⟨seconds, 0, by decide⟩

/-- A length of nanoseconds, of which any number of seconds may be full. -/
def ofNanoseconds (nanoseconds : UInt64) : Duration where
  seconds := .ofNat (nanoseconds.toNat / nanosecondsPerSecond)
  nanoseconds := nanoseconds.toNat % nanosecondsPerSecond
  nanoseconds_lt := Nat.mod_lt _ (by decide)

/-- The whole length in nanoseconds. -/
def total (length : Duration) : Nat :=
  length.seconds.toNat * nanosecondsPerSecond + length.nanoseconds

end Duration

/-- The number that is a distance away from a word, if it is a word too. -/
def checkedSum? (word : Int64) (distance : Int) : Option Int64 :=
  let sum := Int64.ofInt (word.toInt + distance)
  if sum.toInt = word.toInt + distance then some sum else none

/-- A time of the system: whole seconds and nanoseconds below one second behind them. -/
structure SystemTime where
  /-- Whole seconds since the epoch. -/
  seconds : Int64
  /-- Nanoseconds behind the seconds. -/
  nanoseconds : Nat
  /-- The nanoseconds stay below one second. -/
  nanoseconds_lt : nanoseconds < nanosecondsPerSecond
  deriving DecidableEq, Repr

namespace SystemTime

/-- The Unix epoch. -/
def epoch : SystemTime :=
  ⟨0, 0, by decide⟩

/-- The time that comes a length of time later, if there is one. -/
def later? (time : SystemTime) (length : Duration) : Option SystemTime := do
  let seconds ← checkedSum? time.seconds length.seconds.toNat
  if below : time.nanoseconds + length.nanoseconds < nanosecondsPerSecond then
    return ⟨seconds, time.nanoseconds + length.nanoseconds, below⟩
  else
    return ⟨← checkedSum? seconds 1,
      time.nanoseconds + length.nanoseconds - nanosecondsPerSecond,
      by have := time.nanoseconds_lt; have := length.nanoseconds_lt; omega⟩

/-- The time that came a length of time earlier, if there is one. -/
def earlier? (time : SystemTime) (length : Duration) : Option SystemTime := do
  let seconds ← checkedSum? time.seconds (-length.seconds.toNat)
  if enough : length.nanoseconds ≤ time.nanoseconds then
    return ⟨seconds, time.nanoseconds - length.nanoseconds,
      by have := time.nanoseconds_lt; omega⟩
  else
    return ⟨← checkedSum? seconds (-1),
      time.nanoseconds + nanosecondsPerSecond - length.nanoseconds,
      by have := time.nanoseconds_lt; omega⟩

/-- The signed distance from the epoch in nanoseconds. -/
def sinceEpoch (time : SystemTime) : Int :=
  time.seconds.toInt * nanosecondsPerSecond + time.nanoseconds

end SystemTime

/-- A number of nanoseconds without its sign as whole seconds and nine digits behind the point. -/
def secondsText (nanoseconds : Nat) : String :=
  s!"{nanoseconds / nanosecondsPerSecond}." ++
    Text.decimal 9 (nanoseconds % nanosecondsPerSecond)

namespace Timespec

/-- The instant in nanoseconds since the epoch. -/
def instant (time : Timespec) : Int :=
  time.seconds.toInt * nanosecondsPerSecond + time.nanoseconds.toInt

/-- The instant as text, with a sign only before the epoch. -/
def text (time : Timespec) : String :=
  (if time.instant < 0 then "-" else "") ++ secondsText time.instant.natAbs

/-- The time of the system, if the nanoseconds are in range. Before the epoch the whole seconds lead
back, and the nanoseconds forward again. -/
def toSystemTime? (time : Timespec) : Option SystemTime :=
  if inRange : 0 ≤ time.nanoseconds.toInt ∧
      time.nanoseconds.toInt < nanosecondsPerSecond then
    let seconds := UInt64.ofNat time.seconds.toInt.natAbs
    let nanoseconds := time.nanoseconds.toInt.toNat
    if 0 ≤ time.seconds.toInt then
      SystemTime.epoch.later? ⟨seconds, nanoseconds, by omega⟩
    else do
      let whole ← SystemTime.epoch.earlier? (.ofSeconds seconds)
      whole.later? (.ofNanoseconds (.ofNat nanoseconds))
  else none

/-- The order by seconds first and nanoseconds second. -/
def order (left right : Timespec) : Ordering :=
  (compare left.seconds.toInt right.seconds.toInt).then
    (compare left.nanoseconds.toInt right.nanoseconds.toInt)

/-- The time written out structurally. -/
def structural (time : Timespec) : String :=
  Text.fields "Timespec"
    [("seconds", toString time.seconds.toInt), ("nanoseconds", toString time.nanoseconds.toInt)]

end Timespec

end PackedAttributes
