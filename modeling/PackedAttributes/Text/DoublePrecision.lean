import PackedAttributes.Text.Basic
import PackedAttributes.Text.Lowercase

/-!
Numbers in double precision as text. A decimal is read as the nearest number that can be
represented, and a number is written with the fewest digits that read back as the same number. It is
always written positionally, and without a point where there is no fraction. All arithmetic is
exact.
-/
namespace PackedAttributes.Text

/-! ## Fractions -/

/-- A fraction with a positive denominator. -/
structure Ratio where
  /-- The number of parts. -/
  numerator : Nat
  /-- Into how many parts the unit is divided. -/
  denominator : Nat
  deriving DecidableEq, Repr

namespace Ratio

/-- A number times a power of a base. -/
def scaled (n base : Nat) (exponent : Int) : Ratio :=
  if 0 ≤ exponent then ⟨n * base.pow exponent.toNat, 1⟩ else ⟨n, base.pow exponent.natAbs⟩

/-- A fraction divided by another one. -/
def dividedBy (left right : Ratio) : Ratio :=
  ⟨left.numerator * right.denominator, left.denominator * right.numerator⟩

/-- The largest whole number that is not larger. -/
def floor (ratio : Ratio) : Nat :=
  ratio.numerator / ratio.denominator

/-- The nearest whole number. Halves go to the even one. -/
def rounded (ratio : Ratio) : Nat :=
  let twice := 2 * (ratio.numerator % ratio.denominator)
  if twice < ratio.denominator || (twice = ratio.denominator && ratio.floor % 2 = 0) then
    ratio.floor
  else ratio.floor + 1

/-- Whether a fraction is smaller than another one. -/
def isLess (left right : Ratio) : Bool :=
  left.numerator * right.denominator < right.numerator * left.denominator

/-- The exponent of the largest power of ten that is not larger than a positive fraction. -/
def decimalExponent (ratio : Ratio) : Int :=
  if ratio.denominator ≤ ratio.numerator then
    (Nat.toDigits 10 ratio.floor).length - 1
  else
    let inverse := (ratio.denominator + ratio.numerator - 1) / ratio.numerator
    0 - (Nat.toDigits 10 (inverse - 1)).length

end Ratio

/-! ## Numbers -/

/-- A number in double precision. -/
inductive DoublePrecision where
  /-- A number by its sign and by what it is a multiple of: `significand` times two to the power of
  `exponent`. -/
  | finite (isNegative : Bool) (significand : Nat) (exponent : Int)
  /-- What stands for numbers that are too large. -/
  | infinite (isNegative : Bool)
  /-- What is no number. -/
  | notANumber
  deriving DecidableEq, Repr

namespace DoublePrecision

/-- The exponent of the numbers next to zero. -/
def leastExponent : Int := -1074

/-- The exponent of the largest numbers. -/
def greatestExponent : Int := 971

/-- The number nearest to a positive fraction. A significand has 53 binary digits, or fewer next to
zero. -/
def ofRatio (isNegative : Bool) (ratio : Ratio) : DoublePrecision :=
  let guess : Int := (Nat.log2 ratio.numerator : Int) - Nat.log2 ratio.denominator - 53
  let multiples := fun (exponent : Int) => ratio.dividedBy (Ratio.scaled 1 2 exponent)
  let exponent :=
    max leastExponent (if (multiples guess).floor < Nat.pow 2 53 then guess else guess + 1)
  let significand := (multiples exponent).rounded
  let (significand, exponent) :=
    if significand = Nat.pow 2 53 then (Nat.pow 2 52, exponent + 1) else (significand, exponent)
  if greatestExponent < exponent then .infinite isNegative
  else .finite isNegative significand exponent

/-- The number nearest to `digits` times ten to the power of `exponent`. Decimals far outside the
range are decided by their number of digits. -/
def ofDecimal (isNegative : Bool) (digits : Nat) (exponent : Int) : DoublePrecision :=
  let magnitude := (Nat.toDigits 10 digits).length + exponent
  if digits = 0 || magnitude < -400 then .finite isNegative 0 leastExponent
  else if 400 < magnitude then .infinite isNegative
  else ofRatio isNegative (Ratio.scaled digits 10 exponent)

/-! ## Reading -/

/-- The power of ten that stands at the end of a decimal. -/
def powerOfTen? : List Char → Option Int
  | [] => some 0
  | mark :: rest =>
    let (isNegative, digits) := splitSign rest
    if mark == 'e' || mark == 'E' then
      (digits? digits).map (fun power => if isNegative then -(power : Int) else power)
    else none

/-- Reads a decimal without its sign: digits with a point or without, of which there has to be one
at least, and a power of ten. -/
def decimal? (isNegative : Bool) (text : List Char) : Option DoublePrecision :=
  let whole := text.takeWhile Char.isDigit
  let rest := text.dropWhile Char.isDigit
  let (fraction, rest) := match rest with
    | '.' :: rest => (rest.takeWhile Char.isDigit, rest.dropWhile Char.isDigit)
    | _ => ([], rest)
  if whole.isEmpty && fraction.isEmpty then none
  else (powerOfTen? rest).map (fun power =>
    ofDecimal isNegative (digitsValue (whole ++ fraction)) (power - fraction.length))

/-- Reads a number: a decimal or a word, with a sign or without. -/
def ofText? (text : String) : Option DoublePrecision :=
  let (isNegative, rest) := splitSign text.toList
  match decimal? isNegative rest with
  | some number => some number
  | none =>
    let word := String.ofList rest
    if agreesUpToAsciiCase word "nan" then some .notANumber
    else if agreesUpToAsciiCase word "inf" || agreesUpToAsciiCase word "infinity" then
      some (.infinite isNegative)
    else none

/-! ## Writing -/

/-- The decimal with `count` digits that is nearest to a number among those that read back as it,
that is, among those between the middles to the neighbours of the number. An even significand owns
the middles. -/
def decimalWith? (significand : Nat) (exponent : Int) (count : Nat) : Option (Nat × Int) :=
  let below := if significand = Nat.pow 2 52 && leastExponent < exponent then 1 else 2
  let quarters := fun n => Ratio.scaled n 2 (exponent - 2)
  let (low, high) := (quarters (4 * significand - below), quarters (4 * significand + 2))
  let number := quarters (4 * significand)
  let power := number.decimalExponent + 1 - count
  let multiple := number.dividedBy (Ratio.scaled 1 10 power)
  let readsBack := fun digits =>
    let decimal := Ratio.scaled digits 10 power
    if significand % 2 = 0 then !decimal.isLess low && !high.isLess decimal
    else low.isLess decimal && decimal.isLess high
  let digits? :=
    if 2 * (multiple.numerator % multiple.denominator) < multiple.denominator then
      [multiple.floor, multiple.floor + 1].find? readsBack
    else [multiple.floor + 1, multiple.floor].find? readsBack
  digits?.map (fun digits =>
    if digits = Nat.pow 10 count then (Nat.pow 10 (count - 1), power + 1) else (digits, power))

/-- The decimal with the fewest digits that reads back as a number. Seventeen are always enough. -/
def shortest (significand : Nat) (exponent : Int) : Nat × Int :=
  if significand = 0 then (0, 0)
  else ((List.range' 1 17).findSome? (decimalWith? significand exponent)).getD (0, 0)

/-- Digits times a power of ten, written positionally. -/
def positional (digits : Nat) (power : Int) : String :=
  let text := Nat.toDigits 10 digits
  if 0 ≤ power then String.ofList (text ++ List.replicate power.toNat '0')
  else
    let padded := List.replicate (power.natAbs + 1 - text.length) '0' ++ text
    let whole := padded.length - power.natAbs
    String.ofList (padded.take whole ++ '.' :: padded.drop whole)

/-- The number as text. -/
def text : DoublePrecision → String
  | .finite isNegative significand exponent =>
    let (digits, power) := shortest significand exponent
    (if isNegative then "-" else "") ++ positional digits power
  | .infinite isNegative => if isNegative then "-inf" else "inf"
  | .notANumber => "NaN"

/-! ## Order -/

/-- The order of numbers, with what is no number behind all of them. Both zeros are the same. -/
def order : DoublePrecision → DoublePrecision → Ordering
  | .notANumber, .notANumber => .eq
  | .notANumber, _ => .gt
  | _, .notANumber => .lt
  | .infinite true, .infinite true | .infinite false, .infinite false => .eq
  | .infinite true, _ | _, .infinite false => .lt
  | .infinite false, _ | _, .infinite true => .gt
  | .finite leftNegative left leftExponent, .finite rightNegative right rightExponent =>
    let scale := min leftExponent rightExponent
    let signed := fun (isNegative : Bool) (significand : Nat) (exponent : Int) =>
      let magnitude := Int.ofNat (significand * Nat.pow 2 (exponent - scale).toNat)
      if isNegative then -magnitude else magnitude
    compare (signed leftNegative left leftExponent) (signed rightNegative right rightExponent)

end DoublePrecision

end PackedAttributes.Text
