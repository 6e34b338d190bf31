import PackedAttributes.Text.Character

/-!
Texts and their parts.

* Numbers are written in several bases with a least width, and a number wider than that is never
  cut. Whole numbers are read in decimal: leading zeros count for nothing, and a plus sign may stand
  in front of every number.
* A text that is split at a separator has one part more than there are separators, so a text without
  any separator is its only part and the parts joined again give the text.
* A quoted text stands between double quotes, and nothing in it can break a line or end the
  quotation: double quotes and backslashes are escaped, tab, line feed, carriage return and NUL have
  escapes of their own, and every other character that is not printable is written as its code point.
* Structural text shows values with the names of their shapes and fields, for people who look into a
  record. A shape with one part holds it in parentheses, a shape with named fields holds them in
  braces, sequences stand in brackets, and tables map keys to values in braces.
* Positions in a text count bytes. A position inside a character is no end of a part.
-/
namespace PackedAttributes.Text

/-! ## Numbers -/

/-- Writes `fill` in front of a text until it has at least `width` characters. -/
def padLeft (width : Nat) (fill : Char) (text : String) : String :=
  String.ofList (List.replicate (width - text.length) fill) ++ text

/-- Writes spaces behind a text until it has at least `width` characters. -/
def padRight (width : Nat) (text : String) : String :=
  text ++ String.ofList (List.replicate (width - text.length) ' ')

/-- The digits of a number in a base of at most sixteen, most significant first. -/
def numeral (base n : Nat) : String :=
  String.ofList (Nat.toDigits base n)

/-- A number in hexadecimal, with leading zeros up to `width` digits. -/
def hexadecimal (width n : Nat) : String :=
  padLeft width '0' (numeral 16 n)

/-- A number in octal, with leading zeros up to `width` digits. -/
def octal (width n : Nat) : String :=
  padLeft width '0' (numeral 8 n)

/-- A number in decimal, with leading zeros up to `width` digits. -/
def decimal (width n : Nat) : String :=
  padLeft width '0' (numeral 10 n)

/-- A byte as two hexadecimal digits. -/
def hexByte (byte : UInt8) : String :=
  hexadecimal 2 byte.toNat

/-- A byte as two hexadecimal digits with capital letters. -/
def capitalHexByte (byte : UInt8) : String :=
  (hexByte byte).map Char.toUpper

/-- The value of a hexadecimal digit. -/
def hexDigit? (c : Char) : Option Nat :=
  if '0' ≤ c ∧ c ≤ '9' then some (c.toNat - '0'.toNat)
  else if 'a' ≤ c ∧ c ≤ 'f' then some (c.toNat - 'a'.toNat + 10)
  else if 'A' ≤ c ∧ c ≤ 'F' then some (c.toNat - 'A'.toNat + 10)
  else none

/-- The value of decimal digits. -/
def digitsValue (digits : List Char) : Nat :=
  digits.foldl (fun value digit => 10 * value + (digit.toNat - 48)) 0

/-- Whether a minus sign stands in front, and what follows the sign if there is one. -/
def splitSign : List Char → Bool × List Char
  | '-' :: rest => (true, rest)
  | '+' :: rest => (false, rest)
  | rest => (false, rest)

/-- The value of a sequence of digits, of which there has to be one at least. -/
def digits? (text : List Char) : Option Nat :=
  if !text.isEmpty && text.all Char.isDigit then some (digitsValue text) else none

/-- Reads a number that has no minus sign. -/
def natural? (text : String) : Option Nat :=
  match text.toList with
  | '+' :: rest => digits? rest
  | chars => digits? chars

/-- Reads a number with a sign or without. -/
def integer? (text : String) : Option Int :=
  let (isNegative, rest) := splitSign text.toList
  (digits? rest).map (fun value => if isNegative then -(value : Int) else value)

/-! ## Parts -/

/-- Texts joined with `separator` between neighbours. -/
def joined (separator : String) (parts : List String) : String :=
  separator.intercalate parts

/-- The parts of a sequence of characters between separators. -/
def splitChars (separator : Char) : List Char → List (List Char)
  | [] => [[]]
  | c :: rest =>
    if c = separator then [] :: splitChars separator rest
    else
      match splitChars separator rest with
      | [] => [[c]]
      | part :: parts => (c :: part) :: parts

/-- The parts of a text between separators. -/
def split (separator : Char) (text : String) : List String :=
  (splitChars separator text.toList).map String.ofList

/-- The text before the first separator and the text behind it, if there is one. -/
def splitFirst (separator : Char) (text : String) : String × Option String :=
  let before := text.toList.takeWhile (· != separator)
  let rest := text.toList.dropWhile (· != separator)
  (String.ofList before, rest.tail?.map String.ofList)

/-- Lines as a text. Every line is ended by a line feed. -/
def unlines (lines : List String) : String :=
  String.join (lines.map (fun line => line ++ "\n"))

/-! ## White space around a text -/

/-- Removes white space from both ends of a sequence of characters. -/
def trimChars (chars : List Char) : List Char :=
  ((chars.dropWhile isWhiteSpace).reverse.dropWhile isWhiteSpace).reverse

/-- Removes white space from both ends of a text. -/
def trim (text : String) : String :=
  String.ofList (trimChars text.toList)

/-- Whether a text is empty or holds white space only. -/
def isBlank (text : String) : Bool :=
  text.toList.all isWhiteSpace

/-- A text that is blank counts as one that was never given. -/
def nonBlank? (text : Option String) : Option String :=
  text.filter (fun given => !isBlank given)

/-! ## Quoted text -/

/-- A character as its code point in hexadecimal, `\u` and the digits in braces. -/
def codePointEscape (c : Char) : List Char :=
  ['\\', 'u', '\x7b'] ++ Nat.toDigits 16 c.toNat ++ ['\x7d']

/-- A character as it stands inside a quoted text. -/
def escapeChar (c : Char) : List Char :=
  match c with
  | '\x00' => ['\\', '0']
  | '\t' => ['\\', 't']
  | '\n' => ['\\', 'n']
  | '\r' => ['\\', 'r']
  | '"' => ['\\', '"']
  | '\\' => ['\\', '\\']
  | _ => if isPrintable c then [c] else codePointEscape c

/-- A text in double quotes, every character escaped where it has to be. -/
def quoted (text : String) : String :=
  String.ofList ('"' :: (text.toList.flatMap escapeChar ++ ['"']))

/-! ## Structural text -/

/-- A shape with a single part. -/
def tagged (shape part : String) : String :=
  s!"{shape}({part})"

/-- Names and parts with a colon between, separated by commas. -/
def labelled (parts : List (String × String)) : String :=
  joined ", " (parts.map (fun (label, part) => s!"{label}: {part}"))

/-- A shape with named fields. -/
def fields (shape : String) (parts : List (String × String)) : String :=
  s!"{shape} " ++ "\x7b " ++ labelled parts ++ " \x7d"

/-- A sequence of parts. -/
def sequence (parts : List String) : String :=
  "[" ++ joined ", " parts ++ "]"

/-- A table from keys to values. -/
def table (parts : List (String × String)) : String :=
  "\x7b" ++ labelled parts ++ "\x7d"

/-! ## Positions -/

/-- The characters of a sequence with their positions, the first one at `position`. -/
def positionsFrom : (position : Nat) → List Char → List (Nat × Char)
  | _, [] => []
  | position, c :: rest => (position, c) :: positionsFrom (position + c.utf8Size) rest

/-- The characters of a text with their positions. -/
def positions (text : String) : List (Nat × Char) :=
  positionsFrom 0 text.toList

/-- An end of a part that lies inside a character. -/
structure BrokenCharacter where
  /-- Whether the part would start there. -/
  isStart : Bool
  /-- Where the part would start or end. -/
  position : Nat
  /-- Where the character starts. -/
  first : Nat
  /-- The character. -/
  character : Char
  deriving DecidableEq, Repr

/-- The wording of the fault. -/
def BrokenCharacter.message (fault : BrokenCharacter) : String :=
  let side := if fault.isStart then "start" else "end"
  let shown := String.ofList (escapeChar fault.character)
  let past := fault.first + fault.character.utf8Size
  s!"{side} byte index {fault.position} is not a char boundary; " ++
    s!"it is inside '{shown}' (bytes {fault.first}..{past} of string)"

/-- The character of a text that a position lies inside of, with its own position. -/
def characterAround? (text : String) (position : Nat) : Option (Nat × Char) :=
  (positions text).find? (fun (first, c) => first < position && position < first + c.utf8Size)

/-- The part of a text from one position up to another one. -/
def slice (text : String) (first past : Nat) : Except BrokenCharacter String :=
  match characterAround? text first, characterAround? text past with
  | some (start, c), _ => .error ⟨true, first, start, c⟩
  | none, some (start, c) => .error ⟨false, past, start, c⟩
  | none, none =>
    let inside := (positions text).filter (fun (position, _) => first ≤ position && position < past)
    .ok (String.ofList (inside.map Prod.snd))

end PackedAttributes.Text
