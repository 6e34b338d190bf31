import PackedAttributes.Text.Basic

/-!
Patterns for the values of fields, as far as it matters whether a text is one that can be used.
Every group and every class has to be closed, a repetition needs something in front of it, and all
parts have to be understood under the flags that hold where they stand. Counted repetitions never
occur, because the brace at their end would end the field.

The properties of characters beyond ASCII are not known. So where patterns are about characters rather
than bytes, a letter cannot stand for its other case and there are no digits, spaces or words; and
where they are about bytes, nothing may match a part of a character.

Classes of characters are lists and ranges of characters in brackets, classes inside classes, and
operations on them. What is read of a class is its height, that is, how deep its parts are nested.
-/
namespace PackedAttributes.Logging.Pattern

/-! ## Flags -/

/-- How a part of a pattern is understood. -/
structure Flags where
  /-- Whether letters stand for their other case too. -/
  ignoresCase : Bool
  /-- Whether the pattern is about characters rather than bytes. -/
  isUnicode : Bool
  /-- Whether white space and comments are left out. -/
  skipsSpace : Bool
  deriving DecidableEq, Repr

/-- Leaves out white space and comments, possibly from the middle of a comment on. A comment goes on
to the end of its line. -/
def dropSpace : (inComment : Bool) → List Char → List Char
  | _, [] => []
  | true, c :: rest => dropSpace (c != '\n') rest
  | false, c :: rest =>
    if Text.isWhiteSpace c then dropSpace false rest
    else if c = '#' then dropSpace true rest
    else c :: rest

namespace Flags

/-- How patterns are understood that say nothing about it. -/
def standard : Flags := ⟨false, true, false⟩

/-- What is read next. -/
def skip (flags : Flags) (text : List Char) : List Char :=
  if flags.skipsSpace then dropSpace false text else text

/-- The marks of all flags. Those for lines and for greed make no difference to what is
understood. -/
def marks : List Char := ['i', 'm', 's', 'R', 'U', 'u', 'x']

/-- Whether marks switch a flag on, which has another state otherwise. Marks behind a minus sign
switch flags off. -/
def switched (given : List Char) (mark : Char) (otherwise : Bool) : Bool :=
  if (given.takeWhile (· != '-')).contains mark then true
  else if given.contains mark then false
  else otherwise

/-- The flags behind marks. Every mark may be given once, also the minus sign, which cannot be the
last one. -/
def change? (flags : Flags) (given : List Char) : Option Flags :=
  if given.all ('-' :: marks).contains && given.Nodup && given.getLast? != some '-' then
    some {
      ignoresCase := switched given 'i' flags.ignoresCase
      isUnicode := switched given 'u' flags.isUnicode
      skipsSpace := switched given 'x' flags.skipsSpace }
  else none

end Flags

/-! ## Atoms -/

/-- The smallest part of a pattern. -/
inductive Atom where
  /-- A character. It may be written as a byte, by two hexadecimal digits. -/
  | literal (character : Char) (isByte : Bool)
  /-- Any character. -/
  | any
  /-- Digits, spaces or the characters of words, or all others. -/
  | shorthand (isNegated : Bool)
  /-- The start or the end of a word, or a place where there is none. -/
  | wordBoundary
  /-- The start or the end of a line or of the text. -/
  | textBoundary
  deriving DecidableEq, Repr

namespace Flags

/-- Whether an atom is understood outside classes. -/
def understands (flags : Flags) : Atom → Bool
  | .literal c isByte =>
    if flags.isUnicode then !flags.ignoresCase else !isByte || c.toNat < 0x80
  | .any => flags.isUnicode
  | .shorthand isNegated => !flags.isUnicode && !isNegated
  | .wordBoundary | .textBoundary => true

/-- Whether an atom is understood in a class. -/
def understandsInClass (flags : Flags) : Atom → Bool
  | .literal c _ => if flags.isUnicode then !flags.ignoresCase else c.toNat < 0x80
  | .shorthand isNegated => !flags.isUnicode && !isNegated
  | _ => false

end Flags

/-! ## Escapes -/

/-- The value of a hexadecimal digit. -/
def hexDigit? (c : Char) : Option Nat :=
  if c.isDigit then some (c.toNat - 48)
  else if ('a' ≤ c && c ≤ 'f') || ('A' ≤ c && c ≤ 'F') then some (c.toNat % 32 + 9)
  else none

/-- Reads `count` hexadecimal digits behind those that have a value already. -/
def hexDigits? (flags : Flags) : (count value : Nat) → List Char → Option (Nat × List Char)
  | 0, value, text => some (value, text)
  | _ + 1, _, [] => none
  | count + 1, value, c :: rest => do
    hexDigits? flags count (16 * value + (← hexDigit? c)) (flags.skip rest)

/-- Reads a character that is given by hexadecimal digits. -/
def codePoint? (flags : Flags) (count : Nat) (text : List Char) : Option (Atom × List Char) := do
  let (value, rest) ← hexDigits? flags count 0 (flags.skip text)
  let c := Char.ofNat value
  if c.toNat = value then some (.literal c (count == 2), rest) else none

/-- The characters that have letters as names. -/
def namedChars : List (Char × Char) :=
  [('a', '\x07'), ('f', '\x0c'), ('t', '\t'), ('n', '\n'), ('r', '\r'), ('v', '\x0b')]

/-- Reads what stands behind a backslash. A character of ASCII that is neither a letter nor a digit
stands for itself. -/
def escape? (flags : Flags) : List Char → Option (Atom × List Char)
  | [] => none
  | c :: rest =>
    match c with
    | 'x' => codePoint? flags 2 rest
    | 'u' => codePoint? flags 4 rest
    | 'U' => codePoint? flags 8 rest
    | 'd' | 's' | 'w' => some (.shorthand false, rest)
    | 'D' | 'S' | 'W' => some (.shorthand true, rest)
    | 'b' | 'B' | '<' | '>' => some (.wordBoundary, rest)
    | 'A' | 'z' => some (.textBoundary, rest)
    | _ =>
      match namedChars.lookup c with
      | some named => some (.literal named false, rest)
      | none => if c.toNat < 0x80 && !c.isAlphanum then some (.literal c false, rest) else none

/-! ## Heights -/

/-- The height of parts side by side. More than one part make one part that is higher. -/
def heightOfAll : List Nat → Nat
  | [] => 0
  | [height] => height
  | heights => heights.foldl max 0 + 1

/-! ## Classes with names -/

/-- The names of the classes of ASCII characters. -/
def asciiClassNames : List String :=
  ["alnum", "alpha", "ascii", "blank", "cntrl", "digit", "graph", "lower", "print", "punct",
    "space", "upper", "word", "xdigit"]

/-- Reads the name of a class behind a bracket. The result is whether the class is negated. -/
def asciiClass? : List Char → Option (Bool × List Char)
  | ':' :: text =>
    let isNegated := text.head? == some '^'
    let text := if isNegated then text.tail else text
    match text.dropWhile (· != ':') with
    | ':' :: ']' :: rest =>
      if asciiClassNames.contains (String.ofList (text.takeWhile (· != ':'))) then
        some (isNegated, rest)
      else none
    | _ => none
  | _ => none

/-- Whether a class of ASCII characters is understood. -/
def Flags.understandsAscii (flags : Flags) (isNegated : Bool) : Bool :=
  if flags.isUnicode then !flags.ignoresCase else !isNegated

/-! ## Classes in brackets -/

/-- A class that is being read. -/
structure OpenClass where
  /-- Whether nothing but minus signs was read so far. -/
  isFresh : Bool
  /-- The heights of the items behind the last operation. -/
  items : List Nat
  /-- The height of what the last operation is applied to, if there was one. -/
  left : Option Nat

namespace OpenClass

/-- The height of what was read. -/
def height (opened : OpenClass) : Nat :=
  match opened.left with
  | none => heightOfAll opened.items
  | some left => max left (heightOfAll opened.items) + 1

/-- The class behind an item. -/
def add (opened : OpenClass) (height : Nat) : OpenClass :=
  { opened with isFresh := false, items := height :: opened.items }

/-- The class behind an operation. -/
def operate (opened : OpenClass) : OpenClass :=
  { isFresh := false, items := [], left := some opened.height }

end OpenClass

/-- Reads what stands behind the bracket that opens a class. What is not in a class of bytes may be
a part of a character, so such a class cannot be negated. -/
def openClass? (flags : Flags) (text : List Char) : Option (OpenClass × List Char) :=
  match flags.skip text with
  | '^' :: rest => if flags.isUnicode then some (⟨true, [], none⟩, rest) else none
  | rest => some (⟨true, [], none⟩, rest)

/-- Reads an atom in a class. -/
def classAtom? (flags : Flags) : List Char → Option (Atom × List Char)
  | [] => none
  | '\\' :: rest => escape? flags rest
  | c :: rest => some (.literal c false, rest)

/-- The character that decides whether a minus sign stands for a range. White space in front of it
is passed over where it is left out, and so is the mark of a comment. -/
def decisive? : (inComment : Bool) → List Char → Option Char
  | _, [] => none
  | inComment, c :: rest =>
    if Text.isWhiteSpace c then decisive? inComment rest
    else if c = '#' && !inComment then decisive? true rest
    else some c

/-- Whether a minus sign stands for a range, by what is behind it. -/
def Flags.beginsRange (flags : Flags) (text : List Char) : Bool :=
  let next := if flags.skipsSpace then decisive? false text else text.head?
  next != some ']' && next != some '-'

/-- Reads a character, a range or another atom in a class. -/
def classItem? (flags : Flags) (text : List Char) : Option (List Char) := do
  let (first, rest) ← classAtom? flags text
  if !flags.understandsInClass first then none
  else
    match flags.skip rest with
    | '-' :: afterSign =>
      if flags.beginsRange afterSign then
        let (last, rest) ← classAtom? flags (flags.skip afterSign)
        match first, last with
        | .literal low _, .literal high _ =>
          if flags.understandsInClass last && low ≤ high then some rest else none
        | _, _ => none
      else some ('-' :: afterSign)
    | rest => some rest

/-- Reads a class up to its closing bracket, in at most `fuel` steps. The classes around it are
given from the inside to the outside. A minus sign right behind the opening bracket is a plain
character, and so is a closing bracket there. The result is the height of the outermost class. -/
def readClass : (fuel : Nat) → Flags → OpenClass → List OpenClass → List Char →
    Option (Nat × List Char)
  | 0, _, _, _, _ => none
  | fuel + 1, flags, opened, outer, text =>
    let plain := flags.understandsInClass (.literal '-' false)
    match flags.skip text with
    | [] => none
    | '-' :: rest =>
      if opened.isFresh then
        if plain then
          readClass fuel flags { opened with items := 0 :: opened.items } outer rest
        else none
      else
        match rest with
        | '-' :: rest => readClass fuel flags opened.operate outer rest
        | _ => (classItem? flags ('-' :: rest)).bind (readClass fuel flags (opened.add 0) outer)
    | ']' :: rest =>
      if opened.isFresh && opened.items.isEmpty then
        if plain then readClass fuel flags (opened.add 0) outer rest else none
      else
        match outer with
        | [] => some (opened.height + 1, rest)
        | around :: outer => readClass fuel flags (around.add (opened.height + 1)) outer rest
    | '[' :: rest =>
      match asciiClass? rest with
      | some (isNegated, rest) =>
        if flags.understandsAscii isNegated then readClass fuel flags (opened.add 0) outer rest
        else none
      | none => do
        let (inner, rest) ← openClass? flags rest
        readClass fuel flags inner (opened :: outer) rest
    | '&' :: '&' :: rest | '~' :: '~' :: rest => readClass fuel flags opened.operate outer rest
    | text => (classItem? flags text).bind (readClass fuel flags (opened.add 0) outer)

/-! ## Patterns -/

/-- Why a text cannot be used as a pattern. -/
inductive Fault where
  /-- It is no pattern, or parts of it are not understood. -/
  | malformed
  /-- It asks for the start or the end of a word of characters beyond ASCII. -/
  | unicodeWordBoundary
  deriving DecidableEq, Repr

/-- The wording of the fault. -/
def Fault.message : Fault → String
  | .malformed => "error building NFA"
  | .unicodeWordBoundary =>
    "unsupported regex feature for DFAs: cannot build DFAs for regexes with Unicode word " ++
      "boundaries; switch to ASCII word boundaries, or heuristically enable Unicode word " ++
      "boundaries or use a different regex engine"

/-- How deep the parts of a pattern may be nested. -/
def greatestHeight : Nat := 250

/-- A part of a sequence. -/
structure Element where
  /-- How deep its parts are nested. -/
  height : Nat
  /-- Whether it can be repeated. -/
  canRepeat : Bool

/-- Alternatives that are being read. -/
structure Branches where
  /-- The heights of the finished alternatives. -/
  finished : List Nat
  /-- The elements of the last alternative, the last one first. -/
  elements : List Element

namespace Branches

/-- Before anything is read. -/
def empty : Branches := ⟨[], []⟩

/-- The alternatives behind a further element. -/
def add (branches : Branches) (element : Element) : Branches :=
  { branches with elements := element :: branches.elements }

/-- The alternatives where a further one begins. -/
def next (branches : Branches) : Branches :=
  ⟨heightOfAll (branches.elements.map Element.height) :: branches.finished, []⟩

/-- The height of all alternatives. -/
def height (branches : Branches) : Nat :=
  heightOfAll branches.next.finished

/-- The alternatives with the last element repeated. -/
def repeated? (branches : Branches) : Option Branches :=
  match branches.elements with
  | ⟨height, true⟩ :: before => some { branches with elements := ⟨height + 1, true⟩ :: before }
  | _ => none

end Branches

/-- A group that is being read, as it was when it was opened. -/
structure Group where
  /-- The flags in front of the group. -/
  flags : Flags
  /-- The alternatives in front of the group. -/
  branches : Branches

/-- How far the reading has come. -/
structure Progress where
  /-- The flags that hold. -/
  flags : Flags
  /-- The alternatives of the innermost group. -/
  branches : Branches
  /-- The open groups, the innermost one first. -/
  groups : List Group
  /-- The names of groups. -/
  names : List String
  /-- Whether the start or the end of a word of characters beyond ASCII was asked for. -/
  hasWordBoundary : Bool

namespace Progress

/-- Before the first character. -/
def start : Progress := ⟨.standard, .empty, [], [], false⟩

/-- The progress behind an element. -/
def add (progress : Progress) (element : Element) : Progress :=
  { progress with branches := progress.branches.add element }

/-- The progress where a group with the given flags begins. -/
def enter (progress : Progress) (flags : Flags) : Progress :=
  { progress with
    flags := flags
    branches := .empty
    groups := ⟨progress.flags, progress.branches⟩ :: progress.groups }

/-- The progress behind a group. The flags in front of the group hold again. -/
def leave? (progress : Progress) : Option Progress :=
  match progress.groups with
  | [] => none
  | group :: groups =>
    some { progress with
      flags := group.flags
      branches := group.branches.add ⟨progress.branches.height + 1, true⟩
      groups := groups }

/-- Whether a character can stand in the name of a group. -/
def canName (c : Char) : Bool :=
  Text.isAlphanumeric c || ['_', '.', '[', ']'].contains c

/-- Reads the name of a group up to its closing bracket. No two groups have the same name. -/
def named? (progress : Progress) (text : List Char) : Option (Progress × List Char) :=
  let name := text.takeWhile (· != '>')
  match name, text.dropWhile (· != '>') with
  | first :: others, '>' :: rest =>
    if (first == '_' || Text.isLetter first) && others.all canName &&
        !progress.names.contains (String.ofList name) then
      some ({ progress with names := String.ofList name :: progress.names }.enter progress.flags,
        rest)
    else none
  | _, _ => none

/-- Reads marks of flags. They hold for a group behind a colon, or from a closing parenthesis on. -/
def flagged? (progress : Progress) (text : List Char) : Option (Progress × List Char) := do
  let isMark := fun c => c != ':' && c != ')'
  let given := text.takeWhile isMark
  let flags ← progress.flags.change? given
  match text.dropWhile isMark with
  | ':' :: rest => some (progress.enter flags, rest)
  | ')' :: rest =>
    if given.isEmpty then none else some ({ progress with flags := flags }.add ⟨0, false⟩, rest)
  | _ => none

/-- Reads what stands behind the parenthesis that opens a group. -/
def group? (progress : Progress) (text : List Char) : Option (Progress × List Char) :=
  match progress.flags.skip text with
  | '?' :: '<' :: rest | '?' :: 'P' :: '<' :: rest => progress.named? rest
  | '?' :: rest => progress.flagged? rest
  | rest => some (progress.enter progress.flags, rest)

/-- The progress behind an atom, if it is understood. -/
def atom? (progress : Progress) (atom : Atom) : Option Progress :=
  if progress.flags.understands atom then
    let asksForWords := atom = .wordBoundary && progress.flags.isUnicode
    some { progress with
      branches := progress.branches.add ⟨0, true⟩
      hasWordBoundary := progress.hasWordBoundary || asksForWords }
  else none

/-- Reads a part of a pattern that begins with the given character. -/
def step? (progress : Progress) (c : Char) (rest : List Char) : Option (Progress × List Char) :=
  match c with
  | '(' => progress.group? rest
  | ')' => progress.leave?.map (fun progress => (progress, rest))
  | '|' => some ({ progress with branches := progress.branches.next }, rest)
  | '*' | '+' | '?' =>
    -- A question mark behind a repetition says which repetitions are tried first.
    let rest := if rest.head? == some '?' then rest.tail else rest
    progress.branches.repeated?.map (fun branches => ({ progress with branches := branches }, rest))
  | '[' => do
    let (opened, rest) ← openClass? progress.flags rest
    let (height, rest) ← readClass (rest.length + 1) progress.flags opened [] rest
    return (progress.add ⟨height, true⟩, rest)
  | '\\' => do
    let (atom, rest) ← escape? progress.flags rest
    return (← progress.atom? atom, rest)
  | '\x7b' => none
  | '.' => (progress.atom? .any).map (fun progress => (progress, rest))
  | '^' | '$' => (progress.atom? .textBoundary).map (fun progress => (progress, rest))
  | _ => (progress.atom? (.literal c false)).map (fun progress => (progress, rest))

/-- Reads a pattern to its end, in at most `fuel` steps. -/
def read? : (fuel : Nat) → Progress → List Char → Option Progress
  | 0, _, _ => none
  | fuel + 1, progress, text =>
    match progress.flags.skip text with
    | [] => some progress
    | c :: rest => (progress.step? c rest).bind (fun (progress, rest) => read? fuel progress rest)

end Progress

/-- Checks whether a text can be used as a pattern. Each step of the reading takes a character. -/
def check (text : String) : Except Fault Unit :=
  match Progress.start.read? (text.length + 1) text.toList with
  | none => .error .malformed
  | some progress =>
    if !progress.groups.isEmpty || greatestHeight < progress.branches.height then .error .malformed
    else if progress.hasWordBoundary then .error .unicodeWordBoundary
    else .ok ()

end PackedAttributes.Logging.Pattern
