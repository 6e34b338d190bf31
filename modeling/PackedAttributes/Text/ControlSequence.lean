/-!
Control sequences of terminals inside a text. Such a sequence begins with an escape character and
ends where its kind says; nothing of it is for the eye. A text is written out bit by bit without its
sequences, and characters beyond ASCII inside a sequence are skipped like the others.
-/
namespace PackedAttributes.Text.ControlSequence

/-- Where a reader stands. -/
inductive State where
  /-- Between the sequences. -/
  | outside
  /-- Behind an escape character. -/
  | escape
  /-- Behind an escape character and some of the characters that may precede the final one. -/
  | escapeIntermediate
  /-- In a sequence with parameters, which an opening bracket introduces. -/
  | parameters
  /-- At the start of a string for a device. -/
  | deviceEntry
  /-- In the parameters of a string for a device. -/
  | deviceParameter
  /-- Behind the parameters of a string for a device. -/
  | deviceIntermediate
  /-- In a string for a device or in a private string. -/
  | string
  /-- In a string for the operating system. -/
  | command
  deriving DecidableEq, Repr

namespace State

/-- Whether an ASCII character is a control or the delete character. -/
def isControl (n : Nat) : Bool :=
  n < 0x20 || n == 0x7F

/-- The state behind an ASCII character that belongs to a sequence or begins one. The characters
cancel and substitute end every sequence, and an escape character begins a new one. -/
def nextAscii (state : State) (n : Nat) : State :=
  if n == 0x18 || n == 0x1A then .outside
  else if n == 0x1B then .escape
  else match state with
    | .outside => .outside
    | .escape =>
      if isControl n then .escape
      else if n < 0x30 then .escapeIntermediate
      else if n == 0x50 then .deviceEntry
      else if n == 0x5B then .parameters
      else if n == 0x5D then .command
      else if n == 0x58 || n == 0x5E || n == 0x5F then .string
      else .outside
    | .escapeIntermediate => if isControl n || n < 0x30 then .escapeIntermediate else .outside
    | .parameters => if isControl n || n < 0x40 then .parameters else .outside
    | .deviceEntry =>
      if isControl n then .deviceEntry
      else if n < 0x30 then .deviceIntermediate
      else if n < 0x40 then .deviceParameter
      else .string
    | .deviceParameter =>
      if isControl n then .deviceParameter
      else if n < 0x30 then .deviceIntermediate
      else if n < 0x3C then .deviceParameter
      else .string
    | .deviceIntermediate => if isControl n || n < 0x30 then .deviceIntermediate else .string
    | .string => .string
    | .command => if n == 0x07 then .outside else .command

/-- Whether the byte that ends a string stands among the bytes of a character. -/
def endsString (c : Char) : Bool :=
  (String.utf8EncodeChar c).contains 0x9C

/-- The state behind a character that is not shown. -/
def next (state : State) (c : Char) : State :=
  if c.toNat < 0x80 then state.nextAscii c.toNat
  else if state = .string && endsString c then .outside
  else state

/-- Whether a character is white space that terminals carry out. -/
def isLayout (c : Char) : Bool :=
  c == '\t' || c == '\n' || c == '\x0c' || c == '\r'

/-- Whether a character is shown. White space is carried out also inside short sequences. -/
def shows (state : State) (c : Char) : Bool :=
  match state with
  | .outside => !isControl c.toNat || isLayout c
  | .escape | .escapeIntermediate | .parameters => isLayout c
  | _ => false

end State

/-- The characters of a text that are written out. Once a character is written, those behind it are
too, up to the next control; then the sequence goes on that the first of them interrupted. -/
def writtenChars (isWriting : Bool) : State → List Char → List Char
  | _, [] => []
  | state, c :: rest =>
    if (if isWriting then State.outside else state).shows c then
      c :: writtenChars true (if c.toNat < 0x80 then state else .outside) rest
    else writtenChars false (state.next c) rest

/-- A text as it is written out. -/
def written (text : String) : String :=
  String.ofList (writtenChars false .outside text.toList)

end PackedAttributes.Text.ControlSequence
