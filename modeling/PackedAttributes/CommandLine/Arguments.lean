import PackedAttributes.Text.Basic

/-!
Reading the arguments of a command from left to right. An option that needs a value takes the next
argument, unless that begins with a dash. A value is checked only when the next option or positional
argument arrives or the arguments end, so a later argument that is not known at all is reported
before an earlier value that is refused.

How similar two words are is a number from zero to one. Characters count as shared if they stand at
nearly the same place in both words. The measure is the mean of the shares of both words that are
shared and of the share of the shared characters that stand in the same order.
-/
namespace PackedAttributes.Text

/-! ## Similar words -/

/-- Takes the first character of a word that equals `c`, is not taken yet and stands at a place from
`first` up to `past`. The word starts at the place `here`. -/
def takeShared (c : Char) (first past : Nat) :
    (here : Nat) → List (Char × Bool) → Option (List (Char × Bool))
  | _, [] => none
  | here, (other, taken) :: rest =>
    if past ≤ here then none
    else if first ≤ here && other == c && !taken then some ((other, true) :: rest)
    else (takeShared c first past (here + 1) rest).map ((other, taken) :: ·)

/-- The shared characters of two words, in the order of the first word and in that of the second.
Places may differ by `reach`. -/
def sharedChars (reach : Nat) :
    (here : Nat) → List Char → List (Char × Bool) → List Char × List Char
  | _, [], word => ([], (word.filter Prod.snd).map Prod.fst)
  | here, c :: rest, word =>
    match takeShared c (here - reach) (here + reach + 1) 0 word with
    | some word =>
      let (left, right) := sharedChars reach (here + 1) rest word
      (c :: left, right)
    | none => sharedChars reach (here + 1) rest word

/-- The similarity of two words. Two empty words are the same, and nothing is similar to one empty
word. -/
def similarity (left right : String) : Float :=
  let leftLength := left.length
  let rightLength := right.length
  if leftLength = 0 && rightLength = 0 then 1
  else
    let reach := max leftLength rightLength / 2 - 1
    let (first, second) :=
      sharedChars reach 0 left.toList (right.toList.map (fun c => (c, false)))
    let shared := first.length
    let displaced := ((first.zip second).filter (fun (a, b) => a != b)).length / 2
    if shared = 0 then 0
    else
      (shared.toFloat / leftLength.toFloat + shared.toFloat / rightLength.toFloat +
        (shared - displaced).toFloat / shared.toFloat) / 3

/-- Whether one word may have been meant where the other one stands. -/
def isSimilar (left right : String) : Bool :=
  similarity left right > 0.7

end PackedAttributes.Text

namespace PackedAttributes.CommandLine

/-! ## What a command knows -/

/-- Why a value is refused. -/
inductive Refusal where
  /-- It counts as no value at all. -/
  | missing
  /-- It is not one of the values that are understood. -/
  | invalid (reason : String)
  deriving DecidableEq, Repr

/-- What a parameter does. -/
inductive Action where
  /-- Keeps a value that passes a check. -/
  | store (check : String → Except Refusal Unit)
  /-- Switches something on. -/
  | switch
  /-- Ends the reading with a description of the command. -/
  | help
  /-- Ends the reading with the version. -/
  | version

/-- Something that arguments can set. -/
structure Parameter where
  /-- The long name, without dashes. -/
  name : String
  /-- The letter, where there is one. -/
  letter : Option Char
  /-- How messages show the parameter. -/
  shown : String
  /-- What the parameter does. -/
  action : Action

/-- What a command understands. -/
structure Grammar where
  /-- The options. -/
  options : List Parameter
  /-- The positional parameter, where there is one. -/
  positional : Option Parameter
  /-- The names of the commands that may follow. -/
  commands : List String
  /-- The names of those of the commands that cannot be set up. -/
  unusable : List String

/-! ## Why reading ends -/

/-- Why arguments do not say what to do, or say to do nothing but to inform. -/
inductive Stop where
  /-- A description of the command was asked for. -/
  | helpAsked
  /-- The version was asked for. -/
  | versionAsked
  /-- A value is refused. -/
  | invalidValue (value shown reason : String)
  /-- A parameter lacks its value. -/
  | valueMissing (shown : String)
  /-- A parameter that takes no value has one. -/
  | unexpectedValue (value shown : String)
  /-- A parameter is set twice. -/
  | repeated (shown : String)
  /-- An argument means nothing. -/
  | unexpectedArgument (text : String)
  /-- A word stands in the place of a command and is none. -/
  | unknownCommand (name : String)
  /-- A required positional argument is missing. -/
  | argumentMissing
  /-- A command had to be set up and cannot be. -/
  | unusableCommand
  deriving DecidableEq, Repr

/-! ## Arguments one by one -/

/-- An argument by its outer form. -/
inductive Token where
  /-- Two dashes: all that follows is positional. -/
  | escape
  /-- A long name, with a value behind an equals sign or without. -/
  | long (name : String) (attached : Option String)
  /-- A letter behind a single dash. -/
  | letter (letter : Char)
  /-- Anything else, also a single dash. -/
  | word
  deriving DecidableEq, Repr

/-- The outer form of an argument. -/
def Token.ofText (text : String) : Token :=
  match text.toList with
  | ['-', '-'] => .escape
  | '-' :: '-' :: rest =>
    let (name, attached) := Text.splitFirst '=' (String.ofList rest)
    .long name attached
  | '-' :: first :: _ => .letter first
  | _ => .word

/-- A parameter that was met but not dealt with. -/
structure Pending where
  /-- The parameter. -/
  parameter : Parameter
  /-- Its value, once there is one. -/
  value : Option String

/-- How far the reading has come. -/
structure Progress where
  /-- The parameters that were set, with their values. -/
  found : List (String × String)
  /-- The parameter that still has to be checked. -/
  pending : Option Pending
  /-- Whether the positional argument was met. -/
  positionalMet : Bool
  /-- Whether two dashes were met. -/
  escaped : Bool

namespace Progress

/-- Before the first argument. -/
def start : Progress := ⟨[], none, false, false⟩

/-- Whether an option waits for its value. -/
def isWaiting (progress : Progress) : Bool :=
  match progress.pending with
  | some pending => pending.value.isNone
  | none => false

/-- Whether a parameter was set. -/
def isSet (progress : Progress) (parameter : Parameter) : Bool :=
  (progress.found.lookup parameter.name).isSome

/-- Sets a parameter, which must not be set already. -/
def record (progress : Progress) (parameter : Parameter) (value : String) :
    Except Stop Progress :=
  if progress.isSet parameter then .error (.repeated parameter.shown)
  else .ok { progress with found := progress.found ++ [(parameter.name, value)] }

/-- Checks a value of a parameter and sets it. -/
def store (progress : Progress) (parameter : Parameter) (value : String) :
    Except Stop Progress := do
  let stored ← progress.record parameter value
  match parameter.action with
  | .store check =>
    match check value with
    | .ok () => .ok stored
    | .error .missing => .error (.valueMissing parameter.shown)
    | .error (.invalid reason) => .error (.invalidValue value parameter.shown reason)
  | _ => .ok stored

/-- Deals with the parameter that was met last. -/
def settle (progress : Progress) : Except Stop Progress :=
  match progress.pending with
  | none => .ok progress
  | some ⟨parameter, none⟩ => .error (.valueMissing parameter.shown)
  | some ⟨parameter, some value⟩ => { progress with pending := none }.store parameter value

end Progress

namespace Grammar

/-- Meets an option, with a value attached to it or without. -/
def meetOption (progress : Progress) (parameter : Parameter) (attached : Option String) :
    Except Stop Progress :=
  match parameter.action, attached with
  | .store _, some value => do (← progress.settle).store parameter value
  | .store _, none => do
    let settled ← progress.settle
    return { settled with pending := some ⟨parameter, none⟩ }
  | _, some value => .error (.unexpectedValue value parameter.shown)
  | .switch, none => do (← progress.settle).record parameter ""
  | .help, none => do
    let _ ← progress.settle
    .error .helpAsked
  | .version, none => do
    let _ ← progress.settle
    .error .versionAsked

/-- Meets an argument that is no option. Where commands may follow and no positional argument can
stand, it was meant as a command, unless two dashes took that meaning from it. -/
def meetPositional (grammar : Grammar) (progress : Progress) (text : String) :
    Except Stop Progress :=
  match grammar.positional, progress.positionalMet with
  | some parameter, false => do
    let settled ← progress.settle
    return { settled with pending := some ⟨parameter, some text⟩, positionalMet := true }
  | some _, true => .error (.unexpectedArgument text)
  | none, _ =>
    if grammar.commands.isEmpty || (progress.escaped && grammar.commands.contains text) then
      .error (.unexpectedArgument text)
    else .error (.unknownCommand text)

/-- What comes of a long name that no option has. If one of the options is alike, it was meant. If
not, the options of all commands are looked at, and so every command has to be set up. -/
def unknownName (grammar : Grammar) (name : String) : Stop :=
  let isAlike := grammar.options.any (fun parameter => Text.isSimilar name parameter.name)
  if isAlike || grammar.unusable.isEmpty then .unexpectedArgument s!"--{name}"
  else .unusableCommand

/-- Meets an argument that does not name a command. -/
def meet (grammar : Grammar) (progress : Progress) (text : String) : Except Stop Progress :=
  if progress.escaped then grammar.meetPositional progress text
  else
    match Token.ofText text with
    | .escape => .ok { progress with escaped := true }
    | .long name attached =>
      match grammar.options.find? (fun parameter => parameter.name == name) with
      | some parameter => meetOption progress parameter attached
      | none => .error (grammar.unknownName name)
    | .letter letter =>
      match grammar.options.find? (fun parameter => parameter.letter == some letter) with
      | some parameter => meetOption progress parameter none
      | none => .error (.unexpectedArgument s!"-{letter}")
    | .word =>
      match progress.pending with
      | some ⟨parameter, none⟩ =>
        .ok { progress with pending := some ⟨parameter, some text⟩ }
      | _ => grammar.meetPositional progress text

/-- Reads arguments up to the name of a command. The result is how far the reading has come and, if
a command was named, its name with the arguments behind it. The parameter met last is still pending.
-/
def read (grammar : Grammar) :
    Progress → List String → Except Stop (Progress × Option (String × List String))
  | progress, [] => .ok (progress, none)
  | progress, text :: rest =>
    if !progress.escaped && !progress.isWaiting && grammar.commands.contains text then
      .ok (progress, some (text, rest))
    else
      match grammar.meet progress text with
      | .error stop => .error stop
      | .ok progress => read grammar progress rest

end Grammar

end PackedAttributes.CommandLine
