import PackedAttributes.Logging.Config
import PackedAttributes.Logging.FieldMatch
import PackedAttributes.Text.Basic

/-!
Filters of log events, and the directives that they consist of.

A directive lets events up to some detail pass. It may be about a target, about a span and about a
field: `target[span{field=value}]=level`, where every part may be missing. The text is looked through
without the white space around it, but the parts are then cut out of the whole text at the positions
found, so white space in front moves every part.

A filter is a list of directives, and the most exact one that is about an event decides whether the
event passes. Directives about spans are kept apart, because no event passes for their sake outside a
span.
-/
namespace PackedAttributes.Logging

/-! ## How much passes -/

/-- How much detail passes: events up to a level, or none at all. -/
inductive Threshold where
  | off
  | upTo (level : Level)
  deriving DecidableEq, Repr

namespace Threshold

/-- The thresholds from no detail to all detail. -/
def all : List Threshold :=
  [.off, .upTo .error, .upTo .warn, .upTo .info, .upTo .debug, .upTo .trace]

/-- All detail. -/
def most : Threshold := .upTo .trace

/-- The name of a threshold. -/
def name : Threshold → String
  | .off => "off"
  | .upTo level => level.name

/-- The threshold that a word stands for: its name in any letter case, or its number. -/
def ofWord? (word : String) : Option Threshold :=
  match Text.natural? word with
  | some number => all[number]?
  | none => all.find? (fun threshold => Text.agreesUpToAsciiCase word threshold.name)

/-- Whether an event of a level passes. -/
def allows (threshold : Threshold) (level : Level) : Bool :=
  match threshold with
  | .off => false
  | .upTo greatest => level.detail ≤ greatest.detail

end Threshold

/-! ## Directives -/

/-- What a filter looks at in an event. -/
structure Signature where
  /-- The level. -/
  level : Level
  /-- The target. -/
  target : String
  /-- The names of the fields. -/
  fields : List String
  deriving DecidableEq, Repr

/-- Lets events pass up to a threshold. -/
structure Directive where
  /-- What the targets begin with, or none for every target. -/
  target : Option String
  /-- The name of the span, or none where no name is asked for. -/
  span : Option String
  /-- What is asked of a field, if anything. -/
  field : Option FieldMatch
  /-- How much detail passes. -/
  threshold : Threshold
  deriving DecidableEq, Repr

namespace Directive

/-- The directive for every target. -/
def everywhere (threshold : Threshold) : Directive := ⟨none, none, none, threshold⟩

/-- Whether the directive decides over events outside all spans. One that names a span or a value
does not. -/
def isForEvents (directive : Directive) : Bool :=
  directive.span.isNone && directive.field.all (fun field => field.value.isNone)

/-- Whether the directive is about spans. -/
def isForSpans (directive : Directive) : Bool :=
  directive.span.isSome || directive.field.isSome

/-- Whether a directive decides over an event. -/
def covers (directive : Directive) (signature : Signature) : Bool :=
  directive.target.all (fun beginning => beginning.toList.isPrefixOf signature.target.toList) &&
    directive.field.all (fun field => signature.fields.contains field.name)

/-- The directive as text. -/
def text (directive : Directive) : String :=
  let field := match directive.field with
    | some field => "\x7b" ++ field.text ++ "\x7d"
    | none => ""
  let span := directive.span.getD ""
  let target := directive.target.getD ""
  if directive.isForSpans then s!"{target}[{span}{field}]={directive.threshold.name}"
  else if directive.target.isSome then s!"{target}={directive.threshold.name}"
  else directive.threshold.name

/-- The order of what fields directives ask for, those without a field first. -/
def fieldOrder (left right : Directive) : Ordering :=
  match left.field, right.field with
  | some left, some right => left.order right
  | left, right => compare left.isSome right.isSome

/-- The order of directives from vague to exact: by the length of the target, by whether there is a
span and whether there is a field, and then by the texts. Directives about the same are equal. -/
def order (left right : Directive) : Ordering :=
  let size := fun (directive : Directive) => directive.target.map String.utf8ByteSize
  let keys := [compare (size left) (size right), compare left.span.isSome right.span.isSome,
    compare left.field.isSome right.field.isSome, compare left.target right.target,
    compare left.span right.span, fieldOrder left right]
  keys.foldr Ordering.then .eq

/-! ## Reading -/

/-- Why a text is no directive. -/
inductive Fault where
  /-- It does not have the form of one. -/
  | invalid
  /-- What stands behind the equals sign is no level. -/
  | unknownLevel
  /-- What the value of a field has to match cannot be used as a pattern. -/
  | unusablePattern (fault : Pattern.Fault)
  /-- A part would have to be cut out of the middle of a character. -/
  | brokenCharacter (fault : Text.BrokenCharacter)
  deriving DecidableEq, Repr

/-- The wording of the fault. -/
def Fault.message : Fault → String
  | .invalid => "invalid filter directive"
  | .unknownLevel =>
    "error parsing level filter: expected one of \"off\", \"error\", \"warn\", \"info\", " ++
      "\"debug\", \"trace\", or a number 0-5"
  | .unusablePattern fault => s!"invalid field filter: {fault.message}"
  | .brokenCharacter fault => fault.message

/-- Where the reading stands. A number is the position where the part begins that is being read. -/
inductive Stage where
  /-- At the start. -/
  | start
  /-- In a word, which is a level or a target. -/
  | word
  /-- In the name of a span. -/
  | span (first : Nat)
  /-- In a field. -/
  | field (first : Nat)
  /-- Behind a field. -/
  | behindField
  /-- Behind the brackets. -/
  | behindSpan
  /-- Behind the equals sign. -/
  | level (first : Nat)
  deriving DecidableEq, Repr

/-- Whether a character can begin a directive that does not begin with a bracket. -/
def canBegin (c : Char) : Bool :=
  Text.isAlphanumeric c || c == '-' || c == ':' || c == '_'

/-- The part of a text between two positions. -/
def part (text : String) (first past : Nat) : Except Fault String :=
  (Text.slice text first past).mapError .brokenCharacter

/-- The stage behind the character at a position, with the directive as far as it is read. -/
def step (text : String) (position : Nat) (c : Char) :
    Stage → Directive → Except Fault (Stage × Directive)
  | .start, directive =>
    if c = '[' then .ok (.span (position + 1), directive)
    else if canBegin c then .ok (.word, directive)
    else .error .invalid
  | .word, directive => do
    if c = '=' then
      return (.level (position + 1), { directive with target := some (← part text 0 position) })
    else if c = '[' then
      return (.span (position + 1), { directive with target := some (← part text 0 position) })
    else return (.word, directive)
  | .span first, directive => do
    if c = ']' then
      return (.behindSpan, { directive with span := some (← part text first position) })
    else if c = '\x7b' then
      let name ← part text first position
      return (.field (position + 1), { directive with
        span := if name.isEmpty then none else some name })
    else return (.span first, directive)
  | .field first, directive => do
    if c = '\x7d' then
      let field ← part text first position
      if field.isEmpty then .error .invalid
      else
        let field ← (FieldMatch.parse field).mapError .unusablePattern
        return (.behindField, { directive with field := some field })
    else return (.field first, directive)
  | .behindField, directive => if c = ']' then .ok (.behindSpan, directive) else .error .invalid
  | .behindSpan, directive =>
    if c = '=' then .ok (.level (position + 1), directive) else .error .invalid
  | .level first, directive => .ok (.level first, directive)

/-- What is read once the text ends. A word is a level if it can be one; a directive without a level
lets everything pass. -/
def finish (text : String) : Stage → Directive → Except Fault Directive
  | .word, directive =>
    match Threshold.ofWord? text with
    | some threshold => .ok { directive with threshold := threshold }
    | none => .ok { directive with target := some text }
  | .level first, directive => do
    let word ← part text first text.utf8ByteSize
    if word.isEmpty then return directive
    else
      match Threshold.ofWord? word with
      | some threshold => return { directive with threshold := threshold }
      | none => .error .unknownLevel
  | .behindSpan, directive => .ok directive
  | _, _ => .error .invalid

/-- Reads the characters of a text, each with its position. -/
def readFrom (text : String) : Stage → Directive → List (Nat × Char) → Except Fault Directive
  | stage, directive, [] => finish text stage directive
  | stage, directive, (position, c) :: rest => do
    let (stage, directive) ← step text position c stage directive
    readFrom text stage directive rest

/-- Reads a directive. -/
def parse (text : String) : Except Fault Directive :=
  readFrom text .start (everywhere .most) (Text.positions (Text.trim text))

end Directive

/-! ## Filters -/

/-- A filter. -/
structure Filter where
  /-- The directives that decide over events, in the order in which they are tried. -/
  forEvents : List Directive
  /-- The directives about spans, in the same order. -/
  forSpans : List Directive
  deriving DecidableEq, Repr

namespace Filter

/-- Adds a directive to others that stand in order, more exact ones first. It takes the place of one
about the same. -/
def insert (directive : Directive) : List Directive → List Directive
  | [] => [directive]
  | first :: rest =>
    match directive.order first with
    | .gt => directive :: first :: rest
    | .eq => directive :: rest
    | .lt => first :: insert directive rest

/-- Puts directives in order. -/
def sort (directives : List Directive) : List Directive :=
  directives.foldl (fun sorted directive => insert directive sorted) []

/-- The filter with the given directives. -/
def ofDirectives (directives : List Directive) : Filter :=
  ⟨sort (directives.filter Directive.isForEvents), sort (directives.filter Directive.isForSpans)⟩

/-- The texts of directives with commas between. -/
def pieces (text : String) : List String :=
  (Text.split ',' text).filter (fun piece => !piece.isEmpty)

/-- Reads directives with commas between. Without any, nothing passes. -/
def parse (text : String) : Except Directive.Fault Filter :=
  return ofDirectives (← (pieces text).mapM Directive.parse)

/-- Reads directives with commas between and leaves out those that are at fault. Without any, errors
pass. -/
def lenient (text : String) : Filter :=
  match (pieces text).filterMap (fun piece => (Directive.parse piece).toOption) with
  | [] => ofDirectives [.everywhere (.upTo .error)]
  | directives => ofDirectives directives

/-- The language of filters by directives. A part that would begin or end inside a character breaks the
program off. -/
def language : FilterLanguage Filter where
  lenient := lenient
  parse text := (parse text).mapError fun
    | .brokenCharacter fault => .brokenOff fault.message
    | fault => .returned fault.message

/-- The filter as text. -/
def text (filter : Filter) : String :=
  Text.joined "," ((filter.forEvents ++ filter.forSpans).map Directive.text)

/-- Whether an event passes. -/
def allows (filter : Filter) (signature : Signature) : Bool :=
  match filter.forEvents.find? (fun directive => directive.covers signature) with
  | some directive => directive.threshold.allows signature.level
  | none => false

end Filter

end PackedAttributes.Logging
