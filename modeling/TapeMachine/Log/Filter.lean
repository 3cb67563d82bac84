import TapeMachine.Log.Event
import TapeMachine.Log.Pattern
import TapeMachine.Text.Alphanumeric
import TapeMachine.Text.Blank
import TapeMachine.Text.Decimal
import TapeMachine.Text.Encoding

/-! # Log filters

A filter is a list of directives between commas, such as `target=level`. A directive speaks of the
events whose target begins with its own, or of all events if it names none; of several that speak of
an event the most specific decides: the one with the longest target, then the one that asks for the
most fields, then the one whose fields come last in order. What no directive speaks of is not shown.
A text with one wrong directive is no filter at all.

A directive may ask for a span and for a field, as in `target[span{field}]=level`, and that the
field has a value, which is a truth value, a number or a pattern. The program opens no spans, so what
asks for a span, or for the value of a field, never speaks of anything.
-/

namespace TapeMachine.Log

/-- How verbose the log is for some events; zero shows none of them. -/
structure Directive where
  target : Option String
  fields : List String
  verbosity : Nat
  deriving DecidableEq

/-- The directives of a filter in the order in which they were given. -/
structure Filter where
  directives : List Directive
  deriving DecidableEq

namespace Directive

/-- The verbosity that a name or a number stands for. -/
def verbosity? (text : List Char) : Option Nat :=
  let digits := match text with
    | '+' :: digits => digits
    | digits => digits
  if Text.isDigits digits then
    let number := digits.foldl (fun number digit => number * 10 + (digit.toNat - '0'.toNat)) 0
    if number ≤ Level.trace.verbosity then some number else none
  else
    match String.ofList (text.map Char.toLower) with
    | "off" => some 0
    | "error" => some Level.error.verbosity
    | "warn" => some Level.warn.verbosity
    | "info" => some Level.info.verbosity
    | "debug" => some Level.debug.verbosity
    | "trace" => some Level.trace.verbosity
    | _ => none

/-- What a directive shows that names no level: everything. -/
def defaultVerbosity : Nat := Level.trace.verbosity

/-- Whether a text may stand for the value of a field: a truth value, a number or a pattern. -/
def isValue (text : List Char) : Bool :=
  ["true", "false"].contains (String.ofList text) || Text.isNumber text || isPattern text

/-- What a directive asks of a field: to be there, and perhaps to have a certain value. -/
structure FieldTest where
  name : List Char
  asksValue : Bool

/-- Reads what is asked of a field: its name, and after `=` a value. What follows a second `=` is
ignored. -/
def FieldTest.ofText? (text : List Char) : Option FieldTest :=
  match text.splitOn '=' with
  | [] => none
  | [name] => if name.isEmpty then none else some ⟨name, false⟩
  | name :: value :: _ => if isValue value then some ⟨name, true⟩ else none

/-- The bracketed part of a directive. -/
structure Scope where
  /-- Whether it names a span. -/
  hasSpan : Bool
  field : Option FieldTest

/-- Whether the scope can be met without any span or value. -/
def Scope.isOpen (scope : Scope) : Bool :=
  !scope.hasSpan && scope.field.all (!·.asksValue)

/-- The names of the fields that the scope asks for. -/
def Scope.fieldNames (scope : Scope) : List String :=
  scope.field.toList.map fun field => String.ofList field.name

/-- Reads a bracketed part that begins at `position` with `rest`, the opening bracket left out, and
gives the position of what follows it. Within braces there is one field, since directives end at
commas. -/
def scope? (text : List Char) (position : Nat) (rest : List Char) :
    Option (Scope × Nat × List Char) := do
  let span := rest.takeWhile fun char => char != ']' && char != '\x7b'
  let spanEnd := position + Text.size span
  let name ← Text.cut? text position spanEnd
  match rest.drop span.length with
  | ']' :: rest => some (⟨true, none⟩, spanEnd + 1, rest)
  | '\x7b' :: rest =>
    let field := rest.takeWhile (· != '\x7d')
    let fieldEnd := spanEnd + 1 + Text.size field
    match rest.drop field.length with
    | _ :: ']' :: rest =>
      let field ← FieldTest.ofText? (← Text.cut? text (spanEnd + 1) fieldEnd)
      some (⟨!name.isEmpty, some field⟩, fieldEnd + 2, rest)
    | _ => none
  | _ => none

/-- Reads what may follow a target or a bracketed part, at `position`: nothing, or `=` and a level,
which may be left out. -/
def levelPart? (text : List Char) (position : Nat) (rest : List Char) : Option Nat :=
  match rest with
  | [] => some defaultVerbosity
  | '=' :: _ => do
    let level ← Text.dropBytes? (position + 1) text
    if level.isEmpty then some defaultVerbosity else verbosity? level
  | _ => none

/-- Characters that a directive may begin with, an opening bracket apart. -/
def isInitial (char : Char) : Bool :=
  Text.isAlphanumeric char || char == '-' || char == ':' || char == '_'

/-- Reads a directive. The inner option is empty for one that never speaks of anything.

The form of a directive is that of the text without the white space around it, but the parts are cut
from the text with that white space, at the same positions. So white space in front shifts every
part, and white space behind belongs to the last one. -/
def ofText? (text : List Char) : Option (Option Directive) :=
  let withScope (target : Option String) (position : Nat) (rest : List Char) :
      Option (Option Directive) := do
    let (scope, position, rest) ← scope? text position rest
    let verbosity ← levelPart? text position rest
    if scope.isOpen then some (some ⟨target, scope.fieldNames, verbosity⟩) else some none
  match Text.trim text with
  | [] => none
  | '[' :: rest => withScope none 1 rest
  | initial :: rest =>
    if isInitial initial then
      let name := (initial :: rest).takeWhile fun char => char != '=' && char != '['
      let position := Text.size name
      match (initial :: rest).drop name.length with
      | [] =>
        match verbosity? text with
        | some verbosity => some (some ⟨none, [], verbosity⟩)
        | none => some (some ⟨some (String.ofList text), [], defaultVerbosity⟩)
      | '[' :: rest => do
        let target ← Text.cut? text 0 position
        withScope (some (String.ofList target)) (position + 1) rest
      | rest => do
        let target ← Text.cut? text 0 position
        let verbosity ← levelPart? text position rest
        some (some ⟨some (String.ofList target), [], verbosity⟩)
    else none

/-- Whether the directive speaks of an event. Each event carries its text as a field too. -/
def speaksOf (directive : Directive) (event : Event) : Bool :=
  (match directive.target with
    | some target => target.toList.isPrefixOf event.target.toList
    | none => true) &&
  directive.fields.all fun field => field == "message" || event.fields.any (·.1 == field)

/-- How specific a directive is: the length of its target, counted from one and zero without a
target, and the number of fields it asks for. -/
def specificity (directive : Directive) : Nat × Nat :=
  ((directive.target.map (·.utf8ByteSize + 1)).getD 0, directive.fields.length)

/-- Whether `second`, given later, is to decide rather than `first`. -/
def yields (first second : Directive) : Bool :=
  let (firstTarget, firstFields) := first.specificity
  let (secondTarget, secondFields) := second.specificity
  firstTarget < secondTarget ||
    (firstTarget == secondTarget &&
      (firstFields < secondFields ||
        (firstFields == secondFields &&
          !second.fields.lex first.fields fun one other => one < other)))

end Directive

namespace Filter

/-- The filter that shows warnings and errors. -/
def warnings : Filter := ⟨[⟨none, [], Level.warn.verbosity⟩]⟩

/-- The directives of a text, unless one is wrong. Nothing between two commas is no directive. -/
def ofText? (text : String) : Option Filter :=
  let pieces := (text.toList.splitOn ',').filter (!·.isEmpty)
  (pieces.mapM Directive.ofText?).map fun found => ⟨found.filterMap id⟩

/-- The filter that the environment asks for; warnings are shown where it asks for none or for a
wrong one. -/
def ofSetting (setting : Option String) : Filter :=
  (setting.bind ofText?).getD warnings

/-- The directive that decides on an event. -/
def deciding? (filter : Filter) (event : Event) : Option Directive :=
  (filter.directives.filter (·.speaksOf event)).foldl (fun best directive =>
    match best with
    | some first => if first.yields directive then some directive else some first
    | none => some directive) none

/-- Whether an event is shown. -/
def shows (filter : Filter) (event : Event) : Bool :=
  match filter.deciding? event with
  | some directive => event.level.verbosity ≤ directive.verbosity
  | none => false

end Filter

end TapeMachine.Log
