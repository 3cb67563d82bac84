import TapeMachine.Log.Pattern.Class
import TapeMachine.Text.Alphanumeric

/-! # Patterns

A filter may ask that the value of a field matches a pattern. This module says which texts are
patterns; what they match never matters, since no event carries a value in that sense.

A pattern is a regular expression with bars, groups, repetitions and classes, without references
back to a group and without looking around. Switches such as `(?i)` act up to the end of the group
they stand in. Counts in braces are not read, because a brace ends the field. A pattern may nest
only so deep.
-/

namespace TapeMachine.Log

namespace Pattern

/-- What an opening parenthesis begins. -/
inductive Opening where
  /-- Switches for the rest of the group around it. -/
  | switches (mode : Mode)
  /-- A group, which may have a name. -/
  | group (mode : Mode) (name : Option (List Char))
  deriving DecidableEq

/-- Whether a group can have that name. -/
def isGroupName : List Char → Bool
  | [] => false
  | initial :: rest =>
    (initial == '_' || Text.isAlphabetic initial) &&
      rest.all fun char => ['_', '.', '[', ']'].contains char || Text.isAlphanumeric char

/-- Reads switches up to the parenthesis or colon that ends them. Each may be turned once, and one
hyphen makes those after it turn off. The `turned` ones come latest first. -/
def switches? (mode : Mode) (turned : List Char) : List Char → Option (Opening × List Char)
  | [] => none
  | char :: rest =>
    if char = ')' then
      if turned.isEmpty ∨ turned.head? = some '-' then none else some (.switches mode, rest)
    else if char = ':' then
      if turned.head? = some '-' then none else some (.group mode none, rest)
    else if turned.contains char then none
    else if char = '-' then switches? mode ('-' :: turned) rest
    else do switches? (← mode.turn? (!turned.contains '-') char) (char :: turned) rest

/-- Reads the name of a group up to the bracket that ends it. -/
def groupName? (mode : Mode) (text : List Char) : Option (Opening × List Char) :=
  let name := text.takeWhile (· != '>')
  match text.drop name.length with
  | _ :: rest => if isGroupName name then some (.group mode (some name), rest) else none
  | [] => none

/-- Reads what follows an opening parenthesis. -/
def opening? (mode : Mode) (text : List Char) : Option (Opening × List Char) :=
  match mode.skip text with
  | '?' :: 'P' :: '<' :: rest => groupName? mode rest
  | '?' :: '<' :: rest => groupName? mode rest
  | '?' :: rest => switches? mode [] rest
  | rest => some (.group mode none, rest)

/-- What has been read of a group, or of the whole pattern. -/
structure Progress where
  mode : Mode
  /-- The names of all groups so far. -/
  names : List (List Char)
  /-- How deep the branches nest that have ended. -/
  branches : List Nat
  /-- How deep the pieces of the current branch nest, the latest first; switches are pieces without
  a depth, and cannot be repeated. -/
  pieces : List (Option Nat)

namespace Progress

/-- How deep the current branch nests. -/
def branchDepth (progress : Progress) : Nat :=
  Pattern.depth (progress.pieces.map (·.getD 0))

/-- How deep it all nests. -/
def depth (progress : Progress) : Nat :=
  Pattern.depth (progress.branchDepth :: progress.branches)

/-- Begins another branch. -/
def endBranch (progress : Progress) : Progress :=
  { progress with branches := progress.branchDepth :: progress.branches, pieces := [] }

/-- Adds a piece that nests that deep. -/
def add (progress : Progress) (depth : Nat) : Progress :=
  { progress with pieces := some depth :: progress.pieces }

/-- Turns switches. -/
def turn (progress : Progress) (mode : Mode) : Progress :=
  { progress with mode := mode, pieces := none :: progress.pieces }

/-- Repeats the latest piece. -/
def repeat? (progress : Progress) : Option Progress :=
  match progress.pieces with
  | some depth :: pieces => some { progress with pieces := some (depth + 1) :: pieces }
  | _ => none

/-- The names of all groups after one with that name, which no other may have. -/
def names? (progress : Progress) (name : Option (List Char)) : Option (List (List Char)) :=
  match name with
  | none => some progress.names
  | some name => if progress.names.contains name then none else some (name :: progress.names)

end Progress

/-- Reads the rest of a group up to its closing parenthesis, which is left, or of the pattern. -/
def scan? : Nat → Progress → List Char → Option (Progress × List Char)
  | 0, _, _ => none
  | fuel + 1, progress, text =>
    match progress.mode.skip text with
    | [] => some (progress, [])
    | ')' :: rest => some (progress, ')' :: rest)
    | '|' :: rest => scan? fuel progress.endBranch rest
    | '(' :: rest => do
      match ← opening? progress.mode rest with
      | (.switches mode, rest) => scan? fuel (progress.turn mode) rest
      | (.group mode name, rest) =>
        let (inner, rest) ← scan? fuel ⟨mode, ← progress.names? name, [], []⟩ rest
        match rest with
        | ')' :: rest =>
          scan? fuel { progress.add (inner.depth + 1) with names := inner.names } rest
        | _ => none
    | '[' :: rest => do
      let (depth, rest) ← class? progress.mode rest
      scan? fuel (progress.add (depth + 1)) rest
    | '\x7b' :: _ => none
    | char :: rest => do
      if char = '*' ∨ char = '+' ∨ char = '?' then
        scan? fuel (← progress.repeat?) (if rest.head? = some '?' then rest.tail else rest)
      else
        let (atom, rest) ← atom? progress.mode (char :: rest)
        if progress.mode.allows atom then scan? fuel (progress.add 0) rest else none

/-- How deep a pattern may nest. -/
def depthLimit : Nat := 250

end Pattern

/-- Whether a text is a pattern. -/
def isPattern (text : List Char) : Bool :=
  match Pattern.scan? (text.length + 1) ⟨.initial, [], [], []⟩ text with
  | some (progress, []) => progress.depth ≤ Pattern.depthLimit
  | _ => false

end TapeMachine.Log
