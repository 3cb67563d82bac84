import TapeMachine.Log.Pattern.Atom

/-! # Classes in a pattern

A class stands between brackets. It holds characters, ranges of them, named classes and other
classes, and doubled signs between its members are operators on classes.
-/

namespace TapeMachine.Log.Pattern

/-- Reads an atom within a class. -/
def memberAtom? (mode : Mode) : List Char → Option (Atom × List Char)
  | [] => none
  | '\\' :: rest => escape? mode rest
  | char :: rest => some (.literal char false, rest)

/-- Reads a member of a class, an atom or a range, and gives what follows it. -/
def member? (mode : Mode) (text : List Char) : Option (List Char) := do
  let (first, rest) ← memberAtom? mode text
  let single := if mode.allowsMember first then some rest else none
  match mode.skip rest with
  | '-' :: rest =>
    match mode.upcoming? rest with
    | some ']' | some '-' => single
    | _ =>
      let (last, rest) ← memberAtom? mode (mode.skip rest)
      match first, last with
      | .literal firstChar _, .literal lastChar _ =>
        if firstChar ≤ lastChar && mode.allowsMember first && mode.allowsMember last then some rest
        else none
      | _, _ => none
  | _ => single

/-- The names of the named classes. -/
def kindNames : List String :=
  ["alnum", "alpha", "ascii", "blank", "cntrl", "digit", "graph", "lower", "print", "punct",
    "space", "upper", "word", "xdigit"]

/-- Reads a named class, its opening bracket left out. -/
def namedKind? : List Char → Option (Atom × List Char)
  | ':' :: rest =>
    let (isNegated, rest) := match rest with
      | '^' :: rest => (true, rest)
      | rest => (false, rest)
    let name := rest.takeWhile (· != ':')
    match rest.drop name.length with
    | ':' :: ']' :: rest =>
      if kindNames.contains (String.ofList name) then some (.namedKind isNegated, rest) else none
    | _ => none
  | _ => none

/-- How deep something nests whose parts nest that deep. A single part needs no level for itself. -/
def depth : List Nat → Nat
  | [] => 0
  | [part] => part
  | parts => parts.foldl max 0 + 1

/-- How deep a class nests: the operands of its operators pair off from the left. -/
def classDepth (left : Option Nat) (members : List Nat) : Nat :=
  match left with
  | some left => max left (depth members) + 1
  | none => depth members

/-- The text after a bracket that opens a class, without the sign that negates the class. Where only
ASCII is known no class can be negated, since it would match parts of characters. -/
def negation? (mode : Mode) (text : List Char) : Option (List Char) :=
  match mode.skip text with
  | '^' :: rest => if mode.wide then some rest else none
  | rest => some rest

/-- Reads a class and gives how deep it nests and what follows it. The text starts after the opening
bracket, or where `opened` is not set after the members whose depths are given; `left` is the depth
of the operands before them. Right after the opening, hyphens stand for themselves, and without any
so does a closing bracket. -/
def members? (mode : Mode) : Nat → (opened : Bool) → (left : Option Nat) →
    (members : List Nat) → List Char → Option (Nat × List Char)
  | 0, _, _, _, _ => none
  | fuel + 1, opened, left, members, text =>
    match mode.skip text with
    | [] => none
    | '[' :: rest =>
      match namedKind? rest with
      | some (atom, rest) =>
        if mode.allowsMember atom then members? mode fuel false left (0 :: members) rest else none
      | none => do
        let (inner, rest) ← members? mode fuel true none [] (← negation? mode rest)
        members? mode fuel false left ((inner + 1) :: members) rest
    | ']' :: rest =>
      if opened && members.isEmpty then
        if mode.allowsMember (.literal ']' false) then members? mode fuel false left [0] rest
        else none
      else some (classDepth left members, rest)
    | '-' :: rest =>
      if opened then
        if mode.allowsMember (.literal '-' false) then
          members? mode fuel true left (0 :: members) rest
        else none
      else if rest.head? = some '-' then
        members? mode fuel false (some (classDepth left members)) [] rest.tail
      else do members? mode fuel false left (0 :: members) (← member? mode ('-' :: rest))
    | char :: rest =>
      if (char = '&' ∨ char = '~') ∧ rest.head? = some char then
        members? mode fuel false (some (classDepth left members)) [] rest.tail
      else do members? mode fuel false left (0 :: members) (← member? mode (char :: rest))

/-- Reads a whole class, its opening bracket left out. -/
def class? (mode : Mode) (text : List Char) : Option (Nat × List Char) :=
  (negation? mode text).bind fun rest => members? mode (rest.length + 1) true none [] rest

end TapeMachine.Log.Pattern
