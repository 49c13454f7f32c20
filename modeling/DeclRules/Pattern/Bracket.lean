import DeclRules.Pattern.Scan

/-! Classes in brackets. The reader keeps the brackets that are open as a stack of levels, each
with the items it has so far and the operation that waits for its right operand. -/

namespace DeclRules.Pattern

def AsciiClass.ofName? : String → Option AsciiClass
  | "alnum" => some .alnum
  | "alpha" => some .alpha
  | "ascii" => some .ascii
  | "blank" => some .blank
  | "cntrl" => some .cntrl
  | "digit" => some .digit
  | "graph" => some .graph
  | "lower" => some .lower
  | "print" => some .print
  | "punct" => some .punct
  | "space" => some .space
  | "upper" => some .upper
  | "word" => some .word
  | "xdigit" => some .xdigit
  | _ => none

/-- A class such as `:alpha:]` or `:^alpha:]`, the bracket before it already taken. -/
def readAsciiClass : Reader ClassSet
  | ':' :: r =>
    let (negated, r) := match r with
      | '^' :: r => (true, r)
      | r => (false, r)
    match r.span (· ≠ ':') with
    | (name, ':' :: ']' :: r) =>
      (AsciiClass.ofName? (String.ofList name)).map fun c => (.ascii negated c, r)
    | _ => none
  | _ => none

namespace Bracket

/-- One level of brackets, its items in reverse. -/
structure Level where
  items : List ClassSet := []
  pending : Option (SetOperator × ClassSet) := none

namespace Level

def push (l : Level) (c : ClassSet) : Level := { l with items := c :: l.items }

/-- What the level holds so far. -/
def content (l : Level) : ClassSet :=
  let right := ClassSet.ofItems l.items.reverse
  match l.pending with
  | some (op, left) => .operation op left right
  | none => right

/-- The level after an operator: all so far is the left operand. -/
def operator (l : Level) (op : SetOperator) : Level := { pending := some (op, l.content) }

end Level

/-- Literal hyphens at the start of a class. -/
def leadingHyphens (verbose : Bool) (fuel : Nat) (items : List ClassSet) (s : List Char) :
    List ClassSet × List Char :=
  match fuel, s with
  | fuel + 1, '-' :: r =>
    leadingHyphens verbose fuel (.atom (.literal '-' false) :: items) (skip verbose r)
  | _, s => (items, s)

/-- What follows an opening bracket: whether the class is negated, and its first level with what
is literal only there, hyphens or a closing bracket. -/
def opening (verbose : Bool) (s : List Char) : (Bool × Level) × List Char :=
  let (negated, s) := match skip verbose s with
    | '^' :: r => (true, skip verbose r)
    | s => (false, s)
  let (items, s) := leadingHyphens verbose s.length [] s
  match items, s with
  | [], ']' :: r => ((negated, { items := [.atom (.literal ']' false)] }), skip verbose r)
  | items, s => ((negated, { items }), s)

/-- A single character or class. -/
def readAtom (verbose : Bool) : Reader Atom
  | [] => none
  | '\\' :: r =>
    match readEscape verbose r with
    | some (.atom a, r) => some (a, r)
    | _ => none
  | c :: r => some (.literal c false, r)

/-- The first character behind a hyphen that verbose mode does not ignore. -/
def peek (verbose comment : Bool) : List Char → Option Char
  | [] => none
  | c :: r =>
    if !verbose then some c
    else if Text.isBlank c then peek verbose comment r
    else if !comment && c = '#' then peek verbose true r
    else some c

/-- A character, a class, or a range of characters. A hyphen before a closing bracket or before
another hyphen makes no range. -/
def readRange (verbose : Bool) : Reader ClassSet := fun s => do
  let (a, r) ← readAtom verbose s
  match skip verbose r with
  | [] => none
  | '-' :: r' =>
    let next := peek verbose false r'
    if next = some ']' ∨ next = some '-' then return (.atom a, '-' :: r')
    else
      let (b, r) ← readAtom verbose (skip verbose r')
      match a, b with
      | .literal c _, .literal d _ => if c ≤ d then some (.range c d, r) else none
      | _, _ => none
  | r => return (.atom a, r)

/-- Reads on at a level, with the levels around it and whether the class of each is negated. -/
def readLevels (verbose : Bool) (fuel : Nat) (negated : Bool) (level : Level)
    (outer : List (Bool × Level)) : Reader (Bool × ClassSet) := fun s =>
  match fuel with
  | 0 => none
  | fuel + 1 =>
    match skip verbose s with
    | [] => none
    | '[' :: r =>
      match readAsciiClass r with
      | some (c, r) => readLevels verbose fuel negated (level.push c) outer r
      | none =>
        let ((negated', level'), r) := opening verbose r
        readLevels verbose fuel negated' level' ((negated, level) :: outer) r
    | ']' :: r =>
      match outer with
      | [] => some ((negated, level.content), r)
      | (negated', level') :: outer =>
        readLevels verbose fuel negated' (level'.push (.bracket negated level.content)) outer r
    | '&' :: '&' :: r => readLevels verbose fuel negated (level.operator .intersection) outer r
    | '-' :: '-' :: r => readLevels verbose fuel negated (level.operator .difference) outer r
    | '~' :: '~' :: r =>
      readLevels verbose fuel negated (level.operator .symmetricDifference) outer r
    | s =>
      match readRange verbose s with
      | some (c, r) => readLevels verbose fuel negated (level.push c) outer r
      | none => none

end Bracket

/-- A class in brackets, the first of which is already taken. -/
def readBracket (verbose : Bool) : Reader (Bool × ClassSet) := fun s =>
  let ((negated, level), r) := Bracket.opening verbose s
  Bracket.readLevels verbose (s.length + 1) negated level [] r

end DeclRules.Pattern
