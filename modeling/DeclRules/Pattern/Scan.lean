import DeclRules.Pattern.Syntax
import DeclRules.Text.Blank
import DeclRules.Unicode.Property

/-! The small tokens of patterns: blanks and comments of verbose mode, decimal numbers, escapes,
group names and flags. A reader takes the characters from where it starts and gives back those it
left, or nothing if no token of its kind stands there. -/

namespace DeclRules.Pattern

abbrev Reader (α : Type) := List Char → Option (α × List Char)

/-- The text after a comment, whose start is already taken. -/
def skipComment : List Char → List Char
  | [] => []
  | c :: r => if c = '\n' then r else skipComment r

/-- Skips blanks and comments; a unit of fuel for each run of blanks or comment. -/
def skipVerbose (fuel : Nat) (s : List Char) : List Char :=
  match fuel with
  | 0 => s
  | fuel + 1 =>
    match s with
    | [] => []
    | c :: r =>
      if Text.isBlank c then skipVerbose fuel r
      else if c = '#' then skipVerbose fuel (skipComment r)
      else s

/-- Skips what verbose mode ignores; in the other mode that is nothing. -/
def skip (verbose : Bool) (s : List Char) : List Char :=
  if verbose then skipVerbose s.length s else s

/-- Characters that have a meaning of their own and lose it behind a backslash. -/
def isMeta (c : Char) : Bool := "\\.+*?()|[]\x7b\x7d^$#&-~".toList.contains c

/-- Characters that stand for themselves behind a backslash. -/
def isEscapable (c : Char) : Bool :=
  isMeta c || (c.toNat < 0x80 && !c.isAlphanum && c ≠ '<' && c ≠ '>')

/-- Digits, with blanks before and after them; `verbose` also lets blanks stand between them. -/
def readDecimal (verbose : Bool) : Reader Nat := fun s =>
  let rec go (fuel : Nat) (ds : List Char) (s : List Char) : List Char × List Char :=
    match fuel, s with
    | fuel + 1, c :: r => if c.isDigit then go fuel (c :: ds) (skip verbose r) else (ds.reverse, s)
    | _, s => (ds.reverse, s)
  let (ds, r) := go s.length [] (s.dropWhile Text.isBlank)
  let n := ds.foldl (fun n c => 10 * n + (c.toNat - '0'.toNat)) 0
  if ds = [] ∨ 0x100000000 ≤ n then none
  else some (n, skip verbose (r.dropWhile Text.isBlank))

/-- The character of a code point that has one. -/
def charOf? (n : Nat) : Option Char :=
  if n < 0xD800 ∨ (0xDFFF < n ∧ n < 0x110000) then some (Char.ofNat n) else none

/-- A fixed number of hexadecimal digits, after `n`. -/
def readHexFixed (verbose : Bool) (n : Nat) : Nat → Reader Nat
  | 0, s => some (n, s)
  | count + 1, s =>
    match skip verbose s with
    | c :: r => do readHexFixed verbose (16 * n + (← Unicode.hexDigit? c)) count r
    | [] => none

/-- Hexadecimal digits up to a closing brace; `n` is the value so far, if there were any. -/
def readHexBraced (verbose : Bool) (fuel : Nat) (n : Option Nat) : Reader Nat := fun s =>
  match fuel, skip verbose s with
  | _, [] => none
  | 0, _ => none
  | fuel + 1, c :: r =>
    if c = '\x7d' then n.map fun n => (n, r)
    else do readHexBraced verbose fuel (some (16 * n.getD 0 + (← Unicode.hexDigit? c))) r

/-- A character by its code point; the letter says how many digits there are without braces. -/
def readHex (verbose : Bool) (letter : Char) : Reader Atom := fun s =>
  match skip verbose s with
  | '\x7b' :: r => do
    let (n, r) ← readHexBraced verbose (r.length + 1) none r
    return (.literal (← charOf? n) false, r)
  | s => do
    let count := if letter = 'x' then 2 else if letter = 'u' then 4 else 8
    let (n, r) ← readHexFixed verbose 0 count s
    return (.literal (← charOf? n) (letter = 'x'), r)

/-- The text up to a closing brace. -/
def readBraced (verbose : Bool) (fuel : Nat) (name : List Char) : Reader (List Char) := fun s =>
  match fuel, skip verbose s with
  | fuel + 1, c :: r =>
    if c = '\x7d' then some (name.reverse, r) else readBraced verbose fuel (c :: name) r
  | _, _ => none

/-- The parts of a text around the first place where `sep` stands. -/
def splitAt? (sep : List Char) : List Char → Option (List Char × List Char)
  | [] => none
  | c :: r =>
    if sep.isPrefixOf (c :: r) then some ([], (c :: r).drop sep.length)
    else (splitAt? sep r).map fun (a, b) => (c :: a, b)

/-- A property by name, or by name and value with `!=`, `:` or `=` between them. -/
def PropertyQuery.ofText (s : List Char) : PropertyQuery :=
  match ["!=", ":", "="].findSome? fun sep => splitAt? sep.toList s with
  | some (p, v) => .value (String.ofList p) (String.ofList v)
  | none => .name (String.ofList s)

def readProperty (verbose negated : Bool) : Reader Atom := fun s =>
  match skip verbose s with
  | [] => none
  | c :: r =>
    if c = '\x7b' then do
      let (name, r) ← readBraced verbose (r.length + 1) [] r
      return (.property negated (.ofText name), r)
    else if c = '\\' then none
    else some (.property negated (.name c.toString), r)

/-- A boundary of a word in braces, behind `b`. Where no letter follows the brace it opens a
repetition, and nothing is taken. -/
def readBoundary (verbose : Bool) : Reader Assertion := fun s =>
  let isName (c : Char) : Bool := c.isAlpha || c = '-'
  let rec name (fuel : Nat) (acc : List Char) (s : List Char) : List Char × List Char :=
    match fuel, s with
    | fuel + 1, c :: r => if isName c then name fuel (c :: acc) (skip verbose r) else (acc.reverse, s)
    | _, s => (acc.reverse, s)
  match s with
  | '\x7b' :: r =>
    match skip verbose r with
    | [] => none
    | c :: r =>
      if isName c then
        match name (r.length + 1) [] (c :: r) with
        | (n, '\x7d' :: r) =>
          match String.ofList n with
          | "start" => some (.wordStart, r)
          | "end" => some (.wordEnd, r)
          | "start-half" => some (.wordStartHalf, r)
          | "end-half" => some (.wordEndHalf, r)
          | _ => none
        | _ => none
      else some (.wordBoundary, s)
  | s => some (.wordBoundary, s)

/-- What can stand behind a backslash. -/
inductive Escaped where
  | atom (a : Atom)
  | assertion (a : Assertion)

def readEscape (verbose : Bool) : Reader Escaped
  | [] => none
  | c :: r =>
    match c with
    | 'x' | 'u' | 'U' => (readHex verbose c r).map fun (a, r) => (.atom a, r)
    | 'p' | 'P' => (readProperty verbose (c = 'P') r).map fun (a, r) => (.atom a, r)
    | 'd' | 'D' => some (.atom (.shorthand (c = 'D') .digit), r)
    | 's' | 'S' => some (.atom (.shorthand (c = 'S') .space), r)
    | 'w' | 'W' => some (.atom (.shorthand (c = 'W') .word), r)
    | 'a' => some (.atom (.literal '\x07' false), r)
    | 'f' => some (.atom (.literal '\x0c' false), r)
    | 't' => some (.atom (.literal '\t' false), r)
    | 'n' => some (.atom (.literal '\n' false), r)
    | 'r' => some (.atom (.literal '\r' false), r)
    | 'v' => some (.atom (.literal '\x0b' false), r)
    | 'A' => some (.assertion .textStart, r)
    | 'z' => some (.assertion .textEnd, r)
    | 'b' => (readBoundary verbose r).map fun (a, r) => (.assertion a, r)
    | 'B' => some (.assertion .notWordBoundary, r)
    | '<' => some (.assertion .wordStart, r)
    | '>' => some (.assertion .wordEnd, r)
    | c => if isEscapable c then some (.atom (.literal c false), r) else none

/-- Whether a character can stand in a group name, at its start or later. -/
def isGroupNameChar (first : Bool) (c : Char) : Bool :=
  c = '_' ||
    if first then Unicode.isAlphabetic c
    else c = '.' || c = '[' || c = ']' || Unicode.isAlphanumeric c

/-- A group name, which is not empty, and the angle bracket that ends it. -/
def readGroupName (name : List Char) : Reader String
  | [] => none
  | c :: r =>
    if c = '>' then if name = [] then none else some (String.ofList name.reverse, r)
    else if isGroupNameChar (name = []) c then readGroupName (c :: name) r
    else none

def Flag.ofChar? : Char → Option Flag
  | 'i' => some .caseInsensitive
  | 'm' => some .multiLine
  | 's' => some .dotAll
  | 'U' => some .swapGreed
  | 'u' => some .unicode
  | 'R' => some .crlf
  | 'x' => some .verbose
  | _ => none

/-- Flags up to the colon or parenthesis that ends them, which is given back too. No flag stands
twice, and a minus sign, of which there is one at most, has a flag behind it. -/
def readFlags (seen : FlagSettings) (off : Bool) (dangling : Bool) :
    Reader (FlagSettings × Bool)
  | [] => none
  | c :: r =>
    if c = ':' ∨ c = ')' then
      if dangling then none else some ((seen.reverse, c = ':'), r)
    else if c = '-' then
      if off then none else readFlags seen true true r
    else do
      let f ← Flag.ofChar? c
      if seen.any (·.1 = f) then none else readFlags ((f, !off) :: seen) off false r

end DeclRules.Pattern
