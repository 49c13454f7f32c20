import DeclRules.Json.Numeral

/-! Documents: JSON text as it reads up to its first fault. Reading never fails; where the text
breaks the grammar the document has a broken leaf or an open end, so that whoever goes through
a document meets its first fault, of grammar or of meaning, in the order of the text. -/

namespace DeclRules.Json

/-- An array or object is closed if its bracket is. A member's key stands as it was written,
since only the reader knows what to say about a key that is no string. -/
inductive Document where
  | null
  | bool (b : Bool)
  /-- Without a value if it is too large for a float. -/
  | number (n : Option Number)
  /-- Without a value if an escape stands for half a surrogate pair. -/
  | string (s : Option String)
  | array (items : List Document) (closed : Bool)
  | object (members : List (Document × Document)) (closed : Bool)
  | broken

instance : Inhabited Document := ⟨.broken⟩

def isSpace (c : Char) : Bool := c == ' ' || c == '\n' || c == '\t' || c == '\r'

def skipSpace (s : List Char) : List Char := s.dropWhile isSpace

namespace Document

/-- The code unit of four hexadecimal digits. -/
def unit? (a b c d : Char) : Option Nat := do
  let a ← Unicode.hexDigit? a
  let b ← Unicode.hexDigit? b
  let c ← Unicode.hexDigit? c
  let d ← Unicode.hexDigit? d
  return ((a * 16 + b) * 16 + c) * 16 + d

def simpleEscape? : Char → Option Char
  | '"' => some '"'
  | '\\' => some '\\'
  | '/' => some '/'
  | 'b' => some '\x08'
  | 'f' => some '\x0c'
  | 'n' => some '\n'
  | 'r' => some '\r'
  | 't' => some '\t'
  | _ => none

/-- What a string literal is made of: characters as they stand or escaped by name, and UTF-16
code units. -/
inductive Piece where
  | char (c : Char)
  | unit (u : Nat)

/-- What follows the opening quotation mark: the pieces, and the rest after the closing mark. -/
def readPieces : List Char → Option (List Piece × List Char)
  | [] => none
  | '"' :: r => some ([], r)
  | '\\' :: 'u' :: a :: b :: c :: d :: r => do
    let u ← unit? a b c d
    let (l, r) ← readPieces r
    return (.unit u :: l, r)
  | '\\' :: c :: r => do
    let c ← simpleEscape? c
    let (l, r) ← readPieces r
    return (.char c :: l, r)
  | c :: r => do
    guard (0x20 ≤ c.toNat)
    let (l, r) ← readPieces r
    return (.char c :: l, r)

/-- The characters of the pieces, `high` being the first half of a surrogate pair that waits for
its other half. -/
def joinPieces (high : Option Nat) : List Piece → Option (List Char)
  | [] => if high.isNone then some [] else none
  | .char c :: l => if high.isNone then (joinPieces none l).map (c :: ·) else none
  | .unit u :: l =>
    match high with
    | some h =>
      if 0xDC00 ≤ u ∧ u ≤ 0xDFFF then
        (joinPieces none l).map (Char.ofNat (0x10000 + (h - 0xD800) * 0x400 + (u - 0xDC00)) :: ·)
      else none
    | none =>
      if 0xD800 ≤ u ∧ u ≤ 0xDBFF then joinPieces (some u) l
      else if 0xDC00 ≤ u ∧ u ≤ 0xDFFF then none
      else (joinPieces none l).map (Char.ofNat u :: ·)

mutual

/-- The value at the start of a text and the rest, which is missing after a fault. Every step
takes a unit of fuel; twice the length of the text and two more are enough. -/
def readValue (fuel : Nat) (s : List Char) : Document × Option (List Char) :=
  match fuel with
  | 0 => (broken, none)
  | fuel + 1 =>
    match skipSpace s with
    | '"' :: r =>
      match readPieces r with
      | some (l, r) => (string ((joinPieces none l).map String.ofList), some r)
      | none => (broken, none)
    | '[' :: r =>
      match skipSpace r with
      | ']' :: r => (array [] true, some r)
      | r =>
        let (items, rest) := readItems fuel r
        (array items rest.isSome, rest)
    | '{' :: r =>
      match skipSpace r with
      | '}' :: r => (object [] true, some r)
      | r =>
        let (members, rest) := readMembers fuel r
        (object members rest.isSome, rest)
    | 't' :: 'r' :: 'u' :: 'e' :: r => (bool true, some r)
    | 'f' :: 'a' :: 'l' :: 's' :: 'e' :: r => (bool false, some r)
    | 'n' :: 'u' :: 'l' :: 'l' :: r => (null, some r)
    | s =>
      match Numeral.scan s with
      | some (l, r) => (number l.value, some r)
      | none => (broken, none)

/-- One item or more, up to the closing bracket. -/
def readItems (fuel : Nat) (s : List Char) : List Document × Option (List Char) :=
  match fuel with
  | 0 => ([], none)
  | fuel + 1 =>
    match readValue fuel s with
    | (d, none) => ([d], none)
    | (d, some r) =>
      match skipSpace r with
      | ']' :: r => ([d], some r)
      | ',' :: r =>
        let (ds, rest) := readItems fuel r
        (d :: ds, rest)
      | _ => ([d], none)

/-- One member or more, up to the closing brace. -/
def readMembers (fuel : Nat) (s : List Char) : List (Document × Document) × Option (List Char) :=
  match fuel with
  | 0 => ([], none)
  | fuel + 1 =>
    match readValue fuel s with
    | (string k, some r) =>
      match skipSpace r with
      | ':' :: r =>
        match readValue fuel r with
        | (d, none) => ([(string k, d)], none)
        | (d, some r) =>
          match skipSpace r with
          | '}' :: r => ([(string k, d)], some r)
          | ',' :: r =>
            let (ms, rest) := readMembers fuel r
            ((string k, d) :: ms, rest)
          | _ => ([(string k, d)], none)
      | _ => ([(string k, broken)], none)
    | (k, _) => ([(k, broken)], none)

end

/-- The document of a text, and whether nothing but blanks follows it. -/
def read (s : List Char) : Document × Bool :=
  match readValue (2 * s.length + 2) s with
  | (d, some r) => (d, (skipSpace r).isEmpty)
  | (d, none) => (d, false)

mutual

/-- A value as a document without faults. -/
def ofValue : Value → Document
  | .null => null
  | .bool b => bool b
  | .number n => number (some n)
  | .string s => string (some s)
  | .array items => array (ofValues items) true
  | .object members => object (ofMembers members) true

def ofValues : List Value → List Document
  | [] => []
  | v :: l => ofValue v :: ofValues l

def ofMembers : List (String × Value) → List (Document × Document)
  | [] => []
  | (k, v) :: l => (string (some k), ofValue v) :: ofMembers l

end

end Document

end DeclRules.Json
