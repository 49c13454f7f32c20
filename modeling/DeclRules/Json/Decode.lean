import DeclRules.Complaint
import DeclRules.Json.Document
import DeclRules.Json.Printer

/-! Decoding of documents. A decoder goes through a document in the order of the text and stops
at the first complaint. Documents come from text or stand for a value at hand; the two differ in
how some misplaced things are described, which is why decoders know their `Source`. -/

namespace DeclRules.Json

abbrev Decoded (α : Type) := Except Complaint α

inductive Source where
  | text
  | value
deriving DecidableEq

/-- How many arrays and objects may stand inside each other. -/
def maxNesting : Nat := 127

namespace Document

/-- What a complaint calls the document; nothing if it is faulty itself. -/
def found? : Document → Option Found
  | null => some .null
  | bool b => some (.bool b)
  | number (some (.int n)) => some (.integer n)
  | number (some (.real x)) => some (.real (Number.real x).text)
  | string (some s) => some (.string s)
  | array _ _ => some .sequence
  | object _ _ => some .map
  | number none | string none | broken => none

/-- The complaint about a document where `expected` should stand. -/
def mismatch (d : Document) (expected : String) : Complaint :=
  match d.found? with
  | some f => .invalidType f expected
  | none => .malformed

def ensureClosed (closed : Bool) : Decoded Unit :=
  if closed then .ok () else .error .malformed

/-- A string where `expected` names what is wanted. -/
def toText (expected : String) : Document → Decoded String
  | string (some s) => .ok s
  | d => .error (d.mismatch expected)

def toUnit : Document → Decoded Unit
  | null => .ok ()
  | d => .error (d.mismatch "unit")

/-- A member's key. -/
def toKey : Document → Decoded String
  | string (some s) => .ok s
  | _ => .error .malformed

mutual

/-- A value with at most `room` arrays and objects inside each other. -/
def toValue (room : Nat) : Document → Decoded Value
  | null => .ok .null
  | bool b => .ok (.bool b)
  | number (some n) => .ok (.number n)
  | string (some s) => .ok (.string s)
  | array items closed =>
    match room with
    | 0 => .error .malformed
    | room + 1 => do
      let vs ← toValues room items
      ensureClosed closed
      return .array vs
  | object members closed =>
    match room with
    | 0 => .error .malformed
    | room + 1 => do
      let m ← toMembers room members .empty
      ensureClosed closed
      return .object m.entries
  | number none | string none | broken => .error .malformed

def toValues (room : Nat) : List Document → Decoded (List Value)
  | [] => .ok []
  | d :: l => do return (← toValue room d) :: (← toValues room l)

def toMembers (room : Nat) : List (Document × Document) → Keyed Value → Decoded (Keyed Value)
  | [], m => .ok m
  | (k, d) :: l, m => do toMembers room l (m.insert (← toKey k) (← toValue room d))

end

mutual

/-- Passes over a document that nobody asked for: it may nest as it likes and hold numbers and
escapes without a value. -/
def ignore : Document → Decoded Unit
  | array items closed => do ignoreItems items; ensureClosed closed
  | object members closed => do ignoreMembers members; ensureClosed closed
  | broken => .error .malformed
  | _ => .ok ()

def ignoreItems : List Document → Decoded Unit
  | [] => .ok ()
  | d :: l => do ignore d; ignoreItems l

def ignoreMembers : List (Document × Document) → Decoded Unit
  | [] => .ok ()
  | (string _, d) :: l => do ignore d; ignoreMembers l
  | _ :: _ => .error .malformed

end

/-- An object of any keys. -/
def toKeyed (room : Nat) : Document → Decoded (Keyed Value)
  | object members closed =>
    match room with
    | 0 => .error .malformed
    | room + 1 => do
      let m ← toMembers room members .empty
      ensureClosed closed
      return m
  | d => .error (d.mismatch "a map")

/-- Goes through the members of a record: `field` takes a known member, and passes by returning
nothing on an unknown one, which is then ignored. -/
def foldFields {σ : Type} (field : String → Document → σ → Decoded (Option σ)) :
    List (Document × Document) → σ → Decoded σ
  | [], st => .ok st
  | (k, d) :: l, st => do
    match ← field (← toKey k) d st with
    | some st => foldFields field l st
    | none => do ignore d; foldFields field l st

/-- The next item of a record written as an array, if there is one. -/
def nextItem (items : List Document) (closed : Bool) :
    Decoded (Option (Document × List Document)) :=
  match items with
  | d :: l => .ok (some (d, l))
  | [] => do ensureClosed closed; return none

/-- Nothing may follow the last field of a record of `count` items written as an array. -/
def noMoreItems (source : Source) (count : Nat) (items : List Document) (closed : Bool) :
    Decoded Unit :=
  match items, source with
  | [], _ => ensureClosed closed
  | _ :: _, .text => .error .malformed
  | _ :: _, .value => .error (.invalidLength count "fewer elements in array")

/-- One of several alternatives: its name alone, or an object whose only key is its name. The
alternative reads what stands under the name, or nothing. -/
def toChoice {α : Type} (source : Source) (choices : List (String × (Option Document → Decoded α))) :
    Document → Decoded α
  | string (some s) => do (← choice s) none
  | object ((k, d) :: others) closed => do
    if source = .value ∧ !others.isEmpty then throw .malformed
    let a ← (← choice (← toText "variant identifier" k)) (some d)
    if !others.isEmpty then throw .malformed
    ensureClosed closed
    return a
  | object [] _ => .error .malformed
  | d =>
    match source with
    | .text => .error .malformed
    | .value => .error (d.mismatch "string or map")
where
  choice (s : String) : Decoded (Option Document → Decoded α) :=
    match choices.lookup s with
    | some f => .ok f
    | none => .error (.unknownVariant s (choices.map (·.1)))

/-- An alternative without content. -/
def bare {α : Type} (a : α) : Option Document → Decoded α
  | none => .ok a
  | some d => do toUnit d; return a

end Document

/-- Decodes a whole text. -/
def decodeText {α : Type} (decoder : Source → Document → Decoded α) (s : String) : Decoded α :=
  let (d, whole) := Document.read s.toList
  match decoder .text d with
  | .error e => .error e
  | .ok a => if whole then .ok a else .error .malformed

/-- Decodes a value at hand. -/
def decodeValue {α : Type} (decoder : Source → Document → Decoded α) (v : Value) : Decoded α :=
  decoder .value (.ofValue v)

/-- The value of a text. -/
def parse (s : String) : Decoded Value :=
  decodeText (fun _ d => d.toValue maxNesting) s

end DeclRules.Json
