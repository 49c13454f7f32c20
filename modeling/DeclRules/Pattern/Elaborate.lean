import DeclRules.Pattern.Expr
import DeclRules.Pattern.Syntax
import DeclRules.Unicode.Age
import DeclRules.Unicode.Folding
import DeclRules.Unicode.Script
import DeclRules.Unicode.Segmentation

/-! From the syntax of a pattern to its expression: properties are looked up, classes evaluated
and flags applied. Flags set inside a group hold up to its end, also across its branches. -/

namespace DeclRules.Pattern

open Unicode

/-- The flags in force at a place of a pattern. Where Unicode is off, classes know ASCII only and
may not stand for anything else. -/
structure Flags where
  caseInsensitive : Bool := false
  multiLine : Bool := false
  dotAll : Bool := false
  swapGreed : Bool := false
  unicode : Bool := true
  crlf : Bool := false

namespace Flags

def set (f : Flags) : Flag × Bool → Flags
  | (.caseInsensitive, b) => { f with caseInsensitive := b }
  | (.multiLine, b) => { f with multiLine := b }
  | (.dotAll, b) => { f with dotAll := b }
  | (.swapGreed, b) => { f with swapGreed := b }
  | (.unicode, b) => { f with unicode := b }
  | (.crlf, b) => { f with crlf := b }
  | (.verbose, _) => f

def apply (f : Flags) (settings : FlagSettings) : Flags := settings.foldl set f

/-- Adds the other cases of the members where case does not count. -/
def fold (f : Flags) (s : CharSet) : CharSet :=
  if !f.caseInsensitive then s
  else if f.unicode then s.foldCase
  else s.foldAsciiCase

/-- The complement of a set, which where Unicode is off always holds more than ASCII. -/
def negate (f : Flags) (negated : Bool) (s : CharSet) : Option CharSet :=
  if !negated then some s
  else if f.unicode then some s.compl
  else none

end Flags

/-- The normal spelling of a property's name: without blanks, hyphens and underscores, in small
letters, and without `is` in front. -/
def normalizeName (name : String) : String :=
  let keep (cs : List Char) : List Char :=
    (cs.filter fun c => c.toNat < 0x80 && c ≠ ' ' && c ≠ '_' && c ≠ '-').map Char.toLower
  match name.toList with
  | i :: s :: cs =>
    if (i = 'i' ∨ i = 'I') ∧ (s = 's' ∨ s = 'S') then
      let rest := keep cs
      if rest = ['c'] then "isc" else String.ofList rest
    else String.ofList (keep (i :: s :: cs))
  | cs => String.ofList (keep cs)

/-- The set of a query. A single name is a property, a category or a script, in this order. -/
def PropertyQuery.set? : PropertyQuery → Option CharSet
  | name n =>
    let n := normalizeName n
    property? n <|> generalCategory? n <|> (script? n).map (·.set)
  | value p v =>
    let v := normalizeName v
    let listed (l : List (List String × CharSet)) := (l.find? (·.1.contains v)).map (·.2)
    match normalizeName p with
    | "gc" | "generalcategory" => generalCategory? v
    | "sc" | "script" => (script? v).map (·.set)
    | "scx" | "scriptextensions" => (script? v).map (·.extensions)
    | "age" => age? v
    | "gcb" | "graphemeclusterbreak" => listed Segmentation.grapheme
    | "wb" | "wordbreak" => listed Segmentation.wordBreak
    | "sb" | "sentencebreak" => listed Segmentation.sentence
    | _ => none

def Shorthand.set (unicode : Bool) : Shorthand → CharSet
  | digit => if unicode then Category.decimalNumber else .range 0x30 0x39
  | space => if unicode then Property.whiteSpace else .ofHex "9-d 20"
  | word => if unicode then Property.word else .ofHex "30-39 41-5a 5f 61-7a"

def AsciiClass.set : AsciiClass → CharSet
  | alnum => .ofHex "30-39 41-5a 61-7a"
  | alpha => .ofHex "41-5a 61-7a"
  | ascii => .range 0 0x7F
  | blank => .ofHex "9 20"
  | cntrl => .ofHex "0-1f 7f"
  | digit => .range 0x30 0x39
  | graph => .range 0x21 0x7E
  | lower => .range 0x61 0x7A
  | print => .range 0x20 0x7E
  | punct => .ofHex "21-2f 3a-40 5b-60 7b-7e"
  | space => .ofHex "9-d 20"
  | upper => .range 0x41 0x5A
  | word => .ofHex "30-39 41-5a 5f 61-7a"
  | xdigit => .ofHex "30-39 41-46 61-66"

/-- The set of a single character or class; without Unicode there are no properties. -/
def Atom.set? (f : Flags) : Atom → Option CharSet
  | literal c byte => if !f.unicode && byte && 0x7F < c.toNat then none else some (.singleton c)
  | shorthand negated s => f.negate negated (s.set f.unicode)
  | property negated q => do
    if !f.unicode then none
    f.negate negated (f.fold (← q.set?))

def SetOperator.apply : SetOperator → CharSet → CharSet → CharSet
  | intersection => .inter
  | difference => .diff
  | symmetricDifference => .symmDiff

namespace ClassSet

/-- The set of what stands between brackets, as far as single items go: the other cases of
literal characters come in where a bracket or an operation is complete. -/
def inBracket (f : Flags) (s : CharSet) : Option CharSet :=
  if !f.unicode && !s.isAscii then none else some s

mutual

def set? (f : Flags) : ClassSet → Option CharSet
  | atom a => do inBracket f (← a.set? f)
  | range c d => inBracket f (.range c.toNat d.toNat)
  | ascii negated c => f.negate negated (f.fold c.set)
  | bracket negated c => do f.negate negated (f.fold (← c.set? f))
  | union items => unions? f items
  | operation op l r => do
    let l ← l.set? f
    let r ← r.set? f
    return op.apply (f.fold l) (f.fold r)

def unions? (f : Flags) : List ClassSet → Option CharSet
  | [] => some .empty
  | c :: l => do return (← c.set? f).union (← unions? f l)

end

end ClassSet

def Assertion.look (f : Flags) : Assertion → Look
  | lineStart => if f.multiLine then .lineStart f.crlf else .textStart
  | lineEnd => if f.multiLine then .lineEnd f.crlf else .textEnd
  | textStart => .textStart
  | textEnd => .textEnd
  | wordBoundary => .word f.unicode .boundary
  | notWordBoundary => .word f.unicode .inside
  | wordStart => .word f.unicode .start
  | wordEnd => .word f.unicode .finish
  | wordStartHalf => .word f.unicode .startHalf
  | wordEndHalf => .word f.unicode .finishHalf

/-- A dot is any character, line ends excepted unless the flags include them. -/
def dotSet (f : Flags) : Option CharSet :=
  if !f.unicode then none
  else if f.dotAll then some .all
  else if f.crlf then some (CharSet.ofList ['\n', '\r']).compl
  else some (CharSet.singleton '\n').compl

namespace Ast

mutual

/-- The expression of a syntax tree under given flags, and the flags behind it. -/
def elaborate (f : Flags) : Ast → Option (Expr × Flags)
  | empty => some (.empty, f)
  | atom (.literal c byte) => do
    return (.chars (f.fold (← (Atom.literal c byte).set? f)), f)
  | atom a => do return (.chars (← a.set? f), f)
  | dot => do return (.chars (← dotSet f), f)
  | assertion a => some (.look (a.look f), f)
  | bracket negated c => do return (.chars (← f.negate negated (f.fold (← c.set? f))), f)
  | flags settings => some (.empty, f.apply settings)
  | .repeat min max greedy body => do
    let (e, f) ← body.elaborate f
    return (.repetition min max (greedy != f.swapGreed) e, f)
  | group (.capture i n) body => do
    let (e, _) ← body.elaborate f
    return (.group i n e, f)
  | group (.plain settings) body => do
    let (e, _) ← body.elaborate (f.apply settings)
    return (e, f)
  | concat items => do
    let (es, f) ← elaborateAll f items
    return (.concat es, f)
  | alternation branches => do
    let (es, f) ← elaborateAll f branches
    return (.alternation es, f)

def elaborateAll (f : Flags) : List Ast → Option (List Expr × Flags)
  | [] => some ([], f)
  | a :: l => do
    let (e, f) ← a.elaborate f
    let (es, f) ← elaborateAll f l
    return (e :: es, f)

end

end Ast

end DeclRules.Pattern
