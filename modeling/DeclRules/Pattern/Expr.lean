import DeclRules.Unicode.Property

/-! Expressions: what patterns mean once flags, classes and abbreviations are resolved. The
constructors `concat`, `alternation`, `repetition` and `class` simplify as they build, and
`Matches` says which stretches of a text an expression covers. -/

namespace DeclRules.Pattern

open Unicode

/-- Where in a word a position has to be. -/
inductive WordEdge where
  | boundary
  | inside
  | start
  | finish
  | startHalf
  | finishHalf
deriving DecidableEq

/-- A test of a position by the characters on both sides of it. -/
inductive Look where
  | textStart
  | textEnd
  /-- A line starts behind a line feed, or with `crlf` behind either character of a line end, but
  not between the two. -/
  | lineStart (crlf : Bool)
  | lineEnd (crlf : Bool)
  | word (unicode : Bool) (edge : WordEdge)
deriving DecidableEq

namespace Look

def isAsciiWord (c : Char) : Bool := c.isAlphanum || c = '_'

def wordAt (unicode : Bool) : Option Char → Bool
  | some c => if unicode then isWord c else isAsciiWord c
  | none => false

/-- Whether the test holds between two characters, either of which is missing at an end of the
text. -/
def holds (before after : Option Char) : Look → Bool
  | textStart => before.isNone
  | textEnd => after.isNone
  | lineStart false => before.isNone || before == some '\n'
  | lineStart true =>
    before.isNone || before == some '\n' || (before == some '\r' && after != some '\n')
  | lineEnd false => after.isNone || after == some '\n'
  | lineEnd true =>
    after.isNone || after == some '\r' || (after == some '\n' && before != some '\r')
  | word unicode edge =>
    let b := wordAt unicode before
    let a := wordAt unicode after
    match edge with
    | .boundary => b != a
    | .inside => b == a
    | .start => !b && a
    | .finish => b && !a
    | .startHalf => !b
    | .finishHalf => !a

end Look

inductive Expr where
  | empty
  /-- One character of a set. -/
  | chars (set : CharSet)
  | look (l : Look)
  | repeat (min : Nat) (max : Option Nat) (greedy : Bool) (body : Expr)
  | group (index : Nat) (name : Option String) (body : Expr)
  | seq (first rest : Expr)
  | alt (first rest : Expr)
deriving DecidableEq

namespace Expr

/-- A place in a text: the character before it and the characters after it. -/
structure Place where
  before : Option Char
  rest : List Char
deriving DecidableEq

/-- The expression covers the text from one place to another. A repetition covers any number of
stretches within its bounds, one after the other. -/
inductive Matches : Expr → Place → Place → Prop where
  | empty {p} : Matches .empty p p
  | chars {s c b r} : s.contains c = true → Matches (.chars s) ⟨b, c :: r⟩ ⟨some c, r⟩
  | look {l p} : l.holds p.before p.rest.head? = true → Matches (.look l) p p
  | done {max greedy e p} : Matches (.repeat 0 max greedy e) p p
  | more {min max greedy e p q r} : max ≠ some 0 → Matches e p q →
      Matches (.repeat (min - 1) (max.map (· - 1)) greedy e) q r →
      Matches (.repeat min max greedy e) p r
  | group {i n e p q} : Matches e p q → Matches (.group i n e) p q
  | seq {e f p q r} : Matches e p q → Matches f q r → Matches (.seq e f) p r
  | left {e f p q} : Matches e p q → Matches (.alt e f) p q
  | right {e f p q} : Matches f p q → Matches (.alt e f) p q

/-- The parts of a sequence. -/
def items : Expr → List Expr
  | empty => []
  | seq e f => e :: f.items
  | e => [e]

def ofItems : List Expr → Expr
  | [] => empty
  | [e] => e
  | e :: l => seq e (ofItems l)

/-- Expressions after each other; sequences among them dissolve. -/
def concat (l : List Expr) : Expr := ofItems (l.flatMap items)

/-- The branches of an alternative. -/
def branches : Expr → List Expr
  | alt e f => e :: f.branches
  | e => [e]

def ofBranches : List Expr → Expr
  | [] => chars .empty
  | [e] => e
  | e :: l => alt e (ofBranches l)

/-- The only character that a single character expression covers. -/
def literal? : Expr → Option Char
  | chars s => s.only?
  | _ => none

def isLiteral (e : Expr) : Bool := e.literal?.isSome

/-- A character of a set of other than one member. -/
def class? : Expr → Option CharSet
  | chars s => if s.only?.isSome then none else some s
  | _ => none

/-- Items with neighbouring literal characters gathered into words. -/
def chunks : List Expr → List (List Expr)
  | [] => []
  | e :: l =>
    match chunks l with
    | (f :: w) :: cs =>
      if e.isLiteral && f.isLiteral then (e :: f :: w) :: cs else [e] :: (f :: w) :: cs
    | cs => [e] :: cs

/-- Branches that are single characters make one set. -/
def mergeBranches (l : List Expr) : Expr :=
  match l.flatMap branches with
  | [e] => e
  | l =>
    match l.mapM literal?, l.mapM class? with
    | some cs, _ => chars (.ofList cs)
    | none, some ss => chars (.unions ss)
    | none, none => ofBranches l

/-- The longest common start of lists. -/
def commonPrefix {α : Type} [DecidableEq α] : List α → List (List α) → List α
  | [], _ => []
  | a :: p, ls =>
    if ls.all fun l => l.head? = some a then a :: commonPrefix p (ls.map List.tail) else []

/-- Alternatives; a common start of all branches that are sequences is taken out. -/
def alternation (l : List Expr) : Expr :=
  match mergeBranches l with
  | alt e f =>
    let bs := (alt e f).branches.map fun b => chunks b.items
    let start := commonPrefix (bs.headD []) bs
    if bs.any (·.length < 2) || start.isEmpty then alt e f
    else concat (start.map ofItems ++
      [mergeBranches (bs.map fun b => concat ((b.drop start.length).map ofItems))])
  | e => e

/-- The expression covers nothing but empty stretches. -/
def isBlank : Expr → Bool
  | empty | look _ => true
  | chars _ => false
  | .repeat _ max _ e => max.isSome && e.isBlank
  | group _ _ e => e.isBlank
  | seq e f => e.isBlank && f.isBlank
  | alt e f => e.isBlank && f.isBlank

/-- The fewest characters an expression covers; nothing where a part of it covers no text at
all. -/
def leastLength : Expr → Option Nat
  | empty | look _ => some 0
  | chars s => if s.isEmpty then none else some 1
  | .repeat min _ _ e => e.leastLength.map (min * ·)
  | group _ _ e => e.leastLength
  | seq e f => do return (← e.leastLength) + (← f.leastLength)
  | alt e f => do return Nat.min (← e.leastLength) (← f.leastLength)

/-- The expression is known to take a character whenever it matches. -/
def advances (e : Expr) : Bool := (e.leastLength.getD 0) ≠ 0

/-- A repetition. What is blank by itself need not be repeated more than once. -/
def repetition (min : Nat) (max : Option Nat) (greedy : Bool) (e : Expr) : Expr :=
  let (min, max) := if e.isBlank then (Nat.min min 1, some ((max.map (Nat.min · 1)).getD 1))
    else (min, max)
  if max = some 0 then empty
  else if min = 1 ∧ max = some 1 then e
  else .repeat min max greedy e

end Expr

end DeclRules.Pattern
