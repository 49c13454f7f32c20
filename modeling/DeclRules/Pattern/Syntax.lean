/-! The syntax of patterns, as written: what was quoted, escaped or abbreviated is still told
apart here. -/

namespace DeclRules.Pattern

/-- A flag that a pattern can set for a part of itself. -/
inductive Flag where
  | caseInsensitive
  | multiLine
  | dotAll
  | swapGreed
  | unicode
  | crlf
  | verbose
deriving DecidableEq

/-- Flags in the order written, with the values they are set to. -/
abbrev FlagSettings := List (Flag × Bool)

/-- A test of a position; it takes no character. -/
inductive Assertion where
  | lineStart
  | lineEnd
  | textStart
  | textEnd
  | wordBoundary
  | notWordBoundary
  | wordStart
  | wordEnd
  | wordStartHalf
  | wordEndHalf
deriving DecidableEq

inductive Shorthand where
  | digit
  | space
  | word
deriving DecidableEq

/-- A class named by a property, or by a property and one of its values. -/
inductive PropertyQuery where
  | name (name : String)
  | value (property value : String)
deriving DecidableEq

/-- What stands for one character, outside brackets or between them. -/
inductive Atom where
  /-- `byte` if written as two hexadecimal digits, which name a byte where Unicode is off. -/
  | literal (c : Char) (byte : Bool)
  | shorthand (negated : Bool) (s : Shorthand)
  | property (negated : Bool) (q : PropertyQuery)
deriving DecidableEq

inductive AsciiClass where
  | alnum
  | alpha
  | ascii
  | blank
  | cntrl
  | digit
  | graph
  | lower
  | print
  | punct
  | space
  | upper
  | word
  | xdigit
deriving DecidableEq

inductive SetOperator where
  | intersection
  | difference
  | symmetricDifference
deriving DecidableEq

/-- What stands between brackets. -/
inductive ClassSet where
  | atom (a : Atom)
  | range (first last : Char)
  | ascii (negated : Bool) (c : AsciiClass)
  | bracket (negated : Bool) (content : ClassSet)
  | union (items : List ClassSet)
  | operation (op : SetOperator) (left right : ClassSet)

inductive GroupKind where
  | capture (index : Nat) (name : Option String)
  | plain (flags : FlagSettings)

inductive Ast where
  | empty
  | atom (a : Atom)
  | dot
  | assertion (a : Assertion)
  | bracket (negated : Bool) (content : ClassSet)
  /-- Flags set for the rest of the enclosing group. -/
  | flags (settings : FlagSettings)
  | repeat (min : Nat) (max : Option Nat) (greedy : Bool) (body : Ast)
  | group (kind : GroupKind) (body : Ast)
  | concat (items : List Ast)
  | alternation (branches : List Ast)

namespace ClassSet

mutual

/-- How many brackets, operations and unions of two or more stand inside each other. -/
def depth : ClassSet → Nat
  | atom _ | range _ _ | ascii _ _ => 0
  | bracket _ c => c.depth + 1
  | union [] => 0
  | union items => depths items + 1
  | operation _ l r => max l.depth r.depth + 1

def depths : List ClassSet → Nat
  | [] => 0
  | c :: l => max c.depth (depths l)

end

/-- What stands side by side; one thing stands for itself. -/
def ofItems : List ClassSet → ClassSet
  | [c] => c
  | l => union l

end ClassSet

namespace Ast

mutual

/-- How many brackets, groups, repetitions, concatenations and alternations stand inside each
other. -/
def depth : Ast → Nat
  | bracket _ c => c.depth + 1
  | .repeat _ _ _ body => body.depth + 1
  | group _ body => body.depth + 1
  | concat items => depths items + 1
  | alternation branches => depths branches + 1
  | _ => 0

def depths : List Ast → Nat
  | [] => 0
  | a :: l => max a.depth (depths l)

end

/-- Parts that follow each other; none is empty, and one stands for itself. -/
def ofItems : List Ast → Ast
  | [] => empty
  | [a] => a
  | l => concat l

end Ast

end DeclRules.Pattern
