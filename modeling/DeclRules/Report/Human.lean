import DeclRules.Pass.Item
import DeclRules.Rule.Database

/-! Reports for people: a line for each declaration and a last one with the counts, or a heading
and a line for each rule. Lines are text with marked spans, written plainly or with the escape
sequences of a terminal. -/

namespace DeclRules.Report

inductive Colour where
  | red
  | yellow
deriving DecidableEq

structure Style where
  bold : Bool := false
  colour : Option Colour := none
deriving DecidableEq

/-- A piece of text. A span that has a style, be it one that marks nothing, is set off from its
surroundings where styles are written. -/
structure Span where
  text : String
  style : Option Style := none

/-- A line without its end. -/
abbrev Line := List Span

def plain (s : String) : Span := ⟨s, none⟩

def Colour.code : Colour → String
  | red => "\x1b[31m"
  | yellow => "\x1b[33m"

/-- Back to text without a style. -/
def plainCode : String := "\x1b[0m"

def Style.code (s : Style) : String :=
  plainCode ++ (if s.bold then "\x1b[1m" else "") ++ (s.colour.map Colour.code).getD ""

def Span.render (colours : Bool) (s : Span) : String :=
  match s.style with
  | some style => if colours then style.code ++ s.text ++ plainCode else s.text
  | none => s.text

def Line.render (colours : Bool) (l : Line) : String := String.join (l.map (·.render colours))

/-- Every line with its end. -/
def renderLines (colours : Bool) (ls : List Line) : String :=
  String.join (ls.map fun l => l.render colours ++ "\n")

/-- A text filled up with spaces to a width. -/
def padded (width : Nat) (s : String) : String :=
  s ++ String.ofList (List.replicate (width - s.length) ' ')

/-- The word for a disposition, and how it is set. -/
def verdict : Disposition → Span
  | .unmatched => ⟨padded 8 "keep", some {}⟩
  | .rewritten _ => ⟨padded 8 "rewrite", some ⟨true, some .yellow⟩⟩
  | .discarded _ => ⟨padded 8 "discard", some ⟨true, some .red⟩⟩

def ruleNote (i : Item) : String :=
  match i.disposition.rule? with
  | none => ""
  | some rule =>
    " (rule #" ++ toString rule ++ ((i.origin.map (" from " ++ ·.text)).getD "") ++ ")"

def changeNote (i : Item) : String :=
  if i.changed.isEmpty then "" else " changed: " ++ ", ".intercalate i.changed

def itemLine (i : Item) : Line :=
  [verdict i.disposition,
    plain (i.kind.text ++ " " ++ qualifiedName i.container i.name ++ ruleNote i ++ changeNote i)]

def summaryLine (s : Summary) : Line :=
  [plain (toString s.declarations ++ " declarations: " ++ toString s.rewritten ++ " rewritten, "
    ++ toString s.discarded ++ " discarded, " ++ toString s.unmatched ++ " unmatched")]

/-- The items to show. -/
def shown (unmatchedToo : Bool) (items : List Item) : List Item :=
  items.filter fun i => unmatchedToo || i.disposition != .unmatched

/-- The lines of a report on a pass. -/
def human (unmatchedToo : Bool) (items : List Item) : List Line :=
  (shown unmatchedToo items).map itemLine ++ [[], summaryLine (Summary.ofItems items)]

/-- Patterns between quotation marks, as they are. -/
def patternList (patterns : List String) : String :=
  "[" ++ ", ".intercalate (patterns.map fun p => "\"" ++ p ++ "\"") ++ "]"

def usageLine (u : Usage) : Line :=
  [⟨"  " ++ u.kind.text ++ " #" ++ toString u.index, some { bold := true }⟩,
    plain (((u.origin.map fun n => " [" ++ n.text ++ "]").getD "") ++ " " ++ patternList u.patterns
      ++ " -> " ++ u.action)]

/-- The lines of a report on rules. -/
def humanRules (heading : String) (rules : List Usage) : List Line :=
  [plain (heading ++ " (" ++ toString rules.length ++ "):")] :: rules.map usageLine

end DeclRules.Report
