import DeclRules.Pass.Item
import DeclRules.Rule.Database

/-! Reports for programs: one JSON object a line, its members in a fixed order. -/

namespace DeclRules.Report

open Json

/-- A member that is only there if it has something to say. -/
def optional {α : Type} (key : String) (f : α → Value) : Option α → List (String × Value)
  | some a => [(key, f a)]
  | none => []

/-- What is said of an emitted declaration: the declaration itself, and how it came about. -/
def itemMembers (i : Item) (d : Declaration) : List (String × Value) :=
  [("type", .string "declaration")] ++ d.toJson
    ++ [("disposition", .string i.disposition.text)]
    ++ optional "rule" Value.nat i.disposition.rule?
    ++ optional "origin" (fun n => .string n.text) i.origin
    ++ if i.changed.isEmpty then [] else [("changed", .array (i.changed.map .string))]

def summaryMembers (s : Summary) : List (String × Value) := [
  ("type", .string "summary"),
  ("declarations", .nat s.declarations),
  ("unmatched", .nat s.unmatched),
  ("rewritten", .nat s.rewritten),
  ("discarded", .nat s.discarded),
  ("emitted", .nat s.emitted)]

def usageMembers (type : String) (u : Usage) : List (String × Value) :=
  [("type", .string type), ("kind", .string u.kind.text), ("index", .nat u.index)]
    ++ optional "origin" (fun n => .string n.text) u.origin
    ++ [("patterns", .array (u.patterns.map .string)), ("action", .string u.action),
      ("hits", .nat u.hits.toNat)]

/-- The lines of a report on a pass: one for every emitted declaration, and the counts. -/
def jsonLines (items : List Item) : List String :=
  items.filterMap (fun i => i.emitted.map fun d => (Value.object (itemMembers i d)).text)
    ++ [(Value.object (summaryMembers (Summary.ofItems items))).text]

/-- The lines of a report on rules. -/
def jsonRuleLines (type : String) (rules : List Usage) : List String :=
  rules.map fun u => (Value.object (usageMembers type u)).text

/-- Every line with its end. -/
def joinLines (ls : List String) : String := String.join (ls.map (· ++ "\n"))

end DeclRules.Report
