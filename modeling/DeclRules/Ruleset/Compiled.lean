import DeclRules.Declaration.PerKind
import DeclRules.Rule.Database
import DeclRules.Ruleset.Basic

/-! Rulesets with all their rules compiled. -/

namespace DeclRules

structure Compiled where
  name : RulesetName
  description : Option String
  lineage : List RulesetName
  databases : PerKind Database

/-- Compiles the rules in force, kind by kind. -/
def Ruleset.compile (r : Ruleset) : Except ConfigError Compiled := do
  return {
    name := r.name
    description := r.description
    lineage := r.lineage
    databases := ← PerKind.ofExcept fun k => Database.compile k (r.build k) }

namespace Compiled

def database (c : Compiled) (k : Kind) : Database k := c.databases.get k

/-- The rule for a declaration among those of its kind. -/
def find (c : Compiled) (d : Declaration) : Except ConfigError (Option Match) :=
  (c.database d.kind).find d

/-- Counts what was found among the rules of a kind. -/
def count (c : Compiled) (k : Kind) (found : Except ConfigError (Option Match)) : Compiled :=
  { c with databases := c.databases.set k ((c.database k).count found) }

/-- Finds the rule for a declaration and counts it. -/
def resolve (c : Compiled) (d : Declaration) : Except ConfigError (Option Match) × Compiled :=
  let found := c.find d
  (found, c.count d.kind found)

/-- Sets the counts of one kind back to zero. -/
def reset (c : Compiled) (k : Kind) : Compiled :=
  { c with databases := c.databases.set k (c.database k).reset }

def usage (c : Compiled) : List Usage := (c.databases.toList fun _ db => db.usage).flatten

def unused (c : Compiled) : List Usage := (c.databases.toList fun _ db => db.unused).flatten

/-- The number of rules of all kinds. -/
def size (c : Compiled) : Nat := (c.databases.toList fun _ db => db.size).foldl (· + ·) 0

def isEmpty (c : Compiled) : Bool := c.size == 0

end Compiled

end DeclRules
