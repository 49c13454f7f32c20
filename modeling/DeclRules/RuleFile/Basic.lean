import DeclRules.ConfigError
import DeclRules.Declaration.PerKind
import DeclRules.Rule.StandardAction
import DeclRules.Ruleset.Basic

/-! Rule files: what one says, and the ruleset it makes. -/

namespace DeclRules

/-- A rule in a file. Its patterns stand by field or in order, but not both. -/
structure RuleFile.Row where
  named : Field → Option String
  positional : Option (List String)
  action : StandardAction

structure RuleFile where
  name : RulesetName
  /-- The files that are extended, as they are written. -/
  parents : List Path
  description : Option String
  rows : Kind → List RuleFile.Row

namespace RuleFile

/-- The pattern of a field that a rule leaves out. -/
def wildcard : String := ".*"

namespace Row

/-- The first field with a pattern that rules of the kind do not match on. -/
def foreign? (r : Row) (k : Kind) : Option Field :=
  Field.all.find? fun f => (r.named f).isSome && !decide (f ∈ k.fields)

/-- The rule as an entry of the table for `k`, being the rule at `index` in its file. -/
def entry (k : Kind) (index : Nat) (r : Row) : Except ConfigError Entry :=
  match r.foreign? k, r.positional with
  | some f, _ => .error (.foreignField k index f)
  | none, some patterns =>
    if k.fields.any fun f => (r.named f).isSome then .error (.mixedPatterns k index)
    else .ok { kind := k, patterns, action := r.action.action }
  | none, none => .ok {
      kind := k
      patterns := k.fields.map fun f => (r.named f).getD wildcard
      action := r.action.action }

end Row

/-- The entries of a kind, in the order of the file. -/
def entries (f : RuleFile) (k : Kind) : Except ConfigError (List Entry) :=
  (f.rows k).zipIdx.mapM fun (r, i) => r.entry k i

/-- The ruleset of a file whose parents are at hand. -/
def toRuleset (f : RuleFile) (parents : List Ruleset) : Except ConfigError Ruleset := do
  let rules ← PerKind.ofExcept f.entries
  return { name := f.name, description := f.description, parents, rules := rules.get }

end RuleFile

end DeclRules
