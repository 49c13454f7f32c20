import DeclRules.Rule.Basic

/-! Rulesets: rules of all kinds under a name, on top of the rulesets that are extended. -/

namespace DeclRules

structure Ruleset where
  name : RulesetName
  description : Option String
  /-- What is extended, the most specific first. -/
  parents : List Ruleset
  /-- The rules of its own, as they are written. -/
  rules : Kind → List Entry

namespace Ruleset

/-- The rules of its own, with the ruleset as their origin. -/
def localEntries (r : Ruleset) (k : Kind) : List Entry := (r.rules k).map (·.withOrigin r.name)

/-- The ruleset with one more parent, behind those it has. -/
def extend (r parent : Ruleset) : Ruleset := { r with parents := r.parents ++ [parent] }

mutual

/-- The rules in force: the ruleset's own, then those of each parent in turn. -/
def build (k : Kind) : Ruleset → List Entry
  | ⟨name, _, parents, rules⟩ => (rules k).map (·.withOrigin name) ++ buildAll k parents

def buildAll (k : Kind) : List Ruleset → List Entry
  | [] => []
  | r :: rs => build k r ++ buildAll k rs

end

mutual

/-- The names of the ruleset and of all it extends, depth first. -/
def lineage : Ruleset → List RulesetName
  | ⟨name, _, parents, _⟩ => name :: lineageAll parents

def lineageAll : List Ruleset → List RulesetName
  | [] => []
  | r :: rs => lineage r ++ lineageAll rs

end

theorem buildAll_eq (k : Kind) (rs : List Ruleset) : buildAll k rs = rs.flatMap (build k) := by
  induction rs with
  | nil => rfl
  | cons r rs ih => rw [buildAll, ih, List.flatMap_cons]

theorem build_eq (k : Kind) (r : Ruleset) :
    build k r = r.localEntries k ++ r.parents.flatMap (build k) := by
  cases r
  rw [build, buildAll_eq, localEntries]

theorem lineageAll_eq (rs : List Ruleset) : lineageAll rs = rs.flatMap lineage := by
  induction rs with
  | nil => rfl
  | cons r rs ih => rw [lineageAll, ih, List.flatMap_cons]

theorem lineage_eq (r : Ruleset) : r.lineage = r.name :: r.parents.flatMap lineage := by
  cases r
  rw [lineage, lineageAll_eq]

end Ruleset

end DeclRules
