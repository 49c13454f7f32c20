import DeclRules.Rule.Table

/-! Tables that count how often each rule was the one that matched. Counts are taken modulo
2^64 and never decide what matches. -/

namespace DeclRules

structure Database (k : Kind) where
  table : Table k
  /-- How often each rule matched. -/
  hits : List UInt64
  length_hits : hits.length = table.size

/-- A rule with how often it matched, for reports. -/
structure Usage where
  kind : Kind
  index : Nat
  origin : Option RulesetName
  patterns : List String
  /-- The label of the action. -/
  action : String
  hits : UInt64

namespace Database

variable {k : Kind}

def ofTable (t : Table k) : Database k := ⟨t, List.replicate t.size 0, List.length_replicate⟩

def compile (k : Kind) (entries : List Entry) : Except ConfigError (Database k) :=
  return ofTable (← Table.compile k entries)

/-- The rule that a declaration falls to. -/
def find (db : Database k) (d : Declaration) : Except ConfigError (Option Match) :=
  if d.kind = k then .ok (db.table.firstMatch d)
  else .error (.foreignDeclaration k d.kind d.qualified)

/-- Counts one more match of a rule. -/
def hit (db : Database k) (index : Nat) : Database k :=
  { db with
    hits := db.hits.modify index (· + 1)
    length_hits := by rw [List.length_modify, db.length_hits] }

/-- Counts what was found. -/
def count (db : Database k) : Except ConfigError (Option Match) → Database k
  | .ok (some m) => db.hit m.index
  | _ => db

/-- Finds the rule for a declaration and counts it. -/
def resolve (db : Database k) (d : Declaration) :
    Except ConfigError (Option Match) × Database k :=
  let found := db.find d
  (found, db.count found)

/-- Sets all counts back to zero. -/
def reset (db : Database k) : Database k := ofTable db.table

/-- Every rule in the order of the table. -/
def usage (db : Database k) : List Usage :=
  (db.table.rules.zip db.hits).zipIdx.map fun ((r, hits), index) =>
    { kind := k, index, origin := r.origin, patterns := r.sources, action := r.action.label, hits }

/-- The rules that never matched. -/
def unused (db : Database k) : List Usage := db.usage.filter (·.hits = 0)

def size (db : Database k) : Nat := db.table.size

end Database

end DeclRules
