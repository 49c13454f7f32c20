import DeclRules.Pass.Item
import DeclRules.Ruleset.Compiled

/-! Passes over many declarations. Every declaration is looked up and counted, also when another
one fails; the pass then fails as the first of them in the order of the input. -/

namespace DeclRules.Pass

/-- The item of one declaration. -/
def process (d : Declaration) : StateM Compiled (Except Failure Item) := do
  let c ← get
  let (found, c) := c.resolve d
  set c
  return Item.ofMatch d found

/-- Takes the declarations one after the other. -/
def run (ds : List Declaration) : StateM Compiled (Except Failure (List Item)) := do
  let results ← ds.mapM process
  return results.mapM id

/-- An order in which to take `n` things. -/
structure Schedule (n : Nat) where
  order : List (Fin n)
  complete : order.Perm (List.finRange n)

/-- Every second thing first, and the others after them. -/
def Schedule.alternating (n : Nat) : Schedule n where
  order := (List.finRange n).filter (·.val % 2 == 0) ++
    (List.finRange n).filter fun i => !(i.val % 2 == 0)
  complete := List.filter_append_perm _ _

/-- Takes the declarations as the schedule says and puts the items back in order. -/
def runScheduled (ds : List Declaration) (s : Schedule ds.length) :
    StateM Compiled (Except Failure (List Item)) := do
  let results ← s.order.mapM fun i => do return (i, ← process (ds.get i))
  let results := results.mergeSort fun a b => decide (a.1 ≤ b.1)
  return (results.map (·.2)).mapM id

end DeclRules.Pass
