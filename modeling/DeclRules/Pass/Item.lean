import DeclRules.Declaration.Lines
import DeclRules.Rule.Table

/-! What a pass says about each declaration, and the counts over all of them, or what ends the work,
by the stage at which it does. -/

namespace DeclRules

inductive Failure where
  | config (e : ConfigError)
  | action (e : ActionError)
  | input (e : InputError)
  /-- The input could not be opened. -/
  | unopened (fault : Fault)

def Failure.message : Failure → String
  | config e => "Configuration error: " ++ e.message
  | action e => "Transformation error: " ++ e.message
  | input e => "Input error: " ++ e.message
  | unopened fault => "I/O error: " ++ fault.message

inductive Disposition where
  | unmatched
  | rewritten (rule : Nat)
  | discarded (rule : Nat)
deriving DecidableEq

namespace Disposition

def text : Disposition → String
  | unmatched => "unmatched"
  | rewritten _ => "rewritten"
  | discarded _ => "discarded"

def rule? : Disposition → Option Nat
  | unmatched => none
  | rewritten rule | discarded rule => some rule

end Disposition

/-- Carries out the action of the rule that a declaration fell to; without one the declaration
is kept as it is. -/
def applyMatch (d : Declaration) : Option Match → Except ActionError (Outcome × Disposition)
  | none => .ok (.kept d, .unmatched)
  | some m => do
    let outcome ← m.action.apply d m.context m.index
    return (outcome, if outcome.isDiscarded then .discarded m.index else .rewritten m.index)

structure Item where
  kind : Kind
  container : String
  name : String
  disposition : Disposition
  /-- The ruleset that the matching rule comes from. -/
  origin : Option RulesetName
  /-- The attributes that the rule changed. -/
  changed : List String
  /-- The declaration to emit, unless it was discarded. -/
  emitted : Option Declaration

/-- The item of a declaration for which `found` was found. -/
def Item.ofMatch (d : Declaration) (found : Except ConfigError (Option Match)) :
    Except Failure Item := do
  let m ← found.mapError Failure.config
  let (outcome, disposition) ← (applyMatch d m).mapError Failure.action
  return {
    kind := d.kind
    container := d.container
    name := d.name
    disposition
    origin := m.bind (·.origin)
    changed := match outcome, m with
      | .kept d', some _ => d.form.changedKeys d'.form
      | _, _ => []
    emitted := outcome.declaration? }

/-- How many declarations there were, and how many fared in each way. -/
structure Summary where
  declarations : Nat
  unmatched : Nat
  rewritten : Nat
  discarded : Nat
deriving DecidableEq

namespace Summary

def emitted (s : Summary) : Nat := s.declarations - s.discarded

/-- Counts one more disposition. -/
def add (s : Summary) : Disposition → Summary
  | .unmatched => { s with unmatched := s.unmatched + 1 }
  | .rewritten _ => { s with rewritten := s.rewritten + 1 }
  | .discarded _ => { s with discarded := s.discarded + 1 }

def ofItems (items : List Item) : Summary :=
  items.foldl (fun s i => s.add i.disposition) ⟨items.length, 0, 0, 0⟩

end Summary

/-- The declarations to emit, in the order of the input. -/
def emittedOf (items : List Item) : List Declaration := items.filterMap (·.emitted)

end DeclRules
