import DeclRules.Complaint
import DeclRules.Declaration.Basic
import DeclRules.Pattern.Template

/-! Rules as written, before their patterns are compiled, with the names of the rulesets they come
from and what becomes of declarations by their actions. Discarding runs no edit; an edit works on
the form alone and its result counts only if it succeeds. -/

namespace DeclRules

def isNameChar (c : Char) : Bool := Unicode.isAlphanumeric c || c == '-' || c == '_' || c == '.'

def isRulesetName (s : String) : Bool := !s.isEmpty && s.toList.all isNameChar

/-- A name that is not empty and made of letters, digits, hyphens, underscores and dots. -/
structure RulesetName where
  text : String
  valid : isRulesetName text = true
deriving DecidableEq

def RulesetName.ofString? (s : String) : Option RulesetName :=
  if h : isRulesetName s = true then some ⟨s, h⟩ else none

/-- The name that a text is, or the complaint that it is none. -/
def RulesetName.parse (s : String) : Except Complaint RulesetName :=
  match ofString? s with
  | some n => .ok n
  | none => .error (.invalidName s)

/-- A labelled edit of forms. It sees the scope and the name of the declaration and what the rule
captured. An edit that fails gives its reason, and leaves the form as it was at that point. -/
structure Transform where
  label : String
  edit : (container name : String) → Context → EStateM String Form Unit

inductive Action where
  /-- The declaration is dropped. -/
  | discard
  /-- The declaration is kept with its form edited. -/
  | rewrite (t : Transform)

namespace Action

def label : Action → String
  | discard => "discard"
  | rewrite t => t.label

def isDiscard : Action → Bool
  | discard => true
  | rewrite _ => false

end Action

/-- What is left of a declaration. -/
inductive Outcome where
  | kept (d : Declaration)
  | discarded

/-- An edit that failed, with the declaration and the rule it was for. -/
structure ActionError where
  kind : Kind
  container : String
  name : String
  rule : Nat
  action : String
  reason : String
deriving DecidableEq

def ActionError.message (e : ActionError) : String :=
  "Action '" ++ e.action ++ "' of " ++ e.kind.text ++ " rule #" ++ toString e.rule
    ++ " failed on '" ++ qualifiedName e.container e.name ++ "': " ++ e.reason

namespace Outcome

def isDiscarded : Outcome → Bool
  | discarded => true
  | kept _ => false

/-- The declaration to emit, if there is one. -/
def declaration? : Outcome → Option Declaration
  | kept d => some d
  | discarded => none

end Outcome

/-- The outcome of an action that rule number `rule` asks for. -/
def Action.apply (a : Action) (d : Declaration) (c : Context) (rule : Nat) :
    Except ActionError Outcome :=
  match a with
  | discard => .ok .discarded
  | rewrite t =>
    match t.edit d.container d.name c d.form with
    | .ok () form => .ok (.kept { d with form })
    | .error reason _ => .error {
        kind := d.kind, container := d.container, name := d.name, rule, action := t.label, reason }

/-- A rule as written. -/
structure Entry where
  kind : Kind
  /-- One pattern for each field of the kind, in order; nothing makes sure of it yet. -/
  patterns : List String
  action : Action
  /-- The ruleset that the rule comes from. -/
  origin : Option RulesetName := none

/-- The entry with an origin, if it has none yet. -/
def Entry.withOrigin (e : Entry) (n : RulesetName) : Entry :=
  { e with origin := some (e.origin.getD n) }

end DeclRules
