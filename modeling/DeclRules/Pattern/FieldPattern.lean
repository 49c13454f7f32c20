import DeclRules.Declaration.Kind
import DeclRules.Keyed
import DeclRules.Pattern.Elaborate
import DeclRules.Pattern.Footprint
import DeclRules.Pattern.Machine
import DeclRules.Pattern.Reader

/-! Patterns for whole fields. A source must be a pattern on its own; it is then wrapped so that
it has to cover the field from start to end. -/

namespace DeclRules

open Pattern

inductive PatternError where
  | malformed
  | tooLarge
deriving DecidableEq

def PatternError.message : PatternError → String
  | malformed => "<regex>"
  | tooLarge => "Compiled regex exceeds size limit of 10485760 bytes."

namespace Pattern

/-- The expression of a pattern. -/
def expr (source : List Char) : Except PatternError Expr :=
  match (parse source).bind (·.elaborate {}) with
  | none => .error .malformed
  | some (e, _) => if e.fits then .ok e else .error .tooLarge

/-- The pattern with a test for the start in front and one for the end behind. -/
def wrap (source : List Char) : List Char := "^(?:".toList ++ source ++ ")$".toList

/-- The capture groups of an expression, by their numbers. -/
def Expr.groups : Expr → List (Nat × Option String)
  | empty | chars _ | look _ => []
  | group i n e => (i, n) :: e.groups
  | seq e f | alt e f => e.groups ++ f.groups
  | .repeat _ _ _ e => e.groups

/-- One more than the greatest group number; the whole match has number zero. -/
def Expr.groupCount (e : Expr) : Nat := e.groups.foldl (fun n g => max n (g.1 + 1)) 1

/-- Start and end of a group in a trace, if it took part. -/
def Trace.span? (t : Trace) (group : Nat) : Option (Nat × Nat) := do
  return (← t.lookup (2 * group), ← t.lookup (2 * group + 1))

def slice (text : List Char) (span : Nat × Nat) : String :=
  String.ofList ((text.drop span.1).take (span.2 - span.1))

end Pattern

/-- What a pattern found in a field. -/
structure FieldMatch where
  field : Field
  value : String
  /-- The groups by number; number zero is the whole match, and a group that took no part is
  missing. -/
  groups : List (Option String)
  /-- The named groups that took part. -/
  named : Keyed String

structure FieldPattern where
  source : String
  expr : Expr
  program : Array Inst

namespace FieldPattern

def compile (source : String) : Except PatternError FieldPattern := do
  let _ ← Pattern.expr source.toList
  let expr ← Pattern.expr (wrap source.toList)
  return { source, expr, program := expr.program }

def trace? (p : FieldPattern) (value : List Char) : Option Trace :=
  Machine.run p.program 0 none [⟨0, []⟩] value

def isMatch (p : FieldPattern) (value : String) : Bool := (p.trace? value.toList).isSome

/-- The text of a group. -/
def groupText (value : List Char) (t : Trace) (i : Nat) : Option String :=
  if i = 0 then some (String.ofList value) else (t.span? i).map (slice value)

def capture (p : FieldPattern) (field : Field) (value : String) : Option FieldMatch :=
  let text := value.toList
  (p.trace? text).map fun t => {
    field
    value
    groups := (List.range p.expr.groupCount).map (groupText text t)
    named := .ofList (p.expr.groups.filterMap fun (i, n) => do
      return (← n, ← groupText text t i)) }

end FieldPattern

end DeclRules
