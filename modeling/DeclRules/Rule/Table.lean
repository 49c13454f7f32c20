import DeclRules.ConfigError
import DeclRules.Rule.Basic

/-! Compiled rules of one kind, in the order in which they are tried. -/

namespace DeclRules

structure Rule (k : Kind) where
  patterns : List FieldPattern
  length_patterns : patterns.length = k.arity
  action : Action
  origin : Option RulesetName

/-- The rule that a declaration fell to, with its place in the table and what it captured. -/
structure Match where
  index : Nat
  action : Action
  origin : Option RulesetName
  context : Context

namespace Rule

variable {k : Kind}

/-- The patterns as written. -/
def sources (r : Rule k) : List String := r.patterns.map (·.source)

/-- What the patterns capture from their fields, if every one of them matches. -/
def capture (r : Rule k) (d : Declaration) : Option Context :=
  ((k.fields.zip r.patterns).mapM fun (f, p) => FieldPattern.capture p f (d.field f)).map Context.mk

/-- A compiled pattern of the entry at `index`. -/
def compilePattern (index : Nat) (e : Entry) (source : String) :
    Except ConfigError FieldPattern :=
  (FieldPattern.compile source).mapError (.invalidPattern e.kind index e.origin source)

theorem length_of_mapM {ε α β : Type} {f : α → Except ε β} {l : List α} {m : List β}
    (h : l.mapM f = .ok m) : m.length = l.length := by
  induction l generalizing m with
  | nil => cases h; rfl
  | cons a l ih =>
    rw [List.mapM_cons] at h
    simp only [bind, Except.bind, pure, Except.pure] at h
    split at h
    · contradiction
    · split at h
      · contradiction
      · cases h
        rename_i hl
        simp [ih hl]

/-- The compiled form of the entry at `index` of the table for `k`. -/
def compile (k : Kind) (index : Nat) (e : Entry) : Except ConfigError (Rule k) :=
  if e.kind = k then
    if h : e.patterns.length = k.arity then
      match hp : e.patterns.mapM (compilePattern index e) with
      | .ok patterns => .ok {
          patterns
          length_patterns := by rw [← h, length_of_mapM hp]
          action := e.action
          origin := e.origin }
      | .error c => .error c
    else .error (.wrongArity k index e.origin e.patterns.length)
  else .error (.foreignRule k e.kind index e.origin)

end Rule

structure Table (k : Kind) where
  rules : List (Rule k)

namespace Table

variable {k : Kind}

/-- Compiles every entry, or gives the error of the first that does not compile. -/
def compile (k : Kind) (entries : List Entry) : Except ConfigError (Table k) :=
  return ⟨← entries.zipIdx.mapM fun (e, i) => Rule.compile k i e⟩

/-- The first rule of which every pattern matches. The declaration is taken as one of kind `k`,
whatever its kind. -/
def firstMatch (t : Table k) (d : Declaration) : Option Match :=
  t.rules.zipIdx.findSome? fun (r, index) =>
    (r.capture d).map fun context => { index, action := r.action, origin := r.origin, context }

def size (t : Table k) : Nat := t.rules.length

end Table

end DeclRules
