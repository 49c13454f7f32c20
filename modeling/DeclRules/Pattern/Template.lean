import DeclRules.Pattern.FieldPattern

/-! Templates: text in which a name between braces behind a dollar sign stands for something
else. An opening without a closing brace is text like all behind it. The names of a template are
those of groups in what the patterns of a rule found, its context. -/

namespace DeclRules

inductive Template.Piece where
  | text (cs : List Char)
  | name (cs : List Char)

/-- A template in pieces. -/
abbrev Template := List Template.Piece

namespace Template

/-- The name up to the first closing brace, and what follows. -/
def splitName? : List Char → Option (List Char × List Char)
  | [] => none
  | c :: r => if c = '\x7d' then some ([], r) else (splitName? r).map fun (n, r) => (c :: n, r)

theorem length_of_splitName? {s n r : List Char} (h : splitName? s = some (n, r)) :
    r.length < s.length := by
  induction s generalizing n r with
  | nil => simp [splitName?] at h
  | cons c s ih =>
    simp only [splitName?] at h
    split at h
    · simp only [Option.some.injEq, Prod.mk.injEq] at h
      simp [h.2]
    · obtain ⟨⟨n', r'⟩, hs, he⟩ := Option.map_eq_some_iff.mp h
      simp only [Prod.mk.injEq] at he
      obtain ⟨-, rfl⟩ := he
      have := ih hs
      simp only [List.length_cons]
      omega

/-- The pieces of a text, read from left to right. -/
def parse (s : List Char) : Template :=
  match s with
  | [] => []
  | '$' :: '\x7b' :: r =>
    match h : splitName? r with
    | some (n, r') =>
      have := length_of_splitName? h
      .name n :: parse r'
    | none => [.text ('$' :: '\x7b' :: r)]
  | c :: r => .text [c] :: parse r
termination_by s.length
decreasing_by all_goals simp_all only [List.length_cons]; omega

/-- The text of a template under a meaning of the names. -/
def render (meaning : List Char → List Char) (t : Template) : List Char :=
  t.flatMap fun
    | .text cs => cs
    | .name n => meaning n

end Template

/-- What the patterns of a rule found, field by field in the order of the rule. -/
structure Context where
  fields : List FieldMatch := []

namespace Context

def field? (c : Context) (f : Field) : Option FieldMatch := c.fields.find? (·.field = f)

/-- A group by its number in the match of a field. -/
def group? (c : Context) (f : Field) (i : Nat) : Option String :=
  (c.field? f).bind fun m => (m.groups[i]?).join

/-- The first group of a name. -/
def named? (c : Context) (name : String) : Option String :=
  c.fields.findSome? fun m => m.named.get? name

/-- A template with every name replaced by the group of that name, or by nothing. -/
def expand (c : Context) (template : String) : String :=
  String.ofList <| (Template.parse template.toList).render fun n =>
    ((c.named? (String.ofList n)).getD "").toList

end Context

end DeclRules
