import DeclRules.Declaration.Form
import DeclRules.Declaration.Kind
import DeclRules.Text.Blank

/-! Declarations, and the text that patterns see of each field. -/

namespace DeclRules

structure Declaration where
  kind : Kind
  /-- The enclosing scope, empty at top level. -/
  container : String := ""
  name : String
  access : Access := .unspecified
  /-- Parameters of a function, text of a container, target of a typedef. -/
  signature : String := ""
  form : Form := .empty

/-- A name with the scope in front of it, if there is one. -/
def qualifiedName (container name : String) : String :=
  if container.isEmpty then name else container ++ "::" ++ name

namespace Declaration

def qualified (d : Declaration) : String := qualifiedName d.container d.name

/-- The declaration with its signature in canonical spelling. -/
def normalize (d : Declaration) : Declaration :=
  { d with signature := Text.collapse d.signature }

/-- The text that a pattern for the field is matched against. -/
def field (d : Declaration) : Field → String
  | .container => d.container
  | .name => d.name
  | .access => d.access.text
  | .result => (d.form.text? Form.result).getD ""
  | .parameters | .declaration => d.signature
  | .templateParameters => d.form.joined Form.templateParameters
  | .baseSpecifiers => d.form.joined Form.baseSpecifiers

end Declaration

end DeclRules
