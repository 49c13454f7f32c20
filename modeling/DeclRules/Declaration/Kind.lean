/-! The kinds of declaration, the fields that rules of each kind match on, and access levels. -/

namespace DeclRules

/-- A field of a declaration that a pattern can match. -/
inductive Field where
  | container
  | name
  | access
  | result
  | parameters
  | templateParameters
  | declaration
  | baseSpecifiers
deriving DecidableEq, Inhabited

namespace Field

def all : List Field :=
  [container, name, access, result, parameters, templateParameters, declaration, baseSpecifiers]

def text : Field → String
  | container => "container"
  | name => "name"
  | access => "access"
  | result => "result"
  | parameters => "parameters"
  | templateParameters => "template_parameters"
  | declaration => "declaration"
  | baseSpecifiers => "base_specifiers"

/-- The field of each name. -/
def named : List (String × Field) := all.map fun f => (f.text, f)

end Field

inductive Kind where
  | function
  | container
  | typedef
  | forwardDeclaration
deriving DecidableEq, Inhabited

namespace Kind

/-- All kinds, in the order in which tables are compiled and reported. -/
def all : List Kind := [function, container, typedef, forwardDeclaration]

def text : Kind → String
  | function => "function"
  | container => "container"
  | typedef => "typedef"
  | forwardDeclaration => "forward_declaration"

/-- The kind of each name. -/
def named : List (String × Kind) := all.map fun k => (k.text, k)

/-- The fields a rule of the kind matches on, in the order of its patterns. -/
def fields : Kind → List Field
  | function => [.container, .name, .access, .result, .parameters]
  | container => [.container, .name, .templateParameters, .declaration, .baseSpecifiers]
  | typedef => [.container, .name]
  | forwardDeclaration => [.container, .name, .templateParameters]

/-- The number of patterns of a rule of the kind. -/
def arity (k : Kind) : Nat := k.fields.length

end Kind

inductive Access where
  | pub
  | prot
  | priv
  | unspecified
deriving DecidableEq, Inhabited

namespace Access

def all : List Access := [pub, prot, priv, unspecified]

def text : Access → String
  | pub => "public"
  | prot => "protected"
  | priv => "private"
  | unspecified => "unspecified"

/-- The access level of each name. -/
def named : List (String × Access) := all.map fun a => (a.text, a)

end Access

end DeclRules
