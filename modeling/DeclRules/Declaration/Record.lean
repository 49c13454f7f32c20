import DeclRules.Declaration.Basic
import DeclRules.Json.Decode

/-! Declarations as JSON: an object of six members, or an array of them in order, the last ones
optional. They are written as objects with every member present. -/

namespace DeclRules

open Json

/-- A kind by its name. -/
def Kind.decode (source : Source) : Document → Decoded Kind :=
  Document.toChoice source (Kind.named.map fun (s, k) => (s, Document.bare k))

/-- A field by its name. -/
def Field.decode (source : Source) : Document → Decoded Field :=
  Document.toChoice source (Field.named.map fun (s, f) => (s, Document.bare f))

/-- An access level by its name. -/
def Access.decode (source : Source) : Document → Decoded Access :=
  Document.toChoice source (Access.named.map fun (s, a) => (s, Document.bare a))

namespace Declaration

/-- The members met so far. -/
structure Members where
  kind : Option Kind := none
  container : Option String := none
  name : Option String := none
  access : Option Access := none
  signature : Option String := none
  form : Option Form := none

/-- Reads a member that may not have been read before. -/
def once {α : Type} (key : String) (old : Option α) (read : Decoded α) : Decoded α :=
  if old.isSome then .error (.duplicateField key) else read

def member (source : Source) (room : Nat) (key : String) (d : Document) (m : Members) :
    Decoded (Option Members) := do
  match key with
  | "kind" => return some { m with kind := ← once key m.kind (Kind.decode source d) }
  | "container" => return some { m with container := ← once key m.container (d.toText "a string") }
  | "name" => return some { m with name := ← once key m.name (d.toText "a string") }
  | "access" => return some { m with access := ← once key m.access (Access.decode source d) }
  | "signature" => return some { m with signature := ← once key m.signature (d.toText "a string") }
  | "form" => return some { m with form := ← once key m.form (d.toKeyed room) }
  | _ => return none

def required {α : Type} (key : String) : Option α → Decoded α
  | some a => .ok a
  | none => .error (.missingField key)

def ofMembers (m : Members) : Decoded Declaration := do
  let kind ← required "kind" m.kind
  let name ← required "name" m.name
  return {
    kind, name
    container := m.container.getD ""
    access := m.access.getD .unspecified
    signature := m.signature.getD ""
    form := m.form.getD .empty }

def expected : String := "struct DeclarationRecord"

def ofItems (source : Source) (room : Nat) (items : List Document) (closed : Bool) :
    Decoded Declaration := do
  let count := items.length
  let lacking (n : Nat) : Complaint := .invalidLength n (expected ++ " with 6 elements")
  let some (d, items) ← Document.nextItem items closed | throw (lacking 0)
  let kind ← Kind.decode source d
  let some (d, items) ← Document.nextItem items closed | throw (lacking 2)
  let container ← d.toText "a string"
  let some (d, items) ← Document.nextItem items closed | throw (lacking 2)
  let name ← d.toText "a string"
  let declaration : Declaration := { kind, container, name }
  let some (d, items) ← Document.nextItem items closed | return declaration
  let declaration := { declaration with access := ← Access.decode source d }
  let some (d, items) ← Document.nextItem items closed | return declaration
  let declaration := { declaration with signature := ← d.toText "a string" }
  let some (d, items) ← Document.nextItem items closed | return declaration
  let declaration := { declaration with form := ← d.toKeyed room }
  Document.noMoreItems source count items closed
  return declaration

/-- Reads a declaration; further members of an object are passed over. -/
def decode (source : Source) : Document → Decoded Declaration
  | .object members closed => do
    let m ← Document.foldFields (member source (maxNesting - 1)) members {}
    Document.ensureClosed closed
    ofMembers m
  | .array items closed => ofItems source (maxNesting - 1) items closed
  | d => .error (d.mismatch expected)

def toJson (d : Declaration) : List (String × Value) := [
  ("kind", .string d.kind.text),
  ("container", .string d.container),
  ("name", .string d.name),
  ("access", .string d.access.text),
  ("signature", .string d.signature),
  ("form", .object d.form.entries)]

/-- The declaration as JSON text, its members in the order of the fields. -/
def print (d : Declaration) : List Char := (Value.object d.toJson).print

def text (d : Declaration) : String := String.ofList d.print

end Declaration

end DeclRules
