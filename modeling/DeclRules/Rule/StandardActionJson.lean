import DeclRules.Json.Decode
import DeclRules.Rule.StandardAction

/-! Standard actions as JSON: the name of an action, or an object whose only key is the name and
whose value is what the action needs. -/

namespace DeclRules.StandardAction

open Json

/-- The actions that need nothing. -/
def plain : List (String × StandardAction) := [
  ("discard", discard),
  ("discard_base", discardBase),
  ("mark_external", markExternal),
  ("mark_abstract", markAbstract),
  ("noop", noop)]

/-- The actions that need a text. -/
def textual : List (String × (String → StandardAction)) := [
  ("rewrite_decl", rewriteDecl),
  ("rewrite_result", rewriteResult),
  ("annotate", annotate),
  ("remove", remove)]

/-- The names of all actions, in the order in which complaints list them. -/
def names : List String := plain.map (·.1) ++ textual.map (·.1) ++ ["set"]

/-- What complaints call the content of `set`. -/
def setContent : String := "struct variant ActionSpec::Set"

/-- The content of an action that needs a text. -/
def ofText (make : String → StandardAction) : Option Document → Decoded StandardAction
  | none => .error (.invalidType .unitVariant "newtype variant")
  | some d => return make (← d.toText "a string")

/-- The arrays and objects that may stand inside a value to set: it is itself inside two. -/
private def room : Nat := maxNesting - 2

private def setMember (key : String) (d : Document) (m : Option String × Option Value) :
    Decoded (Option (Option String × Option Value)) := do
  match key with
  | "key" =>
    if m.1.isSome then throw (.duplicateField "key")
    return some (some (← d.toText "a string"), m.2)
  | "value" =>
    if m.2.isSome then throw (.duplicateField "value")
    return some (m.1, some (← d.toValue room))
  | _ => return none

private def setItems (source : Source) (items : List Document) (closed : Bool) :
    Decoded StandardAction := do
  let lacking (n : Nat) : Complaint := .invalidLength n (setContent ++ " with 2 elements")
  let some (d, rest) ← Document.nextItem items closed | throw (lacking 0)
  let key ← d.toText "a string"
  let some (d, rest) ← Document.nextItem rest closed | throw (lacking 1)
  let value ← d.toValue room
  Document.noMoreItems source items.length rest closed
  return set key value

/-- The content of `set`: key and value, as an object or in text also as an array. -/
def ofSetting (source : Source) : Option Document → Decoded StandardAction
  | none => .error (.invalidType .unitVariant "struct variant")
  | some (.object members closed) => do
    let (key, value) ← Document.foldFields setMember members (none, none)
    Document.ensureClosed closed
    let some key := key | throw (.missingField "key")
    let some value := value | throw (.missingField "value")
    return set key value
  | some (.array items closed) =>
    match source with
    | .text => setItems source items closed
    | .value => .error (.invalidType .sequence "struct variant")
  | some d => .error (d.mismatch (match source with
    | .text => setContent
    | .value => "struct variant"))

def decode (source : Source) : Document → Decoded StandardAction :=
  Document.toChoice source (
    plain.map (fun (n, a) => (n, Document.bare a))
    ++ textual.map (fun (n, make) => (n, ofText make))
    ++ [("set", ofSetting source)])

def toJson : StandardAction → Value
  | discard => .string "discard"
  | discardBase => .string "discard_base"
  | markExternal => .string "mark_external"
  | markAbstract => .string "mark_abstract"
  | noop => .string "noop"
  | rewriteDecl template => .object [("rewrite_decl", .string template)]
  | rewriteResult template => .object [("rewrite_result", .string template)]
  | annotate mark => .object [("annotate", .string mark)]
  | remove key => .object [("remove", .string key)]
  | set key value => .object [("set", .object [("key", .string key), ("value", value)])]

def text (a : StandardAction) : String := a.toJson.text

end DeclRules.StandardAction
