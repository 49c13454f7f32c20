import DeclRules.Rule.StandardActionJson
import DeclRules.Toml.Value

/-! Standard actions in rule files: the name of an action, or a table whose only key is the name
and whose value is what the action needs. -/

namespace DeclRules.StandardAction

open Toml

/-- An action by its name alone. -/
def ofName (name : String) : Decoded StandardAction :=
  match plain.lookup name with
  | some a => .ok a
  | none =>
    if (textual.lookup name).isSome then .error (.invalidType .unitVariant "newtype variant")
    else if name = "set" then .error (.invalidType .unitVariant "struct variant")
    else .error (.unknownVariant name names)

/-- Nothing is written as an empty table or array. -/
def isNothing : Toml.Value → Bool
  | .table [] | .array [] => true
  | _ => false

private def lacking (n : Nat) : Complaint := .invalidLength n (setContent ++ " with 2 elements")

/-- Key and value of a setting, by name or in order. A table may hold nothing else; of an array
the rest is passed over. -/
def ofSettingToml (v : Toml.Value) : Decoded StandardAction :=
  match v with
  | .array [] => .error (lacking 0)
  | .array (k :: items) => do
    let key ← k.toText "a string"
    match items with
    | [] => throw (lacking 1)
    | w :: _ => return set key w.toJson
  | v =>
    match v.members? with
    | none => .error (v.mismatch setContent)
    | some members => do
      if v matches .table _ ∧ members.any fun m => m.1 ≠ "key" ∧ m.1 ≠ "value" then
        throw .malformed
      let key ← (members.lookup "key").mapM (·.toText "a string")
      let some key := key | throw (.missingField "key")
      let some w := members.lookup "value" | throw (.missingField "value")
      return set key w.toJson

/-- An action by its name and what stands under it. -/
def ofNamed (name : String) (v : Toml.Value) : Decoded StandardAction :=
  match plain.lookup name, textual.lookup name with
  | some a, _ => if isNothing v then .ok a else .error .malformed
  | none, some make => return make (← v.toText "a string")
  | none, none => if name = "set" then ofSettingToml v else .error (.unknownVariant name names)

def ofToml : Toml.Value → Decoded StandardAction
  | .string name => ofName name
  | .table [(name, v)] => ofNamed name v
  | _ => .error .malformed

end DeclRules.StandardAction
