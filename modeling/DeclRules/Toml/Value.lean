import DeclRules.Complaint
import DeclRules.Decimal.Shortest
import DeclRules.Json.Value
import DeclRules.Toml.Datetime

/-! TOML values, and taking them for what they should be. The members of a table stand in the order
in which the table got them. -/

namespace DeclRules.Toml

open Decimal

inductive Real where
  | finite (x : Binary64)
  | infinite (negative : Bool)
  | nan
deriving DecidableEq

/-- Positional notation, however long. -/
def Real.text : Real → String
  | finite x => x.text fun _ => true
  | infinite negative => if negative then "-inf" else "inf"
  | nan => "NaN"

inductive Value where
  | string (s : String)
  | int (n : Int)
  | real (x : Real)
  | bool (b : Bool)
  | datetime (d : Datetime)
  | array (items : List Value)
  | table (members : List (String × Value))

namespace Value

instance : Inhabited Value := ⟨table []⟩

/-- The key under which a date or time stands alone in a table where it has to be one. -/
def datetimeKey : String := "$__toml_private_datetime"

mutual

/-- The same value in JSON, which has no numbers that are not finite. -/
def toJson : Value → Json.Value
  | string s => .string s
  | int n => .int n
  | real (.finite x) => .number (.real x)
  | real _ => .null
  | bool b => .bool b
  | datetime d => .object [(datetimeKey, .string d.text)]
  | array items => .array (toJsonItems items)
  | table members => .ofMembers (toJsonMembers members)

def toJsonItems : List Value → List Json.Value
  | [] => []
  | v :: l => toJson v :: toJsonItems l

def toJsonMembers : List (String × Value) → List (String × Json.Value)
  | [] => []
  | (k, v) :: l => (k, toJson v) :: toJsonMembers l

end

end Value

abbrev Decoded (α : Type) := Except Complaint α

namespace Value

/-- What a complaint calls the value. -/
def found : Value → Found
  | string s => .string s
  | int n => .integer n
  | real x => .real x.text
  | bool b => .bool b
  | datetime _ => .map
  | array _ => .sequence
  | table _ => .map

def mismatch (v : Value) (expected : String) : Complaint := .invalidType v.found expected

def toText (expected : String) : Value → Decoded String
  | string s => .ok s
  | v => .error (v.mismatch expected)

def toItems : Value → Decoded (List Value)
  | array items => .ok items
  | v => .error (v.mismatch "a sequence")

def toTexts (expected : String) (v : Value) : Decoded (List String) := do
  (← v.toItems).mapM (·.toText expected)

/-- The members of a value that can stand for a record by its keys. -/
def members? : Value → Option (List (String × Value))
  | table members => some members
  | datetime d => some [(datetimeKey, .string d.text)]
  | _ => none

end Value

end DeclRules.Toml
