import DeclRules.Json.Printer

/-! The form of a declaration: its editable attributes, by name. -/

namespace DeclRules

open Json

abbrev Form := Keyed Value

namespace Form

/-- The attributes that rules refer to by themselves. -/
def baseSpecifiers : String := "base_specifiers"
def decl : String := "decl"
def result : String := "fn_result"
def templateParameters : String := "template_parameters"
def annotations : String := "annotations"

/-- The attribute, if it is a string. -/
def text? (f : Form) (k : String) : Option String := (f.get? k).bind Value.string?

/-- The strings in a list attribute; a string attribute counts as a list of one. -/
def list (f : Form) (k : String) : List String :=
  match f.get? k with
  | some (.array items) => items.filterMap Value.string?
  | some (.string s) => [s]
  | _ => []

def joined (f : Form) (k : String) : String := ", ".intercalate (f.list k)

/-- An attribute that should be a list and is not. -/
structure NotAList where
  key : String
  value : Value

def NotAList.message (e : NotAList) : String :=
  "attribute '" ++ e.key ++ "' is not a list: " ++ e.value.text

/-- Appends a string to a list attribute that does not hold it yet; a missing attribute counts
as the empty list. -/
def pushUnique (f : Form) (k item : String) : Except NotAList Form :=
  match f.get? k with
  | none => .ok (f.insert k (.array [.string item]))
  | some (.array items) =>
    if item ∈ items.filterMap Value.string? then .ok f
    else .ok (f.insert k (.array (items ++ [.string item])))
  | some v => .error ⟨k, v⟩

/-- The attributes of `f` that `g` lacks or has with a value that is not equal. -/
def alteredKeys (f g : Form) : List String :=
  (f.entries.filter fun e => !(g.get? e.1).any (·.agrees e.2)).map (·.1)

/-- The attributes of `g` that `f` lacks. -/
def addedKeys (f g : Form) : List String := g.keys.filter fun k => (f.get? k).isNone

/-- The attributes at which two forms differ, in order. -/
def changedKeys (f g : Form) : List String :=
  (alteredKeys f g ++ addedKeys f g).mergeSort fun a b => decide (a ≤ b)

end Form

end DeclRules
