import DeclRules.Rule.StandardActionToml
import DeclRules.RuleFile.Basic
import DeclRules.Toml.Document

/-! Reading rule files. Members are taken in the order of the file, and the first complaint
counts; members that are missing are looked for last. -/

namespace DeclRules.RuleFile

open Toml

/-- The parts of a rule met so far. -/
structure Parts where
  named : List (Field × String) := []
  positional : Option (List String) := none
  action : Option StandardAction := none

def Parts.row (p : Parts) (a : StandardAction) : Row where
  named f := p.named.lookup f
  positional := p.positional
  action := a

/-- The names of the members of a rule. -/
def rowMembers : List String := Field.all.map Field.text ++ ["patterns", "action"]

def rowMember (p : Parts) (m : String × Toml.Value) : Decoded Parts := do
  match Field.named.lookup m.1 with
  | some f => return { p with named := (f, ← m.2.toText "a string") :: p.named }
  | none =>
    match m.1 with
    | "patterns" => return { p with positional := some (← m.2.toTexts "a string") }
    | "action" => return { p with action := some (← StandardAction.ofToml m.2) }
    | k => throw (.unknownField k rowMembers)

/-- A rule by its members in order: a pattern for every field, patterns once more, an action. -/
def rowOfItems (items : List Toml.Value) : Decoded Row := do
  let lacking : Complaint := .invalidLength items.length "struct RuleDef with 10 elements"
  let named ← (Field.all.zip items).mapM fun (f, v) => do return (f, ← v.toText "a string")
  match items.drop Field.all.length with
  | [] => throw lacking
  | patterns :: rest =>
    let positional ← patterns.toTexts "a string"
    match rest with
    | [] => throw lacking
    | action :: _ => return Parts.row { named, positional } (← StandardAction.ofToml action)

def decodeRow (v : Toml.Value) : Decoded Row :=
  match v with
  | .array items => rowOfItems items
  | v =>
    match v.members? with
    | none => .error (v.mismatch "struct RuleDef")
    | some members => do
      let p ← members.foldlM rowMember {}
      let some a := p.action | throw (.missingField "action")
      return p.row a

/-- What a file says about the ruleset itself. -/
structure Head where
  name : Option RulesetName := none
  parents : List Path := []
  description : Option String := none

/-- The names of the members of a head. -/
def headMembers : List String := ["name", "extends", "description"]

def headMember (h : Head) (m : String × Toml.Value) : Decoded Head := do
  match m.1 with
  | "name" => return { h with name := some (← RulesetName.parse (← m.2.toText "a string")) }
  | "extends" => return { h with parents := ← m.2.toTexts "path string" }
  | "description" => return { h with description := some (← m.2.toText "a string") }
  | k => throw (.unknownField k headMembers)

/-- A head by its members in order, of which only the name must be there. -/
def headOfItems (items : List Toml.Value) : Decoded Head := do
  if items.isEmpty then throw (.invalidLength 0 "struct RulesetMeta with 3 elements")
  (headMembers.zip items).foldlM headMember {}

def decodeHead (v : Toml.Value) : Decoded Head :=
  match v with
  | .array items => headOfItems items
  | v =>
    match v.members? with
    | none => .error (v.mismatch "struct RulesetMeta")
    | some members => do
      let h ← members.foldlM headMember {}
      if h.name.isNone then throw (.missingField "name")
      return h

/-- The names of the members of a file. -/
def fileMembers : List String := "ruleset" :: Kind.all.map Kind.text

def fileMember (f : Option Head × List (Kind × List Row)) (m : String × Toml.Value) :
    Decoded (Option Head × List (Kind × List Row)) := do
  match Kind.named.lookup m.1 with
  | some k => return (f.1, (k, ← (← m.2.toItems).mapM decodeRow) :: f.2)
  | none =>
    if m.1 = "ruleset" then return (some (← decodeHead m.2), f.2)
    throw (.unknownField m.1 fileMembers)

/-- What the members of a file say. -/
def decode (members : List (String × Toml.Value)) : Decoded RuleFile := do
  let (head, rows) ← members.foldlM fileMember (none, [])
  let some head := head | throw (.missingField "ruleset")
  let some name := head.name | throw (.missingField "name")
  return {
    name
    parents := head.parents
    description := head.description
    rows := fun k => (rows.lookup k).getD [] }

/-- The contents of the file at a path. -/
def parse (path : Path) (text : String) : Except ConfigError RuleFile :=
  match Toml.read text with
  | none => .error (.malformedFile path .malformed)
  | some members => (decode members).mapError (.malformedFile path)

end DeclRules.RuleFile
