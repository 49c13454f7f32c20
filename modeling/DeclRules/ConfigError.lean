import DeclRules.Complaint
import DeclRules.Declaration.Basic
import DeclRules.Files.View
import DeclRules.Pattern.FieldPattern
import DeclRules.Rule.Basic

/-! What can be wrong with rules, with the wording of every error. -/

namespace DeclRules

inductive ConfigError where
  /-- A pattern of a rule does not compile. -/
  | invalidPattern (kind : Kind) (index : Nat) (origin : Option RulesetName) (pattern : String)
      (cause : PatternError)
  /-- A rule has not as many patterns as its kind has fields. -/
  | wrongArity (kind : Kind) (index : Nat) (origin : Option RulesetName) (count : Nat)
  /-- A rule of one kind stands in the table of another. -/
  | foreignRule (table kind : Kind) (index : Nat) (origin : Option RulesetName)
  /-- A declaration of one kind was looked up in the table of another. -/
  | foreignDeclaration (table kind : Kind) (qualified : String)
  | malformedFile (path : Path) (complaint : Complaint)
  /-- A rule in a file gives a pattern for a field that its kind does not match on. -/
  | foreignField (kind : Kind) (index : Nat) (field : Field)
  /-- A rule in a file gives patterns both by position and by field. -/
  | mixedPatterns (kind : Kind) (index : Nat)
  /-- Files extend each other in a circle; the last is the first again. -/
  | cycle (chain : List Path)
  /-- A path leads nowhere. -/
  | unreachable (path : Path) (fault : Fault)
  | unreadable (fault : Fault)

namespace ConfigError

def originSuffix : Option RulesetName → String
  | some n => " (from ruleset '" ++ n.text ++ "')"
  | none => ""

def ruleText (kind : Kind) (index : Nat) : String := kind.text ++ " rule #" ++ toString index

def message : ConfigError → String
  | invalidPattern kind index origin pattern cause =>
    "Invalid pattern '" ++ pattern ++ "' in " ++ ruleText kind index ++ originSuffix origin ++ ": "
      ++ cause.message
  | wrongArity kind index origin count =>
    "Wrong arity in " ++ ruleText kind index ++ originSuffix origin ++ ": expected "
      ++ toString kind.arity ++ " patterns, found " ++ toString count
  | foreignRule table kind index origin =>
    ruleText kind index ++ originSuffix origin ++ " used with the " ++ table.text ++ " rule table"
  | foreignDeclaration table kind qualified =>
    kind.text ++ " declaration '" ++ qualified ++ "' used with the " ++ table.text ++ " rule table"
  | malformedFile path complaint =>
    "Failed to parse " ++ path ++ ": " ++ complaint.message "<toml>"
  | foreignField kind index field =>
    "Invalid value for " ++ ruleText kind index ++ "." ++ field.text ++ ": " ++ kind.text
      ++ " rules do not match on '" ++ field.text ++ "'"
  | mixedPatterns kind index =>
    "Invalid value for " ++ ruleText kind index
      ++ ".patterns: positional patterns cannot be combined with named fields"
  | cycle chain => "Ruleset inheritance cycle: " ++ " -> ".intercalate chain
  | unreachable path fault => "I/O error: " ++ path ++ ": " ++ fault.message
  | unreadable fault => "I/O error: " ++ fault.message

end ConfigError

end DeclRules
