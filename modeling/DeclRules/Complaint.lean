import DeclRules.Unicode.Property

/-! What can be wrong with written data, with the wording of every complaint in one place. Text is
shown in double quotes: quotes and backslashes escaped, line breaks and tabs by letter, and every
other character that would not show by itself as a code point. -/

namespace DeclRules

namespace Text

open Unicode

/-- Characters that have a visible form, the space among them. -/
def printable : CharSet :=
  ((CharSet.unions [Category.other, Category.separator]).diff (.range 0x20 0x20)).compl

/-- Characters that join the one before them and so would not show by themselves. -/
def joining : CharSet := Property.graphemeExtend

def hexDigits (n : Nat) : String := String.ofList (Nat.toDigits 16 n)

def escape (c : Char) : String :=
  match c with
  | '\x00' => "\\0"
  | '\t' => "\\t"
  | '\r' => "\\r"
  | '\n' => "\\n"
  | '"' => "\\\""
  | '\\' => "\\\\"
  | c =>
    if printable.contains c && !joining.contains c then c.toString
    else "\\u\x7b" ++ hexDigits c.toNat ++ "\x7d"

def quoted (s : String) : String := "\"" ++ String.join (s.toList.map escape) ++ "\""

end Text

/-- What stands where something else was expected. -/
inductive Found where
  | null
  | bool (b : Bool)
  | integer (n : Int)
  | real (text : String)
  | string (s : String)
  | sequence
  | map
  | unitVariant
deriving DecidableEq

def Found.text : Found → String
  | null => "null"
  | bool b => "boolean `" ++ toString b ++ "`"
  | integer n => "integer `" ++ toString n ++ "`"
  | real text => "floating point `" ++ text ++ "`"
  | string s => "string " ++ Text.quoted s
  | sequence => "sequence"
  | map => "map"
  | unitVariant => "unit variant"

inductive Complaint where
  /-- The text breaks the grammar of its format. -/
  | malformed
  | missingField (name : String)
  | unknownField (name : String) (known : List String)
  | unknownVariant (name : String) (known : List String)
  | duplicateField (name : String)
  | invalidType (found : Found) (expected : String)
  /-- A sequence ended after `count` items. -/
  | invalidLength (count : Nat) (expected : String)
  | invalidName (name : String)
  | notUtf8
deriving DecidableEq

namespace Complaint

private def ticked (s : String) : String := "`" ++ s ++ "`"

/-- The names that would have been right. -/
def expectation : List String → String
  | [] => "there are no choices"
  | [a] => "expected " ++ ticked a
  | [a, b] => "expected " ++ ticked a ++ " or " ++ ticked b
  | l => "expected one of " ++ ", ".intercalate (l.map ticked)

/-- The wording; `grammar` stands for any breach of the format's grammar. -/
def message (grammar : String) : Complaint → String
  | malformed => grammar
  | missingField name => "missing field " ++ ticked name
  | unknownField name known => "unknown field " ++ ticked name ++ ", " ++ expectation known
  | unknownVariant name known => "unknown variant " ++ ticked name ++ ", " ++ expectation known
  | duplicateField name => "duplicate field " ++ ticked name
  | invalidType found expected => "invalid type: " ++ found.text ++ ", expected " ++ expected
  | invalidLength count expected =>
    "invalid length " ++ toString count ++ ", expected " ++ expected
  | invalidName name => "Invalid ruleset name: " ++ name
  | notUtf8 => "stream did not contain valid UTF-8"

end Complaint

end DeclRules
