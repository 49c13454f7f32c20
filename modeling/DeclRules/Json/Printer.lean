import DeclRules.Decimal.Shortest
import DeclRules.Json.Value

/-! JSON text, written without blanks. Of the characters of a string only the quotation mark, the
backslash and the control characters below U+0020 are escaped. -/

namespace DeclRules.Json

open Decimal

def hexDigit (n : Nat) : Char := (Nat.digitChar n)

/-- A character inside a string literal. -/
def escape (c : Char) : List Char :=
  match c with
  | '"' => ['\\', '"']
  | '\\' => ['\\', '\\']
  | '\x08' => ['\\', 'b']
  | '\x0c' => ['\\', 'f']
  | '\n' => ['\\', 'n']
  | '\r' => ['\\', 'r']
  | '\t' => ['\\', 't']
  | c =>
    if c.toNat < 0x20 then
      ['\\', 'u', '0', '0', hexDigit (c.toNat / 16), hexDigit (c.toNat % 16)]
    else [c]

def printString (s : String) : List Char := '"' :: (s.toList.flatMap escape ++ ['"'])

/-- Floats are written with the fewest digits that read back: positional from `0.00001` up to
sixteen digits before the point, else with an exponent. -/
def Number.text : Number → String
  | int n => toString n
  | real x => x.text fun e => -5 ≤ e && e ≤ 15

/-- Items with a comma between neighbours. -/
def commas : List (List Char) → List Char
  | [] => []
  | [x] => x
  | x :: y :: l => x ++ ',' :: commas (y :: l)

namespace Value

mutual

def print : Value → List Char
  | null => "null".toList
  | bool true => "true".toList
  | bool false => "false".toList
  | number n => n.text.toList
  | string s => printString s
  | array items => '[' :: (commas (printItems items) ++ [']'])
  | object members => '{' :: (commas (printMembers members) ++ ['}'])

def printItems : List Value → List (List Char)
  | [] => []
  | v :: l => print v :: printItems l

def printMembers : List (String × Value) → List (List Char)
  | [] => []
  | (k, v) :: l => (printString k ++ ':' :: print v) :: printMembers l

end

def text (v : Value) : String := String.ofList v.print

end Value

end DeclRules.Json
