import DeclRules.Keyed
import DeclRules.Decimal.Binary64

/-! JSON values. Numbers keep the two worlds apart: an integer is never equal to a number with a
fraction or an exponent, whatever its value. -/

namespace DeclRules.Json

open Decimal

/-- A number as written: an integer that fits 64 bits, signed or not, or a binary float. -/
inductive Number where
  | int (n : Int)
  | real (x : Binary64)
deriving DecidableEq

namespace Number

/-- Integers that have a place of their own; others are read as floats. -/
def InRange (n : Int) : Prop := -0x8000000000000000 ≤ n ∧ n < 0x10000000000000000

instance (n : Int) : Decidable (InRange n) := inferInstanceAs (Decidable (_ ∧ _))

def agrees : Number → Number → Bool
  | int m, int n => m == n
  | real x, real y => x.agrees y
  | _, _ => false

end Number

/-- The members of an object stand in the order of their keys. -/
inductive Value where
  | null
  | bool (b : Bool)
  | number (n : Number)
  | string (s : String)
  | array (items : List Value)
  | object (members : List (String × Value))

namespace Value

instance : Inhabited Value := ⟨null⟩

def int (n : Int) : Value := number (.int n)

def nat (n : Nat) : Value := int n

/-- The object of the given members, of which a later one replaces an earlier one. -/
def ofMembers (l : List (String × Value)) : Value := object (Keyed.ofList l).entries

def string? : Value → Option String
  | string s => some s
  | _ => none

mutual

/-- Equality of values, numbers compared as `Number.agrees` says. -/
def agrees : Value → Value → Bool
  | null, null => true
  | bool a, bool b => a == b
  | number m, number n => m.agrees n
  | string s, string t => s == t
  | array l, array m => agreesItems l m
  | object l, object m => agreesMembers l m
  | _, _ => false

def agreesItems : List Value → List Value → Bool
  | [], [] => true
  | v :: l, w :: m => v.agrees w && agreesItems l m
  | _, _ => false

def agreesMembers : List (String × Value) → List (String × Value) → Bool
  | [], [] => true
  | (k, v) :: l, (k', w) :: m => k == k' && v.agrees w && agreesMembers l m
  | _, _ => false

end

end Value

end DeclRules.Json
