import DeclRules.Json.Value
import Mathlib

/-! # Equal values

Floats are equal if they stand for the same number (`Decimal.Binary64.agrees_iff_scaled`), and as
only the zeros stand for the same number twice, values are equal if they are the same once their
zeros have lost their signs (`Json.Value.agrees_iff`). Equality is therefore an equivalence, and an
integer is equal to no float. -/

namespace DeclRules

namespace Decimal

theorem Magnitude.scaled_of_lt {b : Nat} (h : b < 2 ^ 52) : scaled b = b := if_pos h

theorem Magnitude.scaled_of_le {b : Nat} (h : 2 ^ 52 ≤ b) :
    scaled b = (2 ^ 52 + b % 2 ^ 52) * 2 ^ (b / 2 ^ 52 - 1) := if_neg (Nat.not_lt.mpr h)

/-- A greater magnitude stands for a greater number. -/
theorem Magnitude.strictMono_scaled : StrictMono scaled := by
  refine strictMono_nat_of_lt_succ fun b => ?_
  rcases Nat.lt_trichotomy (b + 1) (2 ^ 52) with hlt | heq | hgt
  · rw [scaled_of_lt hlt, scaled_of_lt (by omega)]
    exact Nat.lt_succ_self b
  · rw [scaled_of_lt (by omega), heq]
    exact Nat.lt_of_lt_of_le (by omega) (by decide : 2 ^ 52 ≤ scaled (2 ^ 52))
  · rw [scaled_of_le (by omega), scaled_of_le (by omega)]
    by_cases hcarry : b % 2 ^ 52 + 1 < 2 ^ 52
    · have hdiv : (b + 1) / 2 ^ 52 = b / 2 ^ 52 := by omega
      have hmod : (b + 1) % 2 ^ 52 = b % 2 ^ 52 + 1 := by omega
      rw [hdiv, hmod]
      exact Nat.mul_lt_mul_of_pos_right (by omega) (Nat.two_pow_pos _)
    · -- the next number has the next exponent
      have hdiv : (b + 1) / 2 ^ 52 - 1 = (b / 2 ^ 52 - 1) + 1 := by omega
      have hmod : (b + 1) % 2 ^ 52 = 0 := by omega
      rw [hdiv, hmod]
      calc (2 ^ 52 + b % 2 ^ 52) * 2 ^ (b / 2 ^ 52 - 1)
          < ((2 ^ 52 + 0) * 2) * 2 ^ (b / 2 ^ 52 - 1) :=
            Nat.mul_lt_mul_of_pos_right (by omega) (Nat.two_pow_pos _)
        _ = (2 ^ 52 + 0) * 2 ^ (b / 2 ^ 52 - 1 + 1) := by rw [Nat.mul_assoc, ← Nat.pow_succ']

namespace Binary64

variable {x y : Binary64}

/-- The number that a float stands for, in units of the least positive one. -/
def scaled (x : Binary64) : Int :=
  if x.negative then -(Magnitude.scaled x.magnitude : Int) else Magnitude.scaled x.magnitude

/-- A zero without its sign; other numbers as they are. -/
def unsignZero (x : Binary64) : Binary64 := if x.magnitude = 0 then zero false else x

theorem agrees_iff : x.agrees y = true ↔ x.unsignZero = y.unsignZero := by
  obtain ⟨s, a, ha⟩ := x
  obtain ⟨t, b, hb⟩ := y
  simp only [agrees, unsignZero, zero, Bool.and_eq_true, Bool.or_eq_true, beq_iff_eq]
  by_cases ha₀ : a = 0
  · by_cases hb₀ : b = 0
    · simp [ha₀, hb₀]
    · simp [ha₀, hb₀, Ne.symm hb₀]
  · by_cases hb₀ : b = 0
    · simp [ha₀, hb₀]
    · simp [ha₀, hb₀, and_comm]

theorem agrees_iff_scaled : x.agrees y = true ↔ x.scaled = y.scaled := by
  have hinj (a b : Nat) : Magnitude.scaled a = Magnitude.scaled b ↔ a = b :=
    Magnitude.strictMono_scaled.injective.eq_iff
  have hzero (a : Nat) : Magnitude.scaled a = 0 ↔ a = 0 := hinj a 0
  have hx := hinj x.magnitude y.magnitude
  have hx₀ := hzero x.magnitude
  have hy₀ := hzero y.magnitude
  simp only [agrees, scaled, Bool.and_eq_true, Bool.or_eq_true, beq_iff_eq]
  cases x.negative <;> cases y.negative <;> simp <;> omega

end Binary64

end Decimal

namespace Json

/-- The number with its sign taken off if it is a zero. -/
def Number.unsignZero : Number → Number
  | int n => int n
  | real x => real x.unsignZero

theorem Number.agrees_iff {m n : Number} : m.agrees n = true ↔ m.unsignZero = n.unsignZero := by
  cases m <;> cases n <;> simp [agrees, unsignZero, Decimal.Binary64.agrees_iff]

namespace Value

mutual

/-- The value with the signs taken off all zeros in it. -/
def unsignZeros : Value → Value
  | null => null
  | bool b => bool b
  | number n => number n.unsignZero
  | string s => string s
  | array items => array (unsignItems items)
  | object members => object (unsignMembers members)

def unsignItems : List Value → List Value
  | [] => []
  | v :: l => v.unsignZeros :: unsignItems l

def unsignMembers : List (String × Value) → List (String × Value)
  | [] => []
  | (k, v) :: l => (k, v.unsignZeros) :: unsignMembers l

end

theorem unsignMembers_eq (l : List (String × Value)) :
    unsignMembers l = l.map fun e => (e.1, e.2.unsignZeros) := by
  induction l with
  | nil => rfl
  | cons e l ih => rw [unsignMembers, ih, List.map_cons]

mutual

theorem agrees_iff (v w : Value) : v.agrees w = true ↔ v.unsignZeros = w.unsignZeros := by
  cases v <;> cases w <;> simp [agrees, unsignZeros]
  case number m n => exact Number.agrees_iff
  case array l m => exact agreesItems_iff l m
  case object l m => exact agreesMembers_iff l m

theorem agreesItems_iff (l m : List Value) :
    agreesItems l m = true ↔ unsignItems l = unsignItems m := by
  cases l <;> cases m <;> simp [agreesItems, unsignItems]
  case cons v l w m => rw [agrees_iff v w, agreesItems_iff l m]

theorem agreesMembers_iff (l m : List (String × Value)) :
    agreesMembers l m = true ↔ unsignMembers l = unsignMembers m := by
  cases l <;> cases m <;> simp [agreesMembers, unsignMembers]
  case cons v l w m => rw [agrees_iff v.2 w.2, agreesMembers_iff l m]

end

end Value

end Json

end DeclRules
