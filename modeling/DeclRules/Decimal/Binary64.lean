/-! Finite binary floating-point numbers of 64 bits, with rounding in exact natural-number
arithmetic. A number is a sign and a magnitude; magnitudes are the bit patterns without the
sign bit, which are in the order of the values they stand for. The magnitude nearest to a decimal
is found without its power of ten where that is far out of range. -/

namespace DeclRules.Decimal

namespace Magnitude

/-- The first pattern that is no finite number; as a result of rounding it means overflow. -/
def infinity : Nat := 2047 * Nat.pow 2 52

/-- The value in units of the least positive number, `2 ^ -1074`. -/
def scaled (b : Nat) : Nat :=
  if b < Nat.pow 2 52 then b
  else (Nat.pow 2 52 + b % Nat.pow 2 52) * Nat.pow 2 (b / Nat.pow 2 52 - 1)

/-- The integer nearest to a quotient, the even one of two. -/
def roundEven (num den : Nat) : Nat :=
  let q := num / den
  let r := num % den
  if 2 * r < den then q
  else if den < 2 * r then q + 1
  else if q % 2 = 0 then q
  else q + 1

/-- The magnitude nearest to a quotient, the even one of two. -/
def nearest (num den : Nat) : Nat :=
  let n := num * Nat.pow 2 1074
  let shift := (n / den).log2 - 52
  min infinity (shift * Nat.pow 2 52 + roundEven n (den * Nat.pow 2 shift))

def mul (a b : Nat) : Nat := nearest (scaled a * scaled b) (Nat.pow 2 2148)

def div (a b : Nat) : Nat := nearest (scaled a) (scaled b)

end Magnitude

/-- A finite number; the two zeros are different values of the type. -/
structure Binary64 where
  negative : Bool
  magnitude : Nat
  finite : magnitude < Magnitude.infinity := by decide
deriving DecidableEq

namespace Binary64

def zero (negative : Bool) : Binary64 := { negative, magnitude := 0 }

/-- The number with a given magnitude, if that is finite. -/
def ofMagnitude? (negative : Bool) (b : Nat) : Option Binary64 :=
  if h : b < Magnitude.infinity then some ⟨negative, b, h⟩ else none

/-- Numeric equality, for which the two zeros are one. -/
def agrees (x y : Binary64) : Bool :=
  x.magnitude == y.magnitude && (x.negative == y.negative || x.magnitude == 0)

end Binary64

/-- The magnitude nearest to `digits * 10 ^ exponent`. Exponents so far out that the result is
zero or overflows whatever the digits are settled without the power. -/
def nearest (digits : Nat) (exponent : Int) : Nat :=
  let order := exponent + (Nat.toDigits 10 digits).length
  if digits = 0 ∨ order < -330 then 0
  else if 310 < order then Magnitude.infinity
  else match exponent with
    | .ofNat k => Magnitude.nearest (digits * Nat.pow 10 k) 1
    | .negSucc k => Magnitude.nearest digits (Nat.pow 10 (k + 1))

end DeclRules.Decimal
