import DeclRules.Decimal.Binary64

/-! The shortest decimal that reads back as a given binary number: of all decimals with the
fewest digits among those that round to the number, the one nearest to it. -/

namespace DeclRules.Decimal

/-- A positive decimal `digits * 10 ^ exponent`. -/
structure Digits where
  digits : Nat
  exponent : Int
deriving DecidableEq

namespace Digits

/-- The number of decimal digits of a natural number. -/
def width (n : Nat) : Nat := (Nat.toDigits 10 n).length

/-- Without trailing zeros in the digits. -/
def strip (fuel : Nat) (d : Digits) : Digits :=
  match fuel with
  | 0 => d
  | fuel + 1 =>
    if d.digits ≠ 0 ∧ d.digits % 10 = 0 then strip fuel ⟨d.digits / 10, d.exponent + 1⟩ else d

end Digits

/-- The numerator and denominator of `num / den` divided by `10 ^ k`. -/
def scaleTen (num den : Nat) (k : Int) : Nat × Nat :=
  match k with
  | .ofNat k => (num, den * Nat.pow 10 k)
  | .negSucc k => (num * Nat.pow 10 (k + 1), den)

/-- The decimal exponent `p` with `10 ^ p ≤ num / den < 10 ^ (p + 1)`, if `den` is a power of
two. -/
def decimalExponent (num den : Nat) : Int :=
  if den ≤ num then (Digits.width (num / den) : Int) - 1 else -(Digits.width (den / num) : Int)

/-- The shortest decimal of a positive magnitude. Twice and four times the distance to the
neighbours keep the ends of the rounding interval integral; they belong to it if the last bit
of the magnitude is zero. -/
def shortest (b : Nat) : Digits :=
  let unit := Nat.pow 2 (b / Nat.pow 2 52 - 1)
  let value := 4 * Magnitude.scaled b
  let low := value - (if b % Nat.pow 2 52 = 0 ∧ Nat.pow 2 52 < b then unit else 2 * unit)
  let high := value + 2 * unit
  let den := Nat.pow 2 1076
  let p := decimalExponent value den
  let hit (count : Nat) : Option Digits :=
    let k := p - count + 1
    let (n, d) := scaleTen value den k
    let down := n / d
    let inside (m : Nat) : Bool :=
      let (a, c) := match k with
        | .ofNat k => (m * Nat.pow 10 k * den, 1)
        | .negSucc k => (m * den, Nat.pow 10 (k + 1))
      if b % 2 = 0 then low * c ≤ a && a ≤ high * c else low * c < a && a < high * c
    let nearUp := d < 2 * (n % d) || (d == 2 * (n % d) && down % 2 == 1)
    match inside down && down != 0, inside (down + 1) with
    | true, true => some ⟨if nearUp then down + 1 else down, k⟩
    | true, false => some ⟨down, k⟩
    | false, true => some ⟨down + 1, k⟩
    | false, false => none
  let digits := ((List.range 17).findSome? fun i => hit (i + 1)).getD ⟨0, 0⟩
  digits.strip 20

namespace Binary64

def zeros (n : Nat) : String := String.ofList (List.replicate n '0')

/-- Digits with a point after the first `point` of them, where `point` may lie outside. -/
def positional (digits : String) (point : Int) : String :=
  if point ≤ 0 then "0." ++ zeros (-point).toNat ++ digits
  else
    let n := point.toNat
    if digits.length ≤ n then digits ++ zeros (n - digits.length) ++ ".0"
    else (digits.take n).toString ++ "." ++ (digits.drop n).toString

/-- The first digit, the others after a point, and a signed exponent. -/
def scientific (digits : String) (exponent : Int) : String :=
  (digits.take 1).toString ++
    (if digits.length ≤ 1 then "" else "." ++ (digits.drop 1).toString) ++
    "e" ++ (if exponent < 0 then "-" else "+") ++ toString exponent.natAbs

/-- The text of a number: positional if `isPlain` holds of its decimal exponent, else
scientific. -/
def text (isPlain : Int → Bool) (x : Binary64) : String :=
  (if x.negative then "-" else "") ++
    if x.magnitude = 0 then "0.0"
    else
      let d := shortest x.magnitude
      let digits := toString d.digits
      let exponent := d.exponent + digits.length - 1
      if isPlain exponent then positional digits (exponent + 1) else scientific digits exponent

end Binary64

end DeclRules.Decimal
