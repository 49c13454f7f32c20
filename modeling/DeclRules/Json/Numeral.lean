import DeclRules.Json.Value
import DeclRules.Unicode.CharSet

/-! Number literals of JSON text and the numbers they denote. Digits are gathered into 64 bits:
of an integer part too long for them the rest only counts as powers of ten, of a fraction the
rest is dropped. What is not an integer is then the gathered number rounded to a float and
multiplied or divided by a rounded power of ten. -/

namespace DeclRules.Json

open Decimal

/-- A number literal; the digit lists are not empty, and no integer part starts with an idle
zero. -/
structure Numeral where
  negative : Bool
  whole : List Char
  fraction : Option (List Char)
  /-- The sign of the exponent, `true` for minus, and its digits. -/
  exponent : Option (Bool × List Char)

namespace Numeral

def digit (c : Char) : Nat := c.toNat - '0'.toNat

/-- The digits at the start of a text, and the rest. -/
def digits (s : List Char) : List Char × List Char := s.span Char.isDigit

def scanExponent (s : List Char) : Option (Option (Bool × List Char) × List Char) :=
  match s with
  | c :: r =>
    if c == 'e' || c == 'E' then
      let (negative, r) := match r with
        | '-' :: r => (true, r)
        | '+' :: r => (false, r)
        | r => (false, r)
      match digits r with
      | ([], _) => none
      | (ds, r) => some (some (negative, ds), r)
    else some (none, s)
  | [] => some (none, s)

/-- The literal at the start of a text, and the rest. -/
def scan (s : List Char) : Option (Numeral × List Char) :=
  let (negative, s) := match s with
    | '-' :: r => (true, r)
    | r => (false, r)
  match digits s with
  | ([], _) => none
  | (whole, s) =>
    if whole.head? == some '0' && whole.length ≠ 1 then none
    else
      match s with
      | '.' :: r =>
        match digits r with
        | ([], _) => none
        | (fraction, r) =>
          (scanExponent r).map fun (exponent, r) =>
            ({ negative, whole, fraction := some fraction, exponent }, r)
      | s => (scanExponent s).map fun (exponent, r) =>
          ({ negative, whole, fraction := none, exponent }, r)

/-- Gathers integer digits, and counts those that no longer fit. -/
def gather (n : Nat) : List Char → Nat × Nat
  | [] => (n, 0)
  | d :: ds => if 10 * n + digit d < 0x10000000000000000 then gather (10 * n + digit d) ds
    else (n, ds.length + 1)

/-- Gathers fraction digits as long as they fit, and counts those that did. -/
def gatherFraction (n : Nat) : List Char → Nat × Nat
  | [] => (n, 0)
  | d :: ds =>
    if 10 * n + digit d < 0x10000000000000000 then
      let (n, count) := gatherFraction (10 * n + digit d) ds
      (n, count + 1)
    else (n, 0)

/-- The value of exponent digits, if it fits 31 bits. -/
def exponentValue? (ds : List Char) : Option Nat :=
  let n := ds.foldl (fun n d => 10 * n + digit d) 0
  if n < 0x80000000 then some n else none

/-- The float of the magnitude `b` times `10 ^ e`; powers beyond `10 ^ 308` go in steps, which
end where nothing is left to divide. -/
def scale (steps : Nat) (b : Nat) (e : Int) : Nat :=
  let power (k : Nat) := Magnitude.nearest (Nat.pow 10 k) 1
  if 0 ≤ e ∧ e ≤ 308 then Magnitude.mul b (power e.toNat)
  else if e < 0 ∧ -308 ≤ e then Magnitude.div b (power (-e).toNat)
  else if b = 0 then 0
  else if 0 ≤ e then Magnitude.infinity
  else match steps with
    | 0 => 0
    | steps + 1 => scale steps (Magnitude.div b (power 308)) (e + 308)

/-- A gathered number times a power of ten, if that is finite. -/
def real (negative : Bool) (n : Nat) (e : Int) : Option Number :=
  (Binary64.ofMagnitude? negative (scale 3 (Magnitude.nearest n 1) e)).map .real

/-- The number of a literal; `none` if it is too large for a float. -/
def value (l : Numeral) : Option Number :=
  let (n, extra) := gather 0 l.whole
  let (n, places) := gatherFraction n (l.fraction.getD [])
  match l.fraction, l.exponent with
  | none, none =>
    if extra ≠ 0 then real l.negative n extra
    else if !l.negative then some (.int n)
    else if n = 0 then some (.real (.zero true))
    else if n ≤ 0x8000000000000000 then some (.int (-n))
    else real true n 0
  | _, none => real l.negative n ((extra : Int) - places)
  | _, some (down, ds) =>
    match exponentValue? ds with
    | some e => real l.negative n ((extra : Int) - places + if down then -(e : Int) else e)
    | none => if n ≠ 0 && !down then none else some (.real (.zero l.negative))

end Numeral

end DeclRules.Json
