import DeclRules.Pattern.Expr

/-! Programs: expressions as numbered instructions. `code` lays an expression out from a given
address on; whoever gets through it goes on at the address `next`. -/

namespace DeclRules.Pattern

open Unicode

inductive Inst where
  /-- Takes a character of the set. -/
  | take (set : CharSet) (next : Nat)
  | look (l : Look) (next : Nat)
  /-- Notes the position in a slot. -/
  | mark (slot : Nat) (next : Nat)
  | jump (next : Nat)
  /-- Goes on at both addresses, at the first one by preference. -/
  | fork (first second : Nat)
  | accept

namespace Expr

/-- The number of instructions of an expression. -/
def codeSize : Expr → Nat
  | empty | chars _ | look _ => 1
  | group _ _ e => e.codeSize + 2
  | seq e f => e.codeSize + f.codeSize
  | alt e f => e.codeSize + f.codeSize + 1
  | .repeat min max _ e =>
    match max with
    | none =>
      if min ≠ 0 then min * e.codeSize + 1
      else if e.advances then e.codeSize + 1
      else e.codeSize + 2
    | some max => min * e.codeSize + (max - min) * (e.codeSize + 1) + 1

/-- A fork that prefers to go on if greedy, and to leave if not. -/
def choose (greedy : Bool) (onward leave : Nat) : Inst :=
  if greedy then .fork onward leave else .fork leave onward

/-- Copies of some code one after the other, each `size` long. -/
def copies (body : Nat → Nat → List Inst) (size : Nat) : Nat → Nat → List Inst
  | 0, _ => []
  | n + 1, at_ => body at_ (at_ + size) ++ copies body size n (at_ + size)

/-- Copies of some code each of which can be left out together with all behind it. -/
def options (body : Nat → Nat → List Inst) (size : Nat) (greedy : Bool) (exit : Nat) :
    Nat → Nat → List Inst
  | 0, _ => []
  | n + 1, at_ =>
    choose greedy (at_ + 1) exit :: (body (at_ + 1) (at_ + 1 + size) ++
      options body size greedy exit n (at_ + 1 + size))

def code : Expr → Nat → Nat → List Inst
  | empty, _, next => [.jump next]
  | chars s, _, next => [.take s next]
  | look l, _, next => [.look l next]
  | group i _ e, at_, next =>
    .mark (2 * i) (at_ + 1) :: (e.code (at_ + 1) (at_ + 1 + e.codeSize) ++
      [.mark (2 * i + 1) next])
  | seq e f, at_, next => e.code at_ (at_ + e.codeSize) ++ f.code (at_ + e.codeSize) next
  | alt e f, at_, next =>
    .fork (at_ + 1) (at_ + 1 + e.codeSize) ::
      (e.code (at_ + 1) next ++ f.code (at_ + 1 + e.codeSize) next)
  | .repeat min max greedy e, at_, next =>
    let size := e.codeSize
    match max with
    | none =>
      if min ≠ 0 then
        copies e.code size min at_ ++ [choose greedy (at_ + (min - 1) * size) next]
      else if e.advances then choose greedy (at_ + 1) next :: e.code (at_ + 1) at_
      else
        choose greedy (at_ + 1) next ::
          (e.code (at_ + 1) (at_ + 1 + size) ++ [choose greedy (at_ + 1) next])
    | some max =>
      let exit := at_ + min * size + (max - min) * (size + 1)
      copies e.code size min at_ ++
        (options e.code size greedy exit (max - min) (at_ + min * size) ++ [.jump next])

/-- The program of an expression: its code, and behind it the end. -/
def program (e : Expr) : Array Inst := (e.code 0 e.codeSize ++ [Inst.accept]).toArray

end Expr

end DeclRules.Pattern
