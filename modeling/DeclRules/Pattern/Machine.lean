import DeclRules.Pattern.Program

/-! Running a program on a text. The machine keeps the threads that are alive at a position in
the order of preference. Between characters it closes them under the instructions that take none,
visiting each address at most once, and at a character it moves those on that can take it. The
first thread to accept behind the last character is the match. -/

namespace DeclRules.Pattern

/-- The noted positions, the latest first. -/
abbrev Trace := List (Nat × Nat)

structure Thread where
  pc : Nat
  trace : Trace

/-- A position of a text: its number and the characters on both sides. -/
structure Here where
  index : Nat
  before : Option Char
  after : Option Char

namespace Machine

/-- The addresses not visited yet. -/
def unseen (seen : Array Bool) : Nat := seen.count false

theorem unseen_set {seen : Array Bool} {i : Nat} (h : i < seen.size) (hi : seen[i] = false) :
    unseen (seen.set i true) + 1 = unseen seen := by
  have hpos : 0 < seen.count false := Array.count_pos_iff.mpr (hi ▸ Array.getElem_mem h)
  have hne : (true == false) = false := rfl
  simp only [unseen, Array.count_set h, hi, hne, beq_self_eq_true, Bool.false_eq_true, ↓reduceIte]
  omega

/-- Threads that wait for a character, the last one first, and the first one that accepts. -/
structure Closure where
  waiting : List Thread := []
  accepted : Option Trace := none

/-- Follows the instructions that take no character, threads in `todo` in order of preference. -/
def close (program : Array Inst) (here : Here) (seen : Array Bool) (todo : List Thread)
    (done : Closure) : Closure :=
  match todo with
  | [] => done
  | t :: todo =>
    if h : t.pc < seen.size then
      if hs : seen[t.pc] = false then
        have := unseen_set h hs
        let seen := seen.set t.pc true
        match program[t.pc]? with
        | none => close program here seen todo done
        | some (.take _ _) => close program here seen todo { done with waiting := t :: done.waiting }
        | some (.look l next) =>
          if l.holds here.before here.after then
            close program here seen (⟨next, t.trace⟩ :: todo) done
          else close program here seen todo done
        | some (.mark slot next) =>
          close program here seen (⟨next, (slot, here.index) :: t.trace⟩ :: todo) done
        | some (.jump next) => close program here seen (⟨next, t.trace⟩ :: todo) done
        | some (.fork first second) =>
          close program here seen (⟨first, t.trace⟩ :: ⟨second, t.trace⟩ :: todo) done
        | some .accept =>
          close program here seen todo { done with accepted := done.accepted <|> some t.trace }
      else close program here seen todo done
    else close program here seen todo done
termination_by 3 * unseen seen + todo.length
decreasing_by all_goals simp_all only [List.length_cons]; omega

/-- All threads at a position, closed. -/
def closeAll (program : Array Inst) (here : Here) (threads : List Thread) : Closure :=
  close program here (Array.replicate program.size false) threads {}

/-- The threads behind a character, in order, of the waiting ones given last first. -/
def advance (program : Array Inst) (c : Char) (waiting : List Thread) : List Thread :=
  waiting.foldl (fun (moved : List Thread) (t : Thread) =>
    match program[t.pc]? with
    | some (Inst.take s next) => if s.contains c then ⟨next, t.trace⟩ :: moved else moved
    | _ => moved) []

/-- Runs the threads at a position to the end of the text. -/
def run (program : Array Inst) (index : Nat) (before : Option Char) (threads : List Thread) :
    List Char → Option Trace
  | [] => (closeAll program ⟨index, before, none⟩ threads).accepted
  | c :: rest =>
    match advance program c (closeAll program ⟨index, before, some c⟩ threads).waiting with
    | [] => none
    | moved => run program (index + 1) (some c) moved rest

end Machine

/-- The trace of the preferred way in which an expression covers the whole text. -/
def Expr.trace? (e : Expr) (text : List Char) : Option Trace :=
  Machine.run e.program 0 none [⟨0, []⟩] text

end DeclRules.Pattern
