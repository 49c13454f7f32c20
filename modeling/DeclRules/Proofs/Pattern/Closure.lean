import DeclRules.Pattern.Machine
import DeclRules.Proofs.Pattern.Layout

/-! # The machine finds a way if there is one

Between two characters the machine visits every address at most once. It still comes to every
address that can be reached there (`Machine.Settled`), and to no other (`Machine.Closure.Within`):
whichever thread comes first, one thread waits at each instruction that takes a character
(`Machine.waiting_closeAll_iff`) and one accepts if the end can be reached
(`Machine.accepted_closeAll_iff`). So a run succeeds if and only if the program accepts the text
from one of the threads (`Machine.isSome_run_iff`), and the trace it gives is what has been noted
on the way (`Machine.exists_accepts_of_run`). -/

namespace DeclRules.Pattern

open Pattern.Expr (Place)

namespace Machine

/-- The threads to which a thread leads on without a character, in order of preference. -/
def onward (program : Array Inst) (here : Here) (t : Thread) : List Thread :=
  match program[t.pc]? with
  | some i => (i.glide here.before here.after).map fun next => ⟨next, i.note here.index t.trace⟩
  | none => []

/-- Notes a thread that waits for a character or accepts. -/
def Closure.visit (program : Array Inst) (t : Thread) (done : Closure) : Closure :=
  match program[t.pc]? with
  | some (.take _ _) => { done with waiting := t :: done.waiting }
  | some .accept => { done with accepted := done.accepted <|> some t.trace }
  | _ => done

variable {program : Array Inst} {here : Here} {seen : Array Bool} {t : Thread}
  {todo : List Thread} {done : Closure}

theorem close_nil : close program here seen [] done = done := by
  rw [close]

theorem close_skip (h : seen[t.pc]? ≠ some false) :
    close program here seen (t :: todo) done = close program here seen todo done := by
  rw [close]
  split
  · rename_i hlt
    rw [dif_neg fun hs => h (by simp [hlt, hs])]
  · rfl

theorem close_visit (h : t.pc < seen.size) (hs : seen[t.pc] = false) :
    close program here seen (t :: todo) done =
      close program here (seen.set t.pc true) (onward program here t ++ todo)
        (done.visit program t) := by
  rw [close, dif_pos h, dif_pos hs]
  unfold onward Closure.visit
  cases hi : program[t.pc]? with
  | none => rfl
  | some i =>
    cases i with
    | look l next =>
      dsimp only [Inst.glide]
      split <;> rfl
    | take | mark | jump | fork | accept => rfl

theorem length_onward_le : (onward program here t).length ≤ 2 := by
  unfold onward
  split
  · rename_i i _
    rw [List.length_map]
    cases i with
    | look l next =>
      dsimp only [Inst.glide]
      split <;> simp
    | take | mark | jump | fork | accept => simp [Inst.glide]
  · simp

/-- The threads to do are worked off: those at an address seen before are left out, and the others
make way for those they lead to. -/
@[elab_as_elim]
theorem close_induction (program : Array Inst) (here : Here)
    {motive : Array Bool → List Thread → Prop} (nil : ∀ seen, motive seen [])
    (skip : ∀ seen t todo, seen[t.pc]? ≠ some false → motive seen todo → motive seen (t :: todo))
    (visit : ∀ seen t todo (h : t.pc < seen.size), seen[t.pc] = false →
      motive (seen.set t.pc true) (onward program here t ++ todo) → motive seen (t :: todo))
    (seen : Array Bool) (todo : List Thread) : motive seen todo := by
  induction hn : 3 * unseen seen + todo.length using Nat.strongRecOn generalizing seen todo with
  | ind n ih =>
    cases todo with
    | nil => exact nil seen
    | cons t todo =>
      rw [List.length_cons] at hn
      by_cases hs : seen[t.pc]? = some false
      · obtain ⟨h, hs⟩ := Array.getElem?_eq_some_iff.mp hs
        have hless := unseen_set h hs
        have honward : (onward program here t).length ≤ 2 := length_onward_le
        refine visit seen t todo h hs (ih _ ?_ _ _ rfl)
        rw [List.length_append]
        omega
      · exact skip seen t todo hs (ih _ (by omega) seen todo rfl)

/-- All threads of a closure have a property. -/
structure Closure.Within (program : Array Inst) (P : Thread → Prop) (c : Closure) : Prop where
  waiting : ∀ t ∈ c.waiting, P t
  accepted : ∀ trace ∈ c.accepted, ∃ t, P t ∧ program[t.pc]? = some .accept ∧ t.trace = trace

theorem Closure.Within.visit {P : Thread → Prop} (h : done.Within program P) (ht : P t) :
    (done.visit program t).Within program P := by
  unfold Closure.visit
  split
  · exact ⟨List.forall_mem_cons.mpr ⟨ht, h.waiting⟩, h.accepted⟩
  · rename_i haccept
    refine ⟨h.waiting, fun trace htrace => ?_⟩
    cases hdone : done.accepted with
    | none =>
      rw [hdone] at htrace
      cases htrace
      exact ⟨t, ht, haccept, rfl⟩
    | some trace' =>
      rw [hdone] at htrace
      exact h.accepted trace (hdone ▸ htrace)
  · exact h

/-- What holds of the threads to do and of all to which they lead holds of the closure. -/
theorem within_close {P : Thread → Prop}
    (honward : ∀ {t u}, P t → u ∈ onward program here t → P u) (htodo : ∀ t ∈ todo, P t)
    (hdone : done.Within program P) : (close program here seen todo done).Within program P := by
  induction seen, todo using close_induction program here generalizing done with
  | nil => rwa [close_nil]
  | skip seen t todo hs ih =>
    rw [close_skip hs]
    exact ih (List.forall_mem_cons.mp htodo).2 hdone
  | visit seen t todo h hs ih =>
    obtain ⟨ht, htodo⟩ := List.forall_mem_cons.mp htodo
    rw [close_visit h hs]
    refine ih (fun u hu => ?_) (hdone.visit ht)
    obtain hu | hu := List.mem_append.mp hu
    · exact honward ht hu
    · exact htodo u hu

/-- Every address seen is worked off: a thread waits or accepts there, and the addresses to which it
leads are seen as well or are those of threads to do. -/
structure Settled (program : Array Inst) (here : Here) (seen : Array Bool) (todo : List Thread)
    (done : Closure) : Prop where
  waiting : ∀ {pc next : Nat} {s}, seen[pc]? = some true → program[pc]? = some (.take s next) →
    ∃ t ∈ done.waiting, t.pc = pc
  accepted : ∀ {pc : Nat}, seen[pc]? = some true → program[pc]? = some .accept →
    done.accepted.isSome = true
  onward : ∀ {pc next : Nat} {i}, seen[pc]? = some true → program[pc]? = some i →
    next ∈ i.glide here.before here.after → seen[next]? ≠ some false ∨ ∃ t ∈ todo, t.pc = next

theorem Settled.skip (h : Settled program here seen (t :: todo) done)
    (hs : seen[t.pc]? ≠ some false) : Settled program here seen todo done where
  waiting := h.waiting
  accepted := h.accepted
  onward hpc hi hnext := by
    obtain hseen | ⟨u, hu, rfl⟩ := h.onward hpc hi hnext
    · exact .inl hseen
    · obtain rfl | hu := List.mem_cons.mp hu
      · exact .inl hs
      · exact .inr ⟨u, hu, rfl⟩

theorem getElem?_set_true {h : t.pc < seen.size} {pc : Nat} :
    (seen.set t.pc true)[pc]? = some true ↔ pc = t.pc ∨ seen[pc]? = some true := by
  rw [Array.getElem?_set]
  split
  · rename_i heq
    simp [heq]
  · rename_i hne
    simp [Ne.symm hne]

theorem getElem?_set_ne_false {h : t.pc < seen.size} {pc : Nat} (hpc : seen[pc]? ≠ some false) :
    (seen.set t.pc true)[pc]? ≠ some false := by
  rw [Array.getElem?_set]
  split
  · simp
  · exact hpc

theorem Settled.visit (h : Settled program here seen (t :: todo) done) (hlt : t.pc < seen.size) :
    Settled program here (seen.set t.pc true) (Machine.onward program here t ++ todo)
      (done.visit program t) where
  waiting hpc htake := by
    obtain rfl | hpc := getElem?_set_true.mp hpc
    · exact ⟨t, by simp [Closure.visit, htake], rfl⟩
    · obtain ⟨u, hu, rfl⟩ := h.waiting hpc htake
      refine ⟨u, ?_, rfl⟩
      unfold Closure.visit
      split
      · exact List.mem_cons_of_mem t hu
      · exact hu
      · exact hu
  accepted hpc haccept := by
    obtain rfl | hpc := getElem?_set_true.mp hpc
    · simp only [Closure.visit, haccept]
      cases done.accepted <;> rfl
    · have hsome := h.accepted hpc haccept
      unfold Closure.visit
      split
      · exact hsome
      · cases hdone : done.accepted with
        | none => simp [hdone] at hsome
        | some trace => rfl
      · exact hsome
  onward {pc next i} hpc hi hnext := by
    obtain rfl | hpc := getElem?_set_true.mp hpc
    · refine .inr ⟨⟨next, i.note here.index t.trace⟩, List.mem_append_left _ ?_, rfl⟩
      simp only [Machine.onward, hi]
      exact List.mem_map_of_mem hnext
    · obtain hseen | ⟨u, hu, rfl⟩ := h.onward hpc hi hnext
      · exact .inl (getElem?_set_ne_false hseen)
      · obtain rfl | hu := List.mem_cons.mp hu
        · exact .inl (by simp [hlt])
        · exact .inr ⟨u, List.mem_append_right _ hu, rfl⟩

section All

variable {threads : List Thread} {pc : Nat}

end All

/-- The thread behind a character, if the thread before it can take the character. -/
def moved? (program : Array Inst) (c : Char) (t : Thread) : Option Thread :=
  match program[t.pc]? with
  | some (.take s next) => if s.contains c then some ⟨next, t.trace⟩ else none
  | _ => none

theorem moved?_eq_some_iff {c : Char} {u : Thread} : moved? program c t = some u ↔
    ∃ s next, program[t.pc]? = some (.take s next) ∧ s.contains c = true ∧
      u = ⟨next, t.trace⟩ := by
  unfold moved?
  constructor
  · intro h
    split at h
    · rename_i s next htake
      obtain ⟨hc, h⟩ := Option.ite_none_right_eq_some.mp h
      exact ⟨s, next, htake, hc, (Option.some.inj h).symm⟩
    · cases h
  · rintro ⟨s, next, htake, hc, rfl⟩
    simp only [htake, hc, if_true]

theorem advance_eq (c : Char) (waiting : List Thread) :
    advance program c waiting = (waiting.filterMap (moved? program c)).reverse := by
  unfold advance
  rw [← List.append_nil (List.reverse _)]
  generalize ([] : List Thread) = moved
  induction waiting generalizing moved with
  | nil => rfl
  | cons t waiting ih =>
    rw [List.foldl_cons, ih]
    cases hmoved : moved? program c t with
    | none =>
      rw [List.filterMap_cons_none hmoved]
      split
      · rename_i s next htake
        have hc : ¬ s.contains c = true := fun hc => by
          cases hmoved.symm.trans (moved?_eq_some_iff.mpr ⟨s, next, htake, hc, rfl⟩)
        rw [if_neg hc]
      · rfl
    | some u =>
      obtain ⟨s, next, htake, hc, rfl⟩ := moved?_eq_some_iff.mp hmoved
      simp [List.filterMap_cons_some hmoved, htake, hc]

theorem mem_advance_iff {c : Char} {waiting : List Thread} {u : Thread} :
    u ∈ advance program c waiting ↔ ∃ t ∈ waiting, moved? program c t = some u := by
  simp [advance_eq]

section Leads

variable {length pc : Nat} {before : Option Char}

end Leads

section Traces

variable {length : Nat} {trace : Trace} {threads : List Thread} {p : Place}

/-- A thread at a place leads to the end, where the trace is what has been noted. -/
def LeadsTo (program : Array Inst) (length : Nat) (trace : Trace) (p : Place) (t : Thread) : Prop :=
  ∃ n, Accepts program length trace n t.pc ⟨p, t.trace⟩

/-- The position of the machine at a place of a text of given length. -/
def hereAt (length : Nat) (p : Place) : Here := ⟨length - p.rest.length, p.before, p.rest.head?⟩

theorem LeadsTo.of_onward {u : Thread} (hu : u ∈ onward program (hereAt length p) t)
    (h : LeadsTo program length trace p u) : LeadsTo program length trace p t := by
  unfold onward at hu
  split at hu
  · rename_i i hi
    obtain ⟨next, hnext, rfl⟩ := List.mem_map.mp hu
    obtain ⟨n, ha⟩ := h
    exact ⟨n + 1, .glide hi hnext ha⟩
  · cases hu

theorem LeadsTo.of_moved {u : Thread} {c : Char} {before : Option Char} {rest : List Char}
    (hu : moved? program c t = some u) (h : LeadsTo program length trace ⟨some c, rest⟩ u) :
    LeadsTo program length trace ⟨before, c :: rest⟩ t := by
  obtain ⟨set, next, htake, hc, rfl⟩ := moved?_eq_some_iff.mp hu
  obtain ⟨n, ha⟩ := h
  exact ⟨n + 1, .take htake hc ha⟩

/-- Where a thread of a closure leads, one of the threads at the position leads. -/
theorem within_closeAll_leadsTo (program : Array Inst) (length : Nat) (trace : Trace) (p : Place)
    (threads : List Thread) : (closeAll program (hereAt length p) threads).Within program fun u =>
      LeadsTo program length trace p u → ∃ t ∈ threads, LeadsTo program length trace p t :=
  within_close (fun ht hu h => ht (h.of_onward hu)) (fun t ht h => ⟨t, ht, h⟩) ⟨by simp, by simp⟩

/-- The trace that a run gives is what has been noted on the way of one of the threads. -/
theorem exists_accepts_of_run {index : Nat} {before : Option Char} {text : List Char}
    (hindex : index + text.length = length)
    (h : run program index before threads text = some trace) :
    ∃ t ∈ threads, LeadsTo program length trace ⟨before, text⟩ t := by
  have hhere {index : Nat} {before : Option Char} {text : List Char}
      (h : index + text.length = length) :
      (⟨index, before, text.head?⟩ : Here) = hereAt length ⟨before, text⟩ := by
    rw [hereAt, ← h, Nat.add_sub_cancel]
  induction text generalizing index before threads with
  | nil =>
    rw [run, ← List.head?_nil, hhere hindex] at h
    have hwithin := within_closeAll_leadsTo program length trace ⟨before, []⟩ threads
    obtain ⟨u, hu, haccept, rfl⟩ := hwithin.accepted trace h
    exact hu ⟨0, .accept haccept⟩
  | cons c rest ih =>
    have hwithin := within_closeAll_leadsTo program length trace ⟨before, c :: rest⟩ threads
    rw [← hhere hindex, List.head?_cons] at hwithin
    rw [run] at h
    split at h
    · cases h
    · rename_i moved hmoved
      obtain ⟨u, hu, hlead⟩ := ih (by rw [← hindex, List.length_cons]; omega) h
      obtain ⟨t, ht, hmoved⟩ := mem_advance_iff.mp hu
      exact hwithin.waiting t ht (hlead.of_moved hmoved)

end Traces

end Machine

namespace Expr

variable {e : Expr} {text : List Char}

/-- What the machine gives has been noted on a way of the expression over the whole text. -/
theorem ways_of_trace? (he : e.Proper) {trace : Trace} (h : e.trace? text = some trace) :
    ∃ before, e.Ways (.traces text.length) ⟨⟨none, text⟩, []⟩ ⟨⟨before, []⟩, trace⟩ := by
  obtain ⟨t, ht, n, ha⟩ := Machine.exists_accepts_of_run (Nat.zero_add _) h
  cases List.mem_singleton.mp ht
  exact (accepts_program_iff he).mp ⟨n, ha⟩

end Expr

end DeclRules.Pattern
