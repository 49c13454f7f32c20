import DeclRules.Pattern.Program
import DeclRules.Proofs.Pattern.Ways

/-! # What programs accept

A program accepts a text from an address and a spot on if its instructions lead from there to its
end at the end of the text, in whatever way (`Accepts`), and it gives what has been noted on that
way; which of the ways is preferred has no part in it. Code realizes a relation between spots if it
takes a program from its own address to the address behind it between just the spots that the
relation allows (`Realizes`). This is closed under putting code together: in sequence
(`Realizes.comp`), behind a fork (`Realizes.fork`) and in a loop (`Realizes.loop`). So the code of an
expression realizes the ways of the expression (`realizes_code`), and its program accepts along the
ways of the expression to the end (`Expr.accepts_program_iff`). -/

namespace DeclRules.Pattern

open Pattern.Expr (Place Ways)

/-- The addresses to which an instruction that takes no character leads, between two characters. -/
def Inst.glide (before after : Option Char) : Inst → List Nat
  | take _ _ | accept => []
  | look l next => if l.holds before after then [next] else []
  | mark _ next | jump next => [next]
  | fork first second => [first, second]

/-- What is noted behind an instruction. -/
def Inst.note (index : Nat) (trace : Trace) : Inst → Trace
  | mark slot _ => (slot, index) :: trace
  | _ => trace

/-- The spot behind an instruction that takes no character, in a text of given length. -/
def Spot.behind (length : Nat) (i : Inst) (s : Spot Trace) : Spot Trace :=
  ⟨s.place, i.note (length - s.place.rest.length) s.kept⟩

/-- A number of instructions lead from an address and a spot to the end of the program at the end
of the text, where the trace is what has been noted. -/
inductive Accepts (program : Array Inst) (length : Nat) (trace : Trace) :
    Nat → Nat → Spot Trace → Prop where
  | accept {pc before} : program[pc]? = some .accept →
    Accepts program length trace 0 pc ⟨⟨before, []⟩, trace⟩
  | glide {n pc i next s} : program[pc]? = some i →
    next ∈ i.glide s.place.before s.place.rest.head? →
    Accepts program length trace n next (s.behind length i) →
    Accepts program length trace (n + 1) pc s
  | take {n pc set next before c rest kept} : program[pc]? = some (.take set next) →
    set.contains c = true → Accepts program length trace n next ⟨⟨some c, rest⟩, kept⟩ →
    Accepts program length trace (n + 1) pc ⟨⟨before, c :: rest⟩, kept⟩

section

variable {program : Array Inst} {length : Nat} {trace : Trace} {n pc next : Nat} {s : Spot Trace}

theorem accepts_take_iff {set : Unicode.CharSet} (h : program[pc]? = some (.take set next)) :
    Accepts program length trace n pc s ↔ ∃ m t, n = m + 1 ∧ s.Over (Takes set) t ∧
      Accepts program length trace m next t := by
  constructor
  · intro ha
    cases ha with
    | accept h' => cases h.symm.trans h'
    | glide h' hnext =>
      cases h.symm.trans h'
      simp [Inst.glide] at hnext
    | take h' hc ha =>
      cases h.symm.trans h'
      exact ⟨_, ⟨⟨_, _⟩, _⟩, rfl, ⟨⟨_, rfl, rfl, hc⟩, rfl⟩, ha⟩
  · rintro ⟨m, t, rfl, ⟨⟨c, hrest, hbefore, hc⟩, hkept⟩, ha⟩
    obtain ⟨⟨before, rest⟩, kept⟩ := s
    obtain ⟨⟨before', rest'⟩, kept'⟩ := t
    cases hrest
    cases hbefore
    cases hkept
    exact .take h hc ha

/-- Whatever takes no character and does not end the program leads on at the same place. -/
theorem accepts_glide_iff {i : Inst} (h : program[pc]? = some i) (haccept : i ≠ .accept)
    (htake : ∀ set next, i ≠ .take set next) :
    Accepts program length trace n pc s ↔ ∃ m, n = m + 1 ∧
      ∃ next ∈ i.glide s.place.before s.place.rest.head?,
        Accepts program length trace m next (s.behind length i) := by
  constructor
  · intro ha
    cases ha with
    | accept h' => exact absurd (Option.some.inj (h.symm.trans h')) haccept
    | glide h' hnext ha =>
      cases h.symm.trans h'
      exact ⟨_, rfl, _, hnext, ha⟩
    | take h' => exact absurd (Option.some.inj (h.symm.trans h')) (htake _ _)
  · rintro ⟨m, rfl, next, hnext, ha⟩
    exact .glide h hnext ha

theorem accepts_look_iff {l : Look} (h : program[pc]? = some (.look l next)) :
    Accepts program length trace n pc s ↔ ∃ m, n = m + 1 ∧
      l.holds s.place.before s.place.rest.head? = true ∧
        Accepts program length trace m next s := by
  rw [accepts_glide_iff h (by simp) (by simp)]
  simp [Inst.glide, Spot.behind, Inst.note]

theorem accepts_mark_iff {slot : Nat} (h : program[pc]? = some (.mark slot next)) :
    Accepts program length trace n pc s ↔ ∃ m, n = m + 1 ∧
      Accepts program length trace m next
        ⟨s.place, (slot, length - s.place.rest.length) :: s.kept⟩ := by
  rw [accepts_glide_iff h (by simp) (by simp)]
  simp [Inst.glide, Spot.behind, Inst.note]

theorem accepts_jump_iff (h : program[pc]? = some (.jump next)) :
    Accepts program length trace n pc s ↔
      ∃ m, n = m + 1 ∧ Accepts program length trace m next s := by
  rw [accepts_glide_iff h (by simp) (by simp)]
  simp [Inst.glide, Spot.behind, Inst.note]

theorem accepts_fork_iff {first second : Nat} (h : program[pc]? = some (.fork first second)) :
    Accepts program length trace n pc s ↔ ∃ m, n = m + 1 ∧
      (Accepts program length trace m first s ∨ Accepts program length trace m second s) := by
  rw [accepts_glide_iff h (by simp) (by simp)]
  simp [Inst.glide, Spot.behind, Inst.note]

/-- Which way is preferred does not matter for what is accepted. -/
theorem accepts_choose_iff {greedy : Bool} {onward leave : Nat}
    (h : program[pc]? = some (Expr.choose greedy onward leave)) :
    Accepts program length trace n pc s ↔ ∃ m, n = m + 1 ∧
      (Accepts program length trace m onward s ∨ Accepts program length trace m leave s) := by
  cases greedy with
  | false => simpa only [or_comm] using accepts_fork_iff h
  | true => exact accepts_fork_iff h

end

/-- From `pc` to `next` the program leads between those spots that are in the relation, and no
others. -/
structure Realizes (program : Array Inst) (length : Nat) (R : Spot Trace → Spot Trace → Prop)
    (pc next : Nat) : Prop where
  sound : ∀ {trace n p}, Accepts program length trace n pc p →
    ∃ m q, m ≤ n ∧ R p q ∧ Accepts program length trace m next q
  complete : ∀ {trace n p q}, R p q → Accepts program length trace n next q →
    ∃ m, Accepts program length trace m pc p

namespace Realizes

variable {program : Array Inst} {length : Nat} {R S : Spot Trace → Spot Trace → Prop}
  {pc pc' next : Nat}

theorem congr (h : Realizes program length R pc next) (hRS : ∀ p q, R p q ↔ S p q) :
    Realizes program length S pc next :=
  (funext fun p => funext fun q => propext (hRS p q) : R = S) ▸ h

theorem refl (program : Array Inst) (length pc : Nat) : Realizes program length Eq pc pc where
  sound ha := ⟨_, _, Nat.le_refl _, rfl, ha⟩
  complete h ha := ⟨_, h ▸ ha⟩

theorem comp (h : Realizes program length R pc pc') (h' : Realizes program length S pc' next) :
    Realizes program length (Relation.Comp R S) pc next where
  sound ha := by
    obtain ⟨m, r, hm, hpr, ha⟩ := h.sound ha
    obtain ⟨m', q, hm', hrq, ha⟩ := h'.sound ha
    exact ⟨m', q, Nat.le_trans hm' hm, ⟨r, hpr, hrq⟩, ha⟩
  complete := by
    rintro trace n p q ⟨r, hpr, hrq⟩ ha
    obtain ⟨_, ha⟩ := h'.complete hrq ha
    exact h.complete hpr ha

theorem jump (hpc : program[pc]? = some (.jump next)) : Realizes program length Eq pc next where
  sound := by
    intro trace n p ha
    obtain ⟨m, rfl, hm⟩ := (accepts_jump_iff hpc).mp ha
    exact ⟨m, p, Nat.le_succ m, rfl, hm⟩
  complete := by
    rintro trace n p _ rfl ha
    exact ⟨n + 1, (accepts_jump_iff hpc).mpr ⟨n, rfl, ha⟩⟩

theorem mark {slot : Nat} (hpc : program[pc]? = some (.mark slot next)) :
    Realizes program length (fun p q => q =
      ⟨p.place, (slot, length - p.place.rest.length) :: p.kept⟩) pc next where
  sound := by
    intro trace n p ha
    obtain ⟨m, rfl, hm⟩ := (accepts_mark_iff hpc).mp ha
    exact ⟨m, _, Nat.le_succ m, rfl, hm⟩
  complete := by
    rintro trace n p _ rfl ha
    exact ⟨n + 1, (accepts_mark_iff hpc).mpr ⟨n, rfl, ha⟩⟩

/-- One way or the other. -/
theorem choose {greedy : Bool} {onward leave : Nat}
    (hpc : program[pc]? = some (Expr.choose greedy onward leave))
    (h : Realizes program length R onward next) (h' : Realizes program length S leave next) :
    Realizes program length (fun p q => R p q ∨ S p q) pc next where
  sound ha := by
    obtain ⟨n, rfl, ha | ha⟩ := (accepts_choose_iff hpc).mp ha
    · obtain ⟨m, q, hm, hpq, ha⟩ := h.sound ha
      exact ⟨m, q, Nat.le_succ_of_le hm, .inl hpq, ha⟩
    · obtain ⟨m, q, hm, hpq, ha⟩ := h'.sound ha
      exact ⟨m, q, Nat.le_succ_of_le hm, .inr hpq, ha⟩
  complete := by
    rintro trace n p q (hpq | hpq) ha
    · obtain ⟨m, ha⟩ := h.complete hpq ha
      exact ⟨m + 1, (accepts_choose_iff hpc).mpr ⟨m, rfl, .inl ha⟩⟩
    · obtain ⟨m, ha⟩ := h'.complete hpq ha
      exact ⟨m + 1, (accepts_choose_iff hpc).mpr ⟨m, rfl, .inr ha⟩⟩

theorem fork {first second : Nat} (hpc : program[pc]? = some (.fork first second))
    (h : Realizes program length R first next) (h' : Realizes program length S second next) :
    Realizes program length (fun p q => R p q ∨ S p q) pc next := by
  have hchoose : program[pc]? = some (Expr.choose true first second) := hpc
  exact choose hchoose h h'

/-- A fork whose one way comes back to it goes round any number of times. The number of
instructions gets smaller with every round, also with rounds that take no character. -/
theorem loop {greedy : Bool} {body : Nat}
    (hpc : program[pc]? = some (Expr.choose greedy body next))
    (h : Realizes program length R body pc) :
    Realizes program length (fun p q => ∃ n, Times R n p q) pc next where
  sound := by
    intro trace n p ha
    induction n using Nat.strongRecOn generalizing p with
    | ind n ih =>
      obtain ⟨n, rfl, ha | ha⟩ := (accepts_choose_iff hpc).mp ha
      · obtain ⟨m, r, hm, hpr, ha⟩ := h.sound ha
        obtain ⟨m', q, hm', ⟨k, hrq⟩, ha⟩ := ih m (Nat.lt_succ_of_le hm) ha
        exact ⟨m', q, by omega, ⟨k + 1, .succ hpr hrq⟩, ha⟩
      · exact ⟨n, p, Nat.le_succ n, ⟨0, .zero⟩, ha⟩
  complete := by
    rintro trace n p q ⟨k, hpq⟩ ha
    induction hpq with
    | zero => exact ⟨n + 1, (accepts_choose_iff hpc).mpr ⟨n, rfl, .inr ha⟩⟩
    | succ hpr _ ih =>
      obtain ⟨m, ha⟩ := ih ha
      obtain ⟨m, ha⟩ := h.complete hpr ha
      exact ⟨m + 1, (accepts_choose_iff hpc).mpr ⟨m, rfl, .inl ha⟩⟩

end Realizes

/-- Some code stands in the program at an address. -/
def Stands (program : Array Inst) : Nat → List Inst → Prop
  | _, [] => True
  | pc, i :: code => program[pc]? = some i ∧ Stands program (pc + 1) code

section

variable {program : Array Inst} {pc : Nat}

theorem stands_append {code code' : List Inst} :
    Stands program pc (code ++ code') ↔
      Stands program pc code ∧ Stands program (pc + code.length) code' := by
  induction code generalizing pc with
  | nil => simp [Stands]
  | cons i code ih =>
    rw [List.cons_append, Stands, ih, Stands, and_assoc, List.length_cons, Nat.add_right_comm,
      Nat.add_assoc]

/-- A list of instructions stands at the start of the program made of it. -/
theorem stands_toArray (before code : List Inst) :
    Stands (before ++ code).toArray before.length code := by
  induction code generalizing before with
  | nil => trivial
  | cons i code ih =>
    refine ⟨by simp, ?_⟩
    have h := ih (before ++ [i])
    rwa [List.append_assoc, List.singleton_append, List.length_append] at h

end

namespace Expr

theorem length_copies {body : Nat → Nat → List Inst} {size : Nat}
    (hbody : ∀ pc next, (body pc next).length = size) (n pc : Nat) :
    (copies body size n pc).length = n * size := by
  induction n generalizing pc with
  | zero => simp [copies]
  | succ n ih => rw [copies, List.length_append, hbody, ih, Nat.succ_mul, Nat.add_comm]

theorem length_options {body : Nat → Nat → List Inst} {size : Nat}
    (hbody : ∀ pc next, (body pc next).length = size) (greedy : Bool) (exit n pc : Nat) :
    (options body size greedy exit n pc).length = n * (size + 1) := by
  induction n generalizing pc with
  | zero => simp [options]
  | succ n ih =>
    rw [options, List.length_cons, List.length_append, hbody, ih, Nat.succ_mul]
    omega

theorem length_code (e : Expr) (pc next : Nat) : (e.code pc next).length = e.codeSize := by
  induction e generalizing pc next with
  | empty | chars | look => rfl
  | group i n e ih => simp [code, codeSize, ih]
  | seq e f ihe ihf => simp [code, codeSize, ihe, ihf]
  | alt e f ihe ihf => simp [code, codeSize, ihe, ihf]
  | «repeat» min max greedy e ih =>
    cases max with
    | none =>
      rw [code, codeSize]
      split
      · simp [length_copies ih]
      · split <;> simp [ih]
    | some max =>
      rw [code, codeSize]
      simp [length_copies ih, length_options ih, Nat.add_assoc]

end Expr

section Code

variable {program : Array Inst} {length : Nat} {R : Spot Trace → Spot Trace → Prop}
  {body : Nat → Nat → List Inst} {size : Nat} (hlength : ∀ pc next, (body pc next).length = size)
  (hbody : ∀ {pc next}, Stands program pc (body pc next) → Realizes program length R pc next)

include hlength

theorem stands_copies_succ {n pc : Nat} :
    Stands program pc (Expr.copies body size (n + 1) pc) ↔
      Stands program pc (body pc (pc + size)) ∧
        Stands program (pc + size) (Expr.copies body size n (pc + size)) := by
  rw [Expr.copies, stands_append, hlength]

/-- The last of some copies leads to the address behind them. -/
theorem stands_last_copy {n pc : Nat} (h : Stands program pc (Expr.copies body size (n + 1) pc)) :
    Stands program (pc + n * size) (body (pc + n * size) (pc + n * size + size)) := by
  induction n generalizing pc with
  | zero => simpa using ((stands_copies_succ hlength).mp h).1
  | succ n ih =>
    have hlast := ih ((stands_copies_succ hlength).mp h).2
    rwa [show pc + (n + 1) * size = pc + size + n * size by rw [Nat.succ_mul]; omega]

include hbody

theorem realizes_copies {n pc : Nat} (h : Stands program pc (Expr.copies body size n pc)) :
    Realizes program length (Times R n) pc (pc + n * size) := by
  induction n generalizing pc with
  | zero =>
    rw [Nat.zero_mul]
    exact (Realizes.refl program length pc).congr fun _ _ => Times.zero_iff.symm
  | succ n ih =>
    obtain ⟨hfirst, hrest⟩ := (stands_copies_succ hlength).mp h
    rw [show pc + (n + 1) * size = pc + size + n * size by rw [Nat.succ_mul]; omega]
    exact ((hbody hfirst).comp (ih hrest)).congr fun _ _ => Times.succ_iff.symm

/-- Copies that can be left out from any of them on. -/
theorem realizes_options {greedy : Bool} {exit n pc : Nat} (hexit : exit = pc + n * (size + 1))
    (h : Stands program pc (Expr.options body size greedy exit n pc)) :
    Realizes program length (Repeated R 0 (some n)) pc exit := by
  induction n generalizing pc with
  | zero =>
    have hpc : exit = pc := by omega
    rw [hpc]
    refine (Realizes.refl program length pc).congr fun p q => ?_
    simp [Repeated, Within]
  | succ n ih =>
    obtain ⟨hchoose, hcode⟩ := h
    obtain ⟨hfirst, hrest⟩ := stands_append.mp hcode
    rw [hlength] at hrest
    have honward := (hbody hfirst).comp (ih (by rw [hexit, Nat.succ_mul]; omega) hrest)
    refine (Realizes.choose hchoose honward (.refl program length exit)).congr fun p q => ?_
    simp only [Relation.Comp, Repeated, Within, Nat.zero_le, Option.mem_def, Option.some.injEq,
      forall_eq', true_and]
    constructor
    · rintro (⟨r, hpr, k, hk, hrq⟩ | rfl)
      · exact ⟨k + 1, Nat.succ_le_succ hk, .succ hpr hrq⟩
      · exact ⟨0, Nat.zero_le _, .zero⟩
    · rintro ⟨k, hk, hpq⟩
      cases hpq with
      | zero => exact .inr rfl
      | succ hpr hrq => exact .inl ⟨_, hpr, _, Nat.le_of_succ_le_succ hk, hrq⟩

end Code

/-- So many stretches first, then any number of further ones. -/
theorem comp_times_iff {α : Type} {R : α → α → Prop} {min : Nat} {p q : α} :
    Relation.Comp (Times R min) (fun p q => ∃ n, Times R n p q) p q ↔ Repeated R min none p q := by
  constructor
  · rintro ⟨r, hpr, n, hrq⟩
    exact ⟨min + n, by simp [Within], Times.add_iff.mpr ⟨r, hpr, hrq⟩⟩
  · rintro ⟨n, hn, hpq⟩
    obtain ⟨k, rfl⟩ := Nat.exists_eq_add_of_le hn.1
    obtain ⟨r, hpr, hrq⟩ := Times.add_iff.mp hpq
    exact ⟨r, hpr, k, hrq⟩

theorem comp_repeated_iff {α : Type} {R : α → α → Prop} {min max : Nat} (h : min ≤ max)
    {p q : α} : Relation.Comp (Times R min) (Repeated R 0 (some (max - min))) p q ↔
      Repeated R min (some max) p q := by
  have hwithin (k : Nat) : Within 0 (some (max - min)) k ↔ Within min (some max) (min + k) := by
    simp only [Within, Option.mem_def, Option.some.injEq, forall_eq']
    omega
  constructor
  · rintro ⟨r, hpr, k, hk, hrq⟩
    exact ⟨min + k, (hwithin k).mp hk, Times.add_iff.mpr ⟨r, hpr, hrq⟩⟩
  · rintro ⟨n, hn, hpq⟩
    obtain ⟨k, rfl⟩ := Nat.exists_eq_add_of_le hn.1
    obtain ⟨r, hpr, hrq⟩ := Times.add_iff.mp hpq
    exact ⟨r, hpr, k, (hwithin k).mpr hn, hrq⟩

/-- **The code of an expression** leads along the ways of the expression. -/
theorem realizes_code {program : Array Inst} {length : Nat} {e : Expr} (he : e.Proper)
    {pc next : Nat} (h : Stands program pc (e.code pc next)) :
    Realizes program length (e.Ways (.traces length)) pc next := by
  induction e generalizing pc next with
  | empty => exact Realizes.jump h.1
  | chars set =>
    refine ⟨fun ha => ?_, fun hpq ha => ⟨_, (accepts_take_iff h.1).mpr ⟨_, _, rfl, hpq, ha⟩⟩⟩
    obtain ⟨m, t, rfl, ht, ha⟩ := (accepts_take_iff h.1).mp ha
    exact ⟨m, t, Nat.le_succ m, ht, ha⟩
  | look l =>
    refine ⟨fun {_ _ p} ha => ?_, fun {_ _ p q} hpq ha => ?_⟩
    · obtain ⟨m, rfl, hl, ha⟩ := (accepts_look_iff h.1).mp ha
      exact ⟨m, p, Nat.le_succ m, ⟨⟨rfl, hl⟩, rfl⟩, ha⟩
    · obtain rfl := hpq.eq_of_at
      exact ⟨_, (accepts_look_iff h.1).mpr ⟨_, rfl, hpq.1.2, ha⟩⟩
  | group i name e ih =>
    obtain ⟨hstart, hcode⟩ := h
    obtain ⟨hbody, hstop⟩ := stands_append.mp hcode
    rw [Expr.length_code] at hstop
    refine ((Realizes.mark hstart).comp ((ih he.2 hbody).comp (Realizes.mark hstop.1))).congr
      fun p q => ?_
    simp only [Relation.Comp, exists_eq_left]
    rfl
  | seq e f ihe ihf =>
    obtain ⟨hfirst, hrest⟩ := stands_append.mp h
    rw [Expr.length_code] at hrest
    exact (ihe he.1 hfirst).comp (ihf he.2 hrest)
  | alt e f ihe ihf =>
    obtain ⟨hfork, hcode⟩ := h
    obtain ⟨hfirst, hrest⟩ := stands_append.mp hcode
    rw [Expr.length_code] at hrest
    exact Realizes.fork hfork (ihe he.1 hfirst) (ihf he.2 hrest)
  | «repeat» min max greedy e ih =>
    have hlength : ∀ pc next, (e.code pc next).length = e.codeSize := e.length_code
    have hbody : ∀ {pc next}, Stands program pc (e.code pc next) →
        Realizes program length (e.Ways (.traces length)) pc next := ih he.2
    cases max with
    | none =>
      rw [Expr.code] at h
      split at h
      · -- as many copies as there must be, of which the last is the body of a loop
        rename_i hmin
        obtain ⟨k, rfl⟩ := Nat.exists_eq_succ_of_ne_zero hmin
        obtain ⟨hcopies, hchoose⟩ := stands_append.mp h
        rw [Expr.length_copies hlength] at hchoose
        have hlast := hbody (stands_last_copy hlength hcopies)
        rw [show pc + k * e.codeSize + e.codeSize = pc + (k + 1) * e.codeSize by
          rw [Nat.succ_mul]; omega] at hlast
        exact ((realizes_copies hlength hbody hcopies).comp (Realizes.loop hchoose.1 hlast)).congr
          fun _ _ => comp_times_iff
      · rename_i hmin
        cases not_not.mp hmin
        have hany (p q : Spot Trace) : (∃ n, Times (e.Ways (.traces length)) n p q) ↔
            (Expr.repeat 0 none greedy e).Ways (.traces length) p q := by
          simp [Ways, Repeated, Within]
        split at h
        · exact (Realizes.loop h.1 (hbody h.2)).congr hany
        · -- the loop is entered at its body, or left out
          obtain ⟨hchoose, hcode⟩ := h
          obtain ⟨hfirst, hagain⟩ := stands_append.mp hcode
          rw [Expr.length_code] at hagain
          have hfirst := hbody hfirst
          refine (Realizes.choose hchoose (hfirst.comp (Realizes.loop hagain.1 hfirst))
            (.refl program length next)).congr fun p q => ?_
          rw [← hany]
          constructor
          · rintro (⟨r, hpr, n, hrq⟩ | rfl)
            · exact ⟨n + 1, .succ hpr hrq⟩
            · exact ⟨0, .zero⟩
          · rintro ⟨n, hpq⟩
            cases hpq with
            | zero => exact .inr rfl
            | succ hpr hrq => exact .inl ⟨_, hpr, _, hrq⟩
    | some max =>
      rw [Expr.code] at h
      have hmax : min ≤ max := he.1 max rfl
      obtain ⟨hcopies, hrest⟩ := stands_append.mp h
      rw [Expr.length_copies hlength] at hrest
      obtain ⟨hoptions, hjump⟩ := stands_append.mp hrest
      rw [Expr.length_options hlength] at hjump
      have hoptional := (realizes_options hlength hbody rfl hoptions).comp (Realizes.jump hjump.1)
      refine ((realizes_copies hlength hbody hcopies).comp hoptional).congr fun p q => ?_
      rw [Ways, ← comp_repeated_iff hmax]
      simp [Relation.Comp]

/-- The program of an expression accepts along the ways of the expression to the end of a text. -/
theorem Expr.accepts_program_iff {e : Expr} (he : e.Proper) {length : Nat} {trace : Trace}
    {s : Spot Trace} : (∃ n, Accepts e.program length trace n 0 s) ↔
      ∃ before, e.Ways (.traces length) s ⟨⟨before, []⟩, trace⟩ := by
  have hcode : Stands e.program 0 (e.code 0 e.codeSize ++ [.accept]) := stands_toArray [] _
  obtain ⟨hcode, haccept⟩ := stands_append.mp hcode
  rw [e.length_code, Nat.zero_add] at haccept
  have hrealizes : Realizes e.program length (e.Ways (.traces length)) 0 e.codeSize :=
    realizes_code he hcode
  constructor
  · rintro ⟨n, ha⟩
    obtain ⟨m, q, -, hpq, ha⟩ := hrealizes.sound ha
    cases ha with
    | accept => exact ⟨_, hpq⟩
    | glide h' hnext =>
      cases haccept.1.symm.trans h'
      simp [Inst.glide] at hnext
    | take h' => cases haccept.1.symm.trans h'
  · rintro ⟨before, hpq⟩
    exact hrealizes.complete hpq (.accept haccept.1)

end DeclRules.Pattern
