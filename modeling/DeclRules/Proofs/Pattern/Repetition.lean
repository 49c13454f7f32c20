import DeclRules.Pattern.FieldPattern
import DeclRules.Proofs.Unicode.CharSet
import Mathlib.Logic.Relation

/-! # Repetitions by the number of their stretches

A repetition covers a text if the text falls into stretches that its body covers one after the
other, as many as the bounds allow (`Expr.matches_repeat_iff`). `Times R n` is the relation `R`
applied `n` times. An expression is proper if its bounds are in order, its sets of characters are
as the operations on sets give them and no group stands inside one of its number
(`Expr.Proper`). -/

namespace DeclRules.Pattern

open Pattern.Expr (Place)

section Times

variable {α β : Type}

/-- A relation applied a number of times. -/
inductive Times (R : α → α → Prop) : Nat → α → α → Prop where
  | zero {p} : Times R 0 p p
  | succ {n p q r} : R p q → Times R n q r → Times R (n + 1) p r

namespace Times

variable {R S : α → α → Prop} {n m : Nat} {p q r : α}

@[simp] theorem zero_iff : Times R 0 p q ↔ p = q :=
  ⟨fun h => by cases h; rfl, fun h => h ▸ .zero⟩

theorem succ_iff : Times R (n + 1) p r ↔ ∃ q, R p q ∧ Times R n q r :=
  ⟨fun h => by cases h with | succ h h' => exact ⟨_, h, h'⟩, fun ⟨_, h, h'⟩ => .succ h h'⟩

@[simp] theorem one_iff : Times R 1 p q ↔ R p q := by
  simp [succ_iff]

theorem mono (h : ∀ {p q}, R p q → S p q) (hn : Times R n p q) : Times S n p q := by
  induction hn with
  | zero => exact .zero
  | succ hpq _ ih => exact .succ (h hpq) ih

theorem add_iff : Times R (n + m) p r ↔ ∃ q, Times R n p q ∧ Times R m q r := by
  induction n generalizing p with
  | zero => simp
  | succ n ih =>
    simp only [Nat.succ_add, succ_iff, ih]
    constructor
    · rintro ⟨a, hpa, q, haq, hqr⟩
      exact ⟨q, ⟨a, hpa, haq⟩, hqr⟩
    · rintro ⟨q, ⟨a, hpa, haq⟩, hqr⟩
      exact ⟨a, hpa, q, haq, hqr⟩

/-- A relation that keeps all that it leads to holds again wherever it holds once. -/
theorem succ_of_settled (h : ∀ {p q}, R p q → R q q) (hpq : R p q) (n : Nat) :
    Times R (n + 1) p q := by
  have hagain (n : Nat) : Times R n q q := by
    induction n with
    | zero => exact .zero
    | succ n ih => exact .succ (h hpq) ih
  exact .succ hpq (hagain n)

/-- A relation that keeps everything where it is holds once if it holds more often. -/
theorem one_of_eq (h : ∀ {p q}, R p q → p = q) (hpq : Times R (n + 1) p q) : R p q := by
  induction n with
  | zero => exact one_iff.mp hpq
  | succ n ih =>
    obtain ⟨a, hpa, haq⟩ := succ_iff.mp hpq
    cases h hpa
    exact ih haq

/-- Where every step can be followed, all of them can. -/
theorem follow {R : α → α → Prop} {S : β → β → Prop} {F : α → β → Prop}
    (h : ∀ {p q p'}, R p q → F p p' → ∃ q', S p' q' ∧ F q q') {p q : α} {p' : β}
    (hpq : Times R n p q) (hF : F p p') : ∃ q', Times S n p' q' ∧ F q q' := by
  induction hpq generalizing p' with
  | zero => exact ⟨p', .zero, hF⟩
  | succ hpq _ ih =>
    obtain ⟨q', hS, hF⟩ := h hpq hF
    obtain ⟨r', hT, hF⟩ := ih hF
    exact ⟨r', .succ hS hT, hF⟩

end Times

/-- A number of stretches that the bounds of a repetition allow. -/
def Within (min : Nat) (max : Option Nat) (n : Nat) : Prop := min ≤ n ∧ ∀ m ∈ max, n ≤ m

theorem within_pred {min n : Nat} {max : Option Nat} (h : max ≠ some 0) :
    Within (min - 1) (max.map (· - 1)) n ↔ Within min max (n + 1) := by
  cases max with
  | none => simp [Within]
  | some m =>
    have hm : m ≠ 0 := fun h0 => h (h0 ▸ rfl)
    simp only [Within, Option.map_some, Option.mem_def, Option.some.injEq, forall_eq']
    omega

/-- A relation applied as often as some number within bounds says. -/
def Repeated (R : α → α → Prop) (min : Nat) (max : Option Nat) (p q : α) : Prop :=
  ∃ n, Within min max n ∧ Times R n p q

theorem Repeated.mono {R S : α → α → Prop} (h : ∀ {p q}, R p q → S p q) {min : Nat}
    {max : Option Nat} {p q : α} (hpq : Repeated R min max p q) : Repeated S min max p q :=
  hpq.imp fun _ hn => hn.imp_right (Times.mono h)

theorem Repeated.follow {R : α → α → Prop} {S : β → β → Prop} {F : α → β → Prop}
    (h : ∀ {p q p'}, R p q → F p p' → ∃ q', S p' q' ∧ F q q') {min : Nat} {max : Option Nat}
    {p q : α} {p' : β} (hpq : Repeated R min max p q) (hF : F p p') :
    ∃ q', Repeated S min max p' q' ∧ F q q' := by
  obtain ⟨n, hn, hpq⟩ := hpq
  obtain ⟨q', hT, hF⟩ := hpq.follow h hF
  exact ⟨q', ⟨n, hn, hT⟩, hF⟩

end Times

namespace Expr

variable {e : Expr} {min : Nat} {max : Option Nat} {greedy : Bool} {p q : Place}

theorem matches_repeat_iff :
    Matches (.repeat min max greedy e) p q ↔ Repeated (Matches e) min max p q := by
  constructor
  · intro h
    generalize hrepeat : Expr.repeat min max greedy e = r at h
    induction h generalizing min max with
    | done =>
      cases hrepeat
      exact ⟨0, ⟨Nat.le_refl 0, fun _ _ => Nat.zero_le _⟩, .zero⟩
    | more hmax hpq _ _ ih =>
      cases hrepeat
      obtain ⟨n, hn, hqr⟩ := ih rfl
      exact ⟨n + 1, (within_pred hmax).mp hn, .succ hpq hqr⟩
    | _ => cases hrepeat
  · rintro ⟨n, hn, hpq⟩
    induction hpq generalizing min max with
    | zero =>
      cases Nat.le_zero.mp hn.1
      exact .done
    | @succ n p q r hpq _ ih =>
      have hmax : max ≠ some 0 := fun h => absurd (hn.2 0 h) (Nat.not_succ_le_zero n)
      exact .more hmax hpq (ih ((within_pred hmax).mpr hn))

/-- Bounds are in order, sets are as the operations on sets give them, and no group stands inside
one of its number. -/
def Proper : Expr → Prop
  | empty | look _ => True
  | chars s => s.Proper
  | .repeat min max _ e => (∀ m ∈ max, min ≤ m) ∧ e.Proper
  | group i _ e => (∀ g ∈ e.groups, g.1 ≠ i) ∧ e.Proper
  | seq e f | alt e f => e.Proper ∧ f.Proper

end Expr

end DeclRules.Pattern
