import DeclRules.Proofs.FirstFault
import DeclRules.Ruleset.Compiled

/-! # What a rule is refused for

`Rule.Refused` lists what can be wrong with an entry, in the order in which it is looked at: its
kind, the number of its patterns, the first pattern that does not compile. These are the errors of
compiling a rule (`Rule.compile_eq_error_iff`), and so of compiling a ruleset
(`Ruleset.exists_of_compile_eq_error`). -/

namespace DeclRules

namespace Rule

variable {k : Kind} {index : Nat} {e : Entry} {c : ConfigError}

/-- What is wrong with the entry at `index` of the table for `k`. -/
inductive Refused (k : Kind) (index : Nat) (e : Entry) : ConfigError → Prop
  | kind (h : e.kind ≠ k) : Refused k index e (.foreignRule k e.kind index e.origin)
  | arity (hk : e.kind = k) (h : e.patterns.length ≠ k.arity) :
    Refused k index e (.wrongArity k index e.origin e.patterns.length)
  | pattern {before after : List String} {source : String} {cause : PatternError} (hk : e.kind = k)
    (harity : e.patterns.length = k.arity) (hsplit : e.patterns = before ++ source :: after)
    (hbefore : ∀ s ∈ before, ∃ p, FieldPattern.compile s = .ok p)
    (h : FieldPattern.compile source = .error cause) :
    Refused k index e (.invalidPattern k index e.origin source cause)

theorem mapM_compilePattern_eq_error_iff :
    e.patterns.mapM (compilePattern index e) = .error c ↔
      ∃ before source after cause, e.patterns = before ++ source :: after ∧
        (∀ s ∈ before, ∃ p, FieldPattern.compile s = .ok p) ∧
        FieldPattern.compile source = .error cause ∧
        c = .invalidPattern e.kind index e.origin source cause := by
  simp only [Except.mapM_eq_error_iff, compilePattern, Except.mapError_eq_ok_iff,
    Except.mapError_eq_error_iff]
  constructor
  · rintro ⟨before, source, after, hsplit, hbefore, cause, hcause, rfl⟩
    exact ⟨before, source, after, cause, hsplit, hbefore, hcause, rfl⟩
  · rintro ⟨before, source, after, cause, hsplit, hbefore, hcause, rfl⟩
    exact ⟨before, source, after, hsplit, hbefore, cause, hcause, rfl⟩

theorem compile_eq_error_iff : compile k index e = .error c ↔ Refused k index e c := by
  by_cases hk : e.kind = k
  · subst hk
    by_cases harity : e.patterns.length = e.kind.arity
    · have hcompile : compile e.kind index e = .error c ↔
          e.patterns.mapM (compilePattern index e) = .error c := by
        unfold compile
        rw [if_pos rfl, dif_pos harity]
        split
        · rename_i hok
          simp [hok]
        · rename_i herror
          simp [herror]
      rw [hcompile, mapM_compilePattern_eq_error_iff]
      constructor
      · rintro ⟨before, source, after, cause, hsplit, hbefore, hcause, rfl⟩
        exact .pattern rfl harity hsplit hbefore hcause
      · intro h
        cases h with
        | kind h => exact absurd rfl h
        | arity _ h => exact absurd harity h
        | pattern _ _ hsplit hbefore hcause =>
          exact ⟨_, _, _, _, hsplit, hbefore, hcause, rfl⟩
    · have hcompile : compile e.kind index e =
          .error (.wrongArity e.kind index e.origin e.patterns.length) := by
        unfold compile
        rw [if_pos rfl, dif_neg harity]
      rw [hcompile]
      constructor
      · rintro ⟨⟩
        exact .arity rfl harity
      · intro h
        cases h with
        | kind h => exact absurd rfl h
        | arity => rfl
        | pattern _ h => exact absurd h harity
  · have hcompile : compile k index e = .error (.foreignRule k e.kind index e.origin) :=
      if_neg hk
    rw [hcompile]
    constructor
    · rintro ⟨⟩
      exact .kind hk
    · intro h
      cases h with
      | kind => rfl
      | arity h => exact absurd h hk
      | pattern h => exact absurd h hk

end Rule

/-- A ruleset is refused for one of the rules in force. -/
theorem Ruleset.exists_of_compile_eq_error {R : Ruleset} {c : ConfigError}
    (h : R.compile = .error c) :
    ∃ k i e, (R.build k)[i]? = some e ∧ Rule.Refused k i e c := by
  obtain h | ⟨_, -, h⟩ := Except.bind_eq_error_iff.mp h
  · obtain ⟨k, h⟩ := PerKind.exists_of_ofExcept_eq_error h
    obtain h | ⟨_, -, h⟩ := Except.bind_eq_error_iff.mp h
    · obtain h | ⟨_, -, h⟩ := Except.bind_eq_error_iff.mp h
      · obtain ⟨⟨e, i⟩, he, hrule⟩ := Except.exists_of_mapM_eq_error h
        exact ⟨k, i, e, List.mem_zipIdx_iff_getElem?.mp he, Rule.compile_eq_error_iff.mp hrule⟩
      · cases h
    · cases h
  · cases h

end DeclRules
