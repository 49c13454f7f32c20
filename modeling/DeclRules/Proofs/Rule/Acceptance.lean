import DeclRules.Proofs.Pattern.FullMatch
import DeclRules.Proofs.Rule.Refusal
import DeclRules.Proofs.Ruleset.Layering

/-! # Which patterns are accepted

As far as nesting and size go, a source that is well formed on its own compiles unless it ends in a
comment of verbose mode (`FieldPattern.exists_compile_iff`): such a comment takes in what closes the
group around the source. A ruleset is refused for a pattern only if one of its rules in force has a
source that does not compile (`Ruleset.of_compile_eq_invalidPattern`). -/

namespace DeclRules

namespace Pattern

variable {s : List Char}

/-- The source is a pattern on its own, however deep it nests and however large its automata are. -/
def WellFormed (s : List Char) : Prop := ∃ a e f, tree? s = some a ∧ a.elaborate {} = some (e, f)

/-- The nesting and the size of the pattern are allowed, alone and between the anchors. -/
def WithinLimits (s : List Char) : Prop :=
  ∀ a e f, tree? s = some a → a.elaborate {} = some (e, f) →
    a.wrapped.depth ≤ maxDepth ∧ e.fits = true ∧ e.wrapped.fits = true

/-- Sources that are too deep or too large set aside, a wrapped source is a pattern if and only if
the source is one that does not end in a comment. -/
theorem exists_expr_iff : (∃ e e', expr s = .ok e ∧ expr (wrap s) = .ok e') ↔
    WellFormed s ∧ WithinLimits s ∧ ¬ EndsInComment s := by
  constructor
  · rintro ⟨e, e', he, he'⟩
    obtain ⟨a, f, ha, helab, rfl, hwrap⟩ := exists_of_expr_wrap he he'
    obtain ⟨htree, -⟩ := parse_eq_some_iff.mp ha
    obtain ⟨htree', hdepth⟩ := parse_eq_some_iff.mp hwrap
    obtain ⟨_, _, -, -, hfits⟩ := expr_eq_ok_iff.mp he
    obtain ⟨_, _, -, -, hfits'⟩ := expr_eq_ok_iff.mp he'
    refine ⟨⟨a, e, f, htree, helab⟩, fun a₁ e₁ f₁ ha₁ he₁ => ?_, fun hend => ?_⟩
    · cases htree.symm.trans ha₁
      cases helab.symm.trans he₁
      exact ⟨hdepth, hfits, hfits'⟩
    · obtain ⟨hclosed, -⟩ | ⟨-, hnone⟩ := tree?_wrap htree
      · exact hclosed hend
      · cases hnone.symm.trans htree'
  · rintro ⟨⟨a, e, f, htree, helab⟩, hlimits, hclosed⟩
    obtain ⟨hdepth, hfits, hfits'⟩ := hlimits a e f htree helab
    have hwrap : tree? (wrap s) = some a.wrapped :=
      (tree?_wrap htree).elim And.right fun h => absurd h.1 hclosed
    have hdepth₀ : a.depth ≤ maxDepth := by
      rw [Ast.depth_wrapped] at hdepth
      omega
    have helab' : a.wrapped.elaborate {} = some (e.wrapped, {}) := by
      rw [Ast.elaborate_wrapped, helab]
      rfl
    exact ⟨e, e.wrapped,
      expr_eq_ok_iff.mpr ⟨a, f, parse_eq_some_iff.mpr ⟨htree, hdepth₀⟩, helab, hfits⟩,
      expr_eq_ok_iff.mpr ⟨_, _, parse_eq_some_iff.mpr ⟨hwrap, hdepth⟩, helab', hfits'⟩⟩

end Pattern

open Pattern

theorem FieldPattern.exists_compile_iff {source : String} : (∃ p, compile source = .ok p) ↔
    WellFormed source.toList ∧ WithinLimits source.toList ∧ ¬ EndsInComment source.toList := by
  rw [← exists_expr_iff]
  constructor
  · rintro ⟨p, hp⟩
    obtain ⟨e, e', he, he', -⟩ := compile_eq_ok_iff.mp hp
    exact ⟨e, e', he, he'⟩
  · rintro ⟨e, e', he, he'⟩
    exact ⟨_, compile_eq_ok_iff.mpr ⟨e, e', he, he', rfl⟩⟩

/-- A ruleset is refused for a pattern of a rule in force, which does not compile. -/
theorem Ruleset.of_compile_eq_invalidPattern {R : Ruleset} {k : Kind} {i : Nat}
    {origin : Option RulesetName} {source : String} {cause : PatternError}
    (h : R.compile = .error (.invalidPattern k i origin source cause)) :
    ∃ e, (R.build k)[i]? = some e ∧ e.origin = origin ∧ source ∈ e.patterns ∧
      FieldPattern.compile source = .error cause := by
  obtain ⟨k', i', e, he, hrefused⟩ := exists_of_compile_eq_error h
  cases hrefused with
  | pattern _ _ hsplit _ hcause => exact ⟨e, he, rfl, by simp [hsplit], hcause⟩

/-- **What is accepted as a pattern.** A source compiles if and only if it is well formed on its
own, is not too deep or too large, and does not end in a comment; and a ruleset is refused for a
pattern only if a rule in force has it and one of these fails. -/
theorem accepted_iff (source : String) :
    ((∃ p, FieldPattern.compile source = .ok p) ↔
      WellFormed source.toList ∧ WithinLimits source.toList ∧ ¬ EndsInComment source.toList) ∧
    ∀ (R : Ruleset) (k : Kind) (i : Nat) (origin : Option RulesetName) (cause : PatternError),
      R.compile = .error (.invalidPattern k i origin source cause) →
        (∃ e, (R.build k)[i]? = some e ∧ e.origin = origin ∧ source ∈ e.patterns) ∧
        (WellFormed source.toList → WithinLimits source.toList → EndsInComment source.toList) := by
  refine ⟨FieldPattern.exists_compile_iff, fun R k i origin cause h => ?_⟩
  obtain ⟨e, he, horigin, hs, hcause⟩ := Ruleset.of_compile_eq_invalidPattern h
  refine ⟨⟨e, he, horigin, hs⟩, fun hwf hlimits => ?_⟩
  by_contra hclosed
  obtain ⟨p, hp⟩ := FieldPattern.exists_compile_iff.mpr ⟨hwf, hlimits, hclosed⟩
  cases hp.symm.trans hcause

section Commented

/-- A pattern with a comment behind it. -/
def commented : String := "(?x)a#c"

theorem tree?_commented : tree? commented.toList =
    some (.concat [.flags [(.verbose, true)], .atom (.literal 'a' false)]) := by
  cbv

theorem elaborate_commented :
    (Ast.concat [.flags [(.verbose, true)], .atom (.literal 'a' false)]).elaborate {} =
      some (.chars ⟨[(97, 97)]⟩, {}) := by
  cbv

theorem wellFormed_commented : WellFormed commented.toList :=
  ⟨_, _, _, tree?_commented, elaborate_commented⟩

theorem withinLimits_commented : WithinLimits commented.toList := by
  intro a e f ha he
  cases tree?_commented.symm.trans ha
  cases elaborate_commented.symm.trans he
  refine ⟨?_, ?_, ?_⟩ <;> cbv

theorem compile_commented : FieldPattern.compile commented = .error .malformed := by
  cbv

/-- A source that is well formed and within the limits need not be accepted. -/
theorem not_forall_accepted : ¬ ∀ source : String, WithinLimits source.toList →
    ((∃ p, FieldPattern.compile source = .ok p) ↔ WellFormed source.toList) := by
  intro haccepted
  obtain ⟨p, hp⟩ := (haccepted commented withinLimits_commented).mpr wellFormed_commented
  cases compile_commented.symm.trans hp

/-- The rule with the comment is the first of its kind, and the comment is in its second pattern. -/
theorem compile_typedefNamed_commented : (Ruleset.typedefNamed commented).compile = .error
    (.invalidPattern .typedef 0 (Ruleset.typedefNamed commented).name commented .malformed) := by
  let e : Entry := Entry.withOrigin ⟨.typedef, [RuleFile.wildcard, commented], .discard, none⟩
    (Ruleset.typedefNamed commented).name
  let fault : ConfigError := .invalidPattern .typedef 0 e.origin commented .malformed
  have hsplit : e.patterns = [RuleFile.wildcard] ++ commented :: [] := rfl
  have hwildcard : ∃ p, FieldPattern.compile RuleFile.wildcard = .ok p :=
    ⟨_, FieldPattern.compile_wildcard⟩
  have hrule : Rule.compile .typedef 0 e = .error fault :=
    Rule.compile_eq_error_iff.mpr (.pattern rfl rfl hsplit (by simpa using hwildcard)
      compile_commented)
  have htable : Table.compile .typedef ((Ruleset.typedefNamed commented).build .typedef) =
      .error fault :=
    Except.bind_eq_error_iff.mpr
      (.inl (Except.mapM_eq_error_iff.mpr ⟨[], (e, 0), _, rfl, by simp, hrule⟩))
  have hdatabase : Database.compile .typedef ((Ruleset.typedefNamed commented).build .typedef) =
      .error fault := Except.bind_eq_error_iff.mpr (.inl htable)
  exact Except.bind_eq_error_iff.mpr (.inl (Except.bind_eq_error_iff.mpr (.inr ⟨_, rfl,
    Except.bind_eq_error_iff.mpr (.inr ⟨_, rfl, Except.bind_eq_error_iff.mpr (.inl hdatabase)⟩)⟩)))

/-- The comment behind the pattern is what a ruleset with it is refused for. -/
theorem accepted_iff_commented : (Ruleset.typedefNamed commented).compile = .error
    (.invalidPattern .typedef 0 (Ruleset.typedefNamed commented).name commented .malformed) ∧
    EndsInComment commented.toList :=
  ⟨compile_typedefNamed_commented, ((accepted_iff commented).2 _ _ _ _ _
    compile_typedefNamed_commented).2 wellFormed_commented withinLimits_commented⟩

end Commented

end DeclRules
