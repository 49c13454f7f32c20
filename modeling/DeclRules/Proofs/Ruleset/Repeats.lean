import DeclRules.Proofs.Pass.Usage

/-! # Rules that are in force more than once

A ruleset that is extended along several ways has its rules in the tables once for each of them.
`Ruleset.contributions` says of every place whose own rule stands there. Only the first of several
places of one rule is ever found (`Ruleset.finds_eq_false_of_repeat`), and the others are always
reported as unused. So the report speaks of a rule only at its first place
(`Ruleset.reports_iff_of_contribution`); elsewhere it may name a rule that was found
(`Ruleset.not_forall_reports_unfound`). -/

namespace DeclRules

/-- One of the own rules of a ruleset, by its place among those of a kind. -/
structure Contribution where
  ruleset : Ruleset
  place : Nat

def Contribution.entry? (w : Contribution) (k : Kind) : Option Entry :=
  (w.ruleset.localEntries k)[w.place]?

/-- The rule at `i` of kind `k` is reported as one that never matched. -/
def Compiled.Reports (c : Compiled) (k : Kind) (i : Nat) : Prop :=
  ∃ u ∈ c.unused, u.kind = k ∧ u.index = i

namespace Ruleset

/-- The own rules of a kind. -/
def ownContributions (k : Kind) (r : Ruleset) : List Contribution :=
  (List.range (r.localEntries k).length).map (⟨r, ·⟩)

mutual

/-- What stands at each place among the rules in force. -/
def contributions (k : Kind) : Ruleset → List Contribution
  | ⟨name, description, parents, rules⟩ =>
    ownContributions k ⟨name, description, parents, rules⟩ ++ contributionsAll k parents

def contributionsAll (k : Kind) : List Ruleset → List Contribution
  | [] => []
  | r :: rs => contributions k r ++ contributionsAll k rs

end

theorem forall₂_ownContributions (k : Kind) (r : Ruleset) :
    List.Forall₂ (fun w e => w.entry? k = some e) (ownContributions k r) (r.localEntries k) := by
  rw [List.forall₂_iff_get]
  refine ⟨by simp [ownContributions], fun i hi hi' => ?_⟩
  simp [ownContributions, Contribution.entry?]

mutual

theorem forall₂_contributions (k : Kind) : ∀ r : Ruleset,
    List.Forall₂ (fun w e => w.entry? k = some e) (contributions k r) (build k r)
  | ⟨name, description, parents, rules⟩ =>
    List.rel_append (forall₂_ownContributions k ⟨name, description, parents, rules⟩)
      (forall₂_contributionsAll k parents)

theorem forall₂_contributionsAll (k : Kind) : ∀ rs : List Ruleset,
    List.Forall₂ (fun w e => w.entry? k = some e) (contributionsAll k rs) (buildAll k rs)
  | [] => .nil
  | r :: rs => List.rel_append (forall₂_contributions k r) (forall₂_contributionsAll k rs)

end

variable {R : Ruleset} {c : Compiled} {k : Kind} {i j : Nat} {w : Contribution}

/-- The entry at a place is that of the rule that stands there. -/
theorem getElem?_build (hw : (R.contributions k)[i]? = some w) :
    (R.build k)[i]? = w.entry? k := by
  have hall := forall₂_contributions k R
  obtain ⟨hi, rfl⟩ := List.getElem?_eq_some_iff.mp hw
  have hi' : i < (R.build k).length := hall.length_eq ▸ hi
  rw [List.getElem?_eq_getElem hi']
  exact (hall.get hi hi').symm

/-- A rule that stands further ahead too is never found where it stands again. -/
theorem finds_eq_false_of_repeat (h : R.compile = .ok c) (hi : (R.contributions k)[i]? = some w)
    (hj : (R.contributions k)[j]? = some w) (hlt : j < i) (q : Query) :
    c.finds k i q = false := by
  by_contra hfinds
  obtain ⟨-, -, e, hfirst⟩ := (finds_iff h).mp (Bool.not_eq_false _ ▸ hfinds)
  have he : (R.build k)[j]? = some e := by
    rw [getElem?_build hj, ← getElem?_build hi, hfirst.getElem]
  exact hfirst.first j e hlt he hfirst.covers

/-- A rule is reported if the queries that found it come to a multiple of 2^64. -/
theorem reports_iff (h : R.compile = .ok c) (hi : i < (R.build k).length)
    (ops : List Operation) : (c.afterAll ops).Reports k i ↔
      (sinceReset k ops).countP (c.finds k i) % 2 ^ 64 = 0 := by
  have hzero (n : Nat) : UInt64.ofNat n = 0 ↔ n % 2 ^ 64 = 0 := by
    rw [← UInt64.toNat_inj, UInt64.toNat_ofNat']
    rfl
  simp only [Compiled.Reports, Compiled.unused_eq, usage_afterAll_flatMap h, List.mem_filter,
    List.mem_flatMap, List.mem_map, decide_eq_true_eq]
  constructor
  · rintro ⟨_, ⟨⟨k', -, ⟨e, i'⟩, -, rfl⟩, hhits⟩, rfl, rfl⟩
    exact (hzero _).mp hhits
  · intro hcount
    have hk : k ∈ Kind.all := by cases k <;> decide
    have hrow : ((R.build k)[i], i) ∈ (R.build k).zipIdx :=
      List.mem_zipIdx_iff_getElem?.mpr (List.getElem?_eq_getElem hi)
    exact ⟨_, ⟨⟨k, hk, _, hrow, rfl⟩, (hzero _).mpr hcount⟩, rfl, rfl⟩

/-- A rule is always reported where it stands again. -/
theorem reports_of_repeat (h : R.compile = .ok c) (hi : (R.contributions k)[i]? = some w)
    (hj : (R.contributions k)[j]? = some w) (hlt : j < i) (ops : List Operation) :
    (c.afterAll ops).Reports k i := by
  have hlength : i < (R.build k).length :=
    (forall₂_contributions k R).length_eq ▸ (List.getElem?_eq_some_iff.mp hi).1
  have hcount : (sinceReset k ops).countP (c.finds k i) = 0 :=
    List.countP_eq_zero.mpr fun q _ =>
      Bool.not_eq_true _ |>.mpr (finds_eq_false_of_repeat h hi hj hlt q)
  exact (reports_iff h hlength ops).mpr (by rw [hcount, Nat.zero_mod])

/-- **What the report of unused rules says.** At the first place of a rule it says whether the rule
was found at all, be it here or elsewhere. At every other place of the rule it reports it whatever
was found. -/
theorem reports_iff_of_contribution (h : R.compile = .ok c)
    (hw : (R.contributions k)[i]? = some w) (ops : List Operation) :
    ((∀ j < i, (R.contributions k)[j]? ≠ some w) → (sinceReset k ops).length < 2 ^ 64 →
      ((c.afterAll ops).Reports k i ↔ ∀ q ∈ sinceReset k ops, ∀ j,
        (R.contributions k)[j]? = some w → c.finds k j q = false)) ∧
    ((∃ j < i, (R.contributions k)[j]? = some w) → (c.afterAll ops).Reports k i) := by
  have hlength : i < (R.build k).length :=
    (forall₂_contributions k R).length_eq ▸ (List.getElem?_eq_some_iff.mp hw).1
  refine ⟨fun hfirst hfew => ?_, fun ⟨j, hlt, hj⟩ => reports_of_repeat h hw hj hlt ops⟩
  rw [reports_iff h hlength, Nat.mod_eq_of_lt (List.countP_le_length.trans_lt hfew),
    List.countP_eq_zero]
  constructor
  · intro hnone q hq j hj
    rcases Nat.lt_trichotomy j i with hlt | rfl | hlt
    · exact absurd hj (hfirst j hlt)
    · exact Bool.eq_false_of_not_eq_true (hnone q hq)
    · exact finds_eq_false_of_repeat h hj hw hlt q
  · intro hnone q hq
    exact Bool.not_eq_true _ |>.mpr (hnone q hq i hw)

section Diamond

/-- Extends two rulesets without rules, which both extend the one that discards every typedef. -/
def diamond : Ruleset where
  name := ⟨"._", by simp [isRulesetName, isNameChar]⟩
  description := none
  parents := [
    ⟨⟨"_.", by simp [isRulesetName, isNameChar]⟩, none, [anyTypedef], fun _ => []⟩,
    ⟨⟨"-.", by simp [isRulesetName, isNameChar]⟩, none, [anyTypedef], fun _ => []⟩]
  rules _ := []

/-- The rule for typedefs stands in the table of the diamond twice. -/
theorem contributions_diamond :
    diamond.contributions .typedef = [⟨anyTypedef, 0⟩, ⟨anyTypedef, 0⟩] := rfl

theorem exists_compile_diamond : ∃ c, diamond.compile = .ok c := by
  have hside {P : Ruleset} (hP : P ∈ diamond.parents) : ∃ c, P.compile = .ok c := by
    refine exists_compile_iff_parents.mpr ⟨fun k e he => ?_, fun Q hQ => ?_⟩
    · rcases List.mem_pair.mp hP with rfl | rfl <;> cases he
    · have hQ' : Q = anyTypedef := by
        rcases List.mem_pair.mp hP with rfl | rfl <;> exact List.mem_singleton.mp hQ
      exact hQ' ▸ exists_compile_anyTypedef
  exact exists_compile_iff_parents.mpr
    ⟨fun k e he => absurd he List.not_mem_nil, fun P hP => hside hP⟩

/-- A typedef falls to the rule at its first place. -/
theorem finds_diamond (h : diamond.compile = .ok c) :
    c.finds .typedef 0 (typedefCalled "a").query = true := by
  have hmatches {e : Entry} (he : e ∈ anyTypedef.localEntries .typedef) :
      e.Matches (typedefCalled "a") := matches_anyTypedef he (by decide) (by decide)
  exact (finds_iff h).mpr ⟨rfl, rfl, _, rfl, hmatches (List.mem_singleton_self _),
    fun j _ hj => absurd hj (Nat.not_lt_zero j)⟩

/-- The report may name a rule that was found. -/
theorem not_forall_reports_unfound :
    ¬ ∀ (R : Ruleset) (c : Compiled) (ops : List Operation) (k : Kind) (i : Nat)
      (w : Contribution), R.compile = .ok c → (∀ o ∈ ops, ∀ k, o.resets k = false) →
      (R.contributions k)[i]? = some w → (c.afterAll ops).Reports k i →
      ∀ q ∈ ops.flatMap Operation.queries, ∀ j,
        (R.contributions k)[j]? = some w → c.finds k j q = false := by
  intro hnever
  obtain ⟨c, hc⟩ := exists_compile_diamond
  have hreports : (c.afterAll [.resolve (typedefCalled "a")]).Reports .typedef 1 :=
    reports_of_repeat (w := ⟨anyTypedef, 0⟩) hc rfl rfl Nat.zero_lt_one _
  have hunfound := hnever diamond c _ .typedef 1 ⟨anyTypedef, 0⟩ hc
    (fun o ho _ => by cases List.mem_singleton.mp ho; rfl) rfl hreports
    (typedefCalled "a").query (List.mem_singleton_self _) 0 rfl
  exact Bool.false_ne_true (hunfound.symm.trans (finds_diamond hc))

/-- Once a typedef was looked up, the report leaves the first place of the rule out and names the
second. -/
theorem reports_iff_of_contribution_diamond : ∃ c, diamond.compile = .ok c ∧
    ¬ (c.afterAll [.resolve (typedefCalled "a")]).Reports .typedef 0 ∧
    (c.afterAll [.resolve (typedefCalled "a")]).Reports .typedef 1 := by
  obtain ⟨c, hc⟩ := exists_compile_diamond
  have hplace {i : Nat} (hi : i < 2) : (diamond.contributions .typedef)[i]? =
      some ⟨anyTypedef, 0⟩ := by
    rw [contributions_diamond]
    interval_cases i <;> rfl
  have hfirst := reports_iff_of_contribution hc (hplace (i := 0) (by decide))
    [.resolve (typedefCalled "a")]
  have hagain := reports_iff_of_contribution hc (hplace (i := 1) (by decide))
    [.resolve (typedefCalled "a")]
  refine ⟨c, hc, fun hreports => ?_, hagain.2 ⟨0, Nat.zero_lt_one, rfl⟩⟩
  have hunfound := (hfirst.1 (fun j hj => absurd hj (Nat.not_lt_zero j)) (by decide)).mp hreports
    (typedefCalled "a").query (List.mem_singleton_self _) 0 rfl
  exact Bool.false_ne_true (hunfound.symm.trans (finds_diamond hc))

end Diamond

end Ruleset

end DeclRules
