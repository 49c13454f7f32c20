import DeclRules.Loader
import DeclRules.Proofs.FirstFault
import Mathlib.Data.List.Chain
import Mathlib.Logic.Relation

/-! # The graph of rule files

Rule files are the nodes of a graph in which a file refers to those that it extends
(`FileView.Refers`). `Unfolds` relates a file to the ruleset that one gets by reading it and, for
each path it extends, the file there, and so on: the graph spread out into a tree.

A file has at most one unfolding (`Unfolds.unique`), and if it has one there is no circle among the
files it reaches (`Unfolds.acc`, `not_transGen_of_acc`). -/

namespace DeclRules

open Relation

/-- The file at `a` extends the file at `b`; both are canonical paths. -/
def FileView.Refers (v : FileView) (a b : Path) : Prop :=
  ∃ f p, RuleFile.load v a = .ok f ∧ p ∈ f.references a ∧ v.canonical p = .ok b

/-- One gets from `a` to `b` by going from files to those they extend. -/
abbrev FileView.Reaches (v : FileView) : Path → Path → Prop := ReflTransGen v.Refers

/-- The ruleset says what the file says, on top of the given parents. -/
structure RuleFile.Describes (f : RuleFile) (parents : List Ruleset) (r : Ruleset) : Prop where
  name : r.name = f.name
  description : r.description = f.description
  parents : r.parents = parents
  rules : ∀ k, f.entries k = .ok (r.rules k)

theorem RuleFile.Describes.unique {f : RuleFile} {parents : List Ruleset} {r r' : Ruleset}
    (h : f.Describes parents r) (h' : f.Describes parents r') : r = r' := by
  obtain ⟨name, description, _, rules⟩ := r
  obtain ⟨name', description', _, rules'⟩ := r'
  cases h.name.trans h'.name.symm
  cases h.description.trans h'.description.symm
  cases h.parents.trans h'.parents.symm
  have hrules : rules = rules' :=
    funext fun k => Except.ok.inj ((h.rules k).symm.trans (h'.rules k))
  rw [hrules]

theorem RuleFile.toRuleset_eq_ok_iff {f : RuleFile} {parents : List Ruleset} {r : Ruleset} :
    f.toRuleset parents = .ok r ↔ f.Describes parents r := by
  unfold toRuleset
  rw [Except.bind_eq_ok_iff]
  constructor
  · rintro ⟨m, hm, h⟩
    cases h
    exact ⟨rfl, rfl, rfl, PerKind.ofExcept_eq_ok_iff.mp hm⟩
  · intro h
    obtain ⟨m, hm⟩ := PerKind.exists_ofExcept_iff.mpr fun k => ⟨_, h.rules k⟩
    exact ⟨m, hm, congrArg _ (RuleFile.Describes.unique
      ⟨rfl, rfl, rfl, PerKind.ofExcept_eq_ok_iff.mp hm⟩ h)⟩

/-- A file makes a ruleset if it does so for each kind. -/
theorem RuleFile.exists_toRuleset_iff {f : RuleFile} {parents : List Ruleset} :
    (∃ r, f.toRuleset parents = .ok r) ↔ ∀ k, ∃ es, f.entries k = .ok es := by
  simp only [← PerKind.exists_ofExcept_iff, toRuleset, Except.bind_eq_ok_iff, pure, Except.pure,
    Except.ok.injEq]
  constructor
  · rintro ⟨r, m, hm, -⟩
    exact ⟨m, hm⟩
  · rintro ⟨m, hm⟩
    exact ⟨_, m, hm, rfl⟩

namespace Loader

variable {v : FileView} {c : Path} {r : Ruleset}

/-- The rulesets that the files at some paths unfold to, path by path. -/
inductive UnfoldsAll (v : FileView) : List Path → List Ruleset → Prop where
  | nil : UnfoldsAll v [] []
  | cons {p c f parents r ps rs} : v.canonical p = .ok c → RuleFile.load v c = .ok f →
    UnfoldsAll v (f.references c) parents → f.Describes parents r → UnfoldsAll v ps rs →
    UnfoldsAll v (p :: ps) (r :: rs)

/-- The ruleset that the file at the canonical path `c` unfolds to: its own rules, on top of the
unfoldings of the files that it extends, in the order in which it extends them. -/
def Unfolds (v : FileView) (c : Path) (r : Ruleset) : Prop :=
  ∃ f parents, RuleFile.load v c = .ok f ∧ UnfoldsAll v (f.references c) parents ∧
    f.Describes parents r

theorem unfoldsAll_iff {ps : List Path} {rs : List Ruleset} : UnfoldsAll v ps rs ↔
    List.Forall₂ (fun p r => ∃ c, v.canonical p = .ok c ∧ Unfolds v c r) ps rs := by
  constructor
  · intro h
    induction h with
    | nil => exact .nil
    | cons hc hf hparents hr _ _ ih => exact .cons ⟨_, hc, _, _, hf, hparents, hr⟩ ih
  · intro h
    induction h with
    | nil => exact .nil
    | cons h _ ih =>
      obtain ⟨c, hc, f, parents, hf, hparents, hr⟩ := h
      exact .cons hc hf hparents hr ih

theorem UnfoldsAll.unique {ps : List Path} {rs rs' : List Ruleset} (h : UnfoldsAll v ps rs)
    (h' : UnfoldsAll v ps rs') : rs = rs' := by
  induction h generalizing rs' with
  | nil =>
    cases h'
    rfl
  | cons hc hf _ hr _ ihparents ih =>
    obtain _ | ⟨hc', hf', hparents', hr', hrest'⟩ := h'
    cases hc.symm.trans hc'
    cases hf.symm.trans hf'
    cases ihparents hparents'
    rw [hr.unique hr', ih hrest']

theorem Unfolds.unique {r' : Ruleset} (h : Unfolds v c r) (h' : Unfolds v c r') : r = r' := by
  obtain ⟨f, parents, hf, hparents, hr⟩ := h
  obtain ⟨f', parents', hf', hparents', hr'⟩ := h'
  cases hf.symm.trans hf'
  cases hparents.unique hparents'
  exact hr.unique hr'

theorem UnfoldsAll.acc {ps : List Path} {rs : List Ruleset} (h : UnfoldsAll v ps rs) {p : Path}
    (hp : p ∈ ps) (hc : v.canonical p = .ok c) : Acc (fun b a => v.Refers a b) c := by
  induction h generalizing p c with
  | nil => simp at hp
  | cons hc' hf _ _ _ ihparents ih =>
    rcases List.mem_cons.mp hp with rfl | hp
    · cases hc.symm.trans hc'
      refine ⟨_, fun b hb => ?_⟩
      obtain ⟨f', q, hf', hq, hb⟩ := hb
      cases hf.symm.trans hf'
      exact ihparents hq hb
    · exact ih hp hc

theorem Unfolds.acc (h : Unfolds v c r) : Acc (fun b a => v.Refers a b) c := by
  obtain ⟨f, parents, hf, hparents, -⟩ := h
  refine ⟨_, fun b hb => ?_⟩
  obtain ⟨f', q, hf', hq, hb⟩ := hb
  cases hf.symm.trans hf'
  exact hparents.acc hq hb

/-- Nothing that is reached from a file with an unfolding comes back to itself. -/
theorem not_transGen_of_acc {a b : Path} (h : Acc (fun b a => v.Refers a b) a)
    (hb : v.Reaches a b) : ¬ TransGen v.Refers b b := by
  induction h generalizing b with
  | intro a _ ih =>
    intro hcircle
    rcases ReflTransGen.cases_head hb with rfl | ⟨a', ha', hb⟩
    · obtain ⟨a', ha', hback⟩ := TransGen.head'_iff.mp hcircle
      exact ih a' ha' .refl (TransGen.tail'_iff.mpr ⟨a, hback, ha'⟩)
    · exact ih a' ha' hb hcircle

end Loader

end DeclRules
