import DeclRules.Proofs.Loader.Unfolding
import Mathlib.Data.List.Lex

/-! # The order of the ancestors

A walk through the graph of rule files takes, in each file on the way, the reference at some
position. The positions name the walk, and the walks from a file are ordered by them as words in a
dictionary are: first a walk that ends where another goes on, then the ways on by their positions.

The lineage of the unfolding of a file lists the names of the files in which the walks from that
file end, in the order of the walks (`Unfolds.preorder`). So a file stands in it as often as there
are walks that end there. -/

namespace DeclRules

/-- The walk from `a` to `b` that takes, in the files on its way, the references at the positions
of the list. -/
inductive FileView.Walk (v : FileView) : Path → List Nat → Path → Prop where
  | nil {a} : Walk v a [] a
  | cons {a f i p b w d} : RuleFile.load v a = .ok f → (f.references a)[i]? = some p →
    v.canonical p = .ok b → Walk v b w d → Walk v a (i :: w) d

namespace Loader

/-- The names of the files in which some walks end, in the order of the walks. -/
def Preorder (v : FileView) (walks : List Nat → Path → Prop) (names : List RulesetName) : Prop :=
  ∃ ws : List (List Nat × Path), (∀ w d, (w, d) ∈ ws ↔ walks w d) ∧
    ws.Pairwise (fun x y => x.1 < y.1) ∧
    List.Forall₂ (fun x n => ∃ f, RuleFile.load v x.2 = .ok f ∧ f.name = n) ws names

variable {v : FileView} {walks walks' : List Nat → Path → Prop} {names names' : List RulesetName}

namespace Preorder

theorem nil (h : ∀ w d, ¬ walks w d) : Preorder v walks [] :=
  ⟨[], fun w d => by simp [h w d], .nil, .nil⟩

theorem congr (h : Preorder v walks names) (hw : ∀ w d, walks w d ↔ walks' w d) :
    Preorder v walks' names := by
  obtain ⟨ws, hmem, hsorted, hnames⟩ := h
  exact ⟨ws, fun w d => (hmem w d).trans (hw w d), hsorted, hnames⟩

/-- Walks that come before others. -/
theorem append (h : Preorder v walks names) (h' : Preorder v walks' names')
    (hlt : ∀ w d w' d', walks w d → walks' w' d' → w < w') :
    Preorder v (fun w d => walks w d ∨ walks' w d) (names ++ names') := by
  obtain ⟨ws, hmem, hsorted, hnames⟩ := h
  obtain ⟨ws', hmem', hsorted', hnames'⟩ := h'
  refine ⟨ws ++ ws', fun w d => ?_, List.pairwise_append.mpr ⟨hsorted, hsorted', ?_⟩,
    List.rel_append hnames hnames'⟩
  · rw [List.mem_append, hmem, hmem']
  · intro x hx y hy
    exact hlt x.1 x.2 y.1 y.2 ((hmem _ _).mp hx) ((hmem' _ _).mp hy)

/-- Walks with one more step ahead of them. -/
theorem step (i : Nat) (h : Preorder v walks names) :
    Preorder v (fun w d => ∃ w', w = i :: w' ∧ walks w' d) names := by
  obtain ⟨ws, hmem, hsorted, hnames⟩ := h
  refine ⟨ws.map fun x => (i :: x.1, x.2), fun w d => ?_, List.pairwise_map.mpr ?_,
    List.forall₂_map_left_iff.mpr hnames⟩
  · rw [List.mem_map]
    constructor
    · rintro ⟨x, hx, heq⟩
      cases heq
      exact ⟨x.1, rfl, (hmem _ _).mp hx⟩
    · rintro ⟨w', rfl, hw'⟩
      exact ⟨(w', d), (hmem w' d).mpr hw', rfl⟩
  · exact hsorted.imp fun hlt => List.cons_lt_cons_iff.mpr (.inr ⟨rfl, hlt⟩)

/-- The walk that ends where it begins, ahead of walks that go on. -/
theorem root {a : Path} {f : RuleFile} (hf : RuleFile.load v a = .ok f)
    (h : Preorder v walks names) (hne : ∀ w d, walks w d → w ≠ []) :
    Preorder v (fun w d => (w = [] ∧ d = a) ∨ walks w d) (f.name :: names) := by
  have hroot : Preorder v (fun w d => w = [] ∧ d = a) [f.name] :=
    ⟨[([], a)], fun w d => by simp [eq_comm], List.pairwise_singleton _ _,
      .cons ⟨f, hf, rfl⟩ .nil⟩
  refine hroot.append h fun w d w' d' hw hw' => ?_
  obtain ⟨i, w', rfl⟩ := List.exists_cons_of_ne_nil (hne w' d' hw')
  exact hw.1 ▸ List.nil_lt_cons i w'

end Preorder

/-- The walks that begin with one of the given references, the first of them being at position
`n` in the file that they stand in. -/
def Onward (v : FileView) (n : Nat) (ps : List Path) (w : List Nat) (d : Path) : Prop :=
  ∃ i p b w', w = (n + i) :: w' ∧ ps[i]? = some p ∧ v.canonical p = .ok b ∧ v.Walk b w' d

theorem onward_nil {n : Nat} {w : List Nat} {d : Path} : ¬ Onward v n [] w d := by
  rintro ⟨i, p, b, w', -, hp, -⟩
  simp at hp

/-- The first reference is taken, or one of those behind it. -/
theorem onward_cons_iff {n : Nat} {p c : Path} {ps : List Path} {w : List Nat} {d : Path}
    (hc : v.canonical p = .ok c) :
    Onward v n (p :: ps) w d ↔ (∃ w', w = n :: w' ∧ v.Walk c w' d) ∨ Onward v (n + 1) ps w d := by
  constructor
  · rintro ⟨_ | i, q, b, w', rfl, hq, hb, hw⟩
    · cases hq
      cases hc.symm.trans hb
      exact .inl ⟨w', rfl, hw⟩
    · exact .inr ⟨i, q, b, w', by rw [Nat.add_right_comm, Nat.add_assoc], hq, hb, hw⟩
  · rintro (⟨w', rfl, hw⟩ | ⟨i, q, b, w', rfl, hq, hb, hw⟩)
    · exact ⟨0, p, c, w', rfl, rfl, hc, hw⟩
    · exact ⟨i + 1, q, b, w', by rw [Nat.add_right_comm, Nat.add_assoc], hq, hb, hw⟩

theorem walk_iff {c : Path} {f : RuleFile} (hf : RuleFile.load v c = .ok f) {w : List Nat}
    {d : Path} : v.Walk c w d ↔ (w = [] ∧ d = c) ∨ Onward v 0 (f.references c) w d := by
  constructor
  · rintro (_ | ⟨hf', hp, hb, hw⟩)
    · exact .inl ⟨rfl, rfl⟩
    · cases hf.symm.trans hf'
      exact .inr ⟨_, _, _, _, by rw [Nat.zero_add], hp, hb, hw⟩
  · rintro (⟨rfl, rfl⟩ | ⟨i, p, b, w', rfl, hp, hb, hw⟩)
    · exact .nil
    · rw [Nat.zero_add]
      exact .cons hf hp hb hw

/-- The walks from a file: the one that stays there, then those that go on. -/
theorem Preorder.file {c : Path} {f : RuleFile} (hf : RuleFile.load v c = .ok f)
    (h : Preorder v (Onward v 0 (f.references c)) names) :
    Preorder v (v.Walk c) (f.name :: names) := by
  refine (h.root hf ?_).congr fun w d => (walk_iff hf).symm
  rintro w d ⟨i, q, b, w', rfl, -⟩
  exact List.cons_ne_nil _ _

/-- The lineages of rulesets, one after the other, list the files in which the walks through the
references that unfold to them end. -/
theorem UnfoldsAll.preorder {ps : List Path} {rs : List Ruleset} (h : UnfoldsAll v ps rs)
    (n : Nat) : Preorder v (Onward v n ps) (rs.flatMap Ruleset.lineage) := by
  induction h generalizing n with
  | nil => exact .nil fun _ _ => onward_nil
  | @cons p c f parents r ps rs hc hf _ hr _ ihparents ih =>
    have hfile : Preorder v (v.Walk c) r.lineage := by
      rw [Ruleset.lineage_eq, hr.name, hr.parents]
      exact .file hf (ihparents 0)
    rw [List.flatMap_cons]
    refine ((hfile.step n).append (ih (n + 1)) ?_).congr fun w d => (onward_cons_iff hc).symm
    rintro w d w' d' ⟨w₁, rfl, -⟩ ⟨i, q, b, w₂, rfl, -⟩
    exact List.cons_lt_cons_iff.mpr (.inl (by omega))

/-- The lineage of what a file unfolds to lists the files in which the walks from it end. -/
theorem Unfolds.preorder {c : Path} {r : Ruleset} (h : Unfolds v c r) :
    Preorder v (v.Walk c) r.lineage := by
  obtain ⟨f, parents, hf, hparents, hr⟩ := h
  rw [Ruleset.lineage_eq, hr.name, hr.parents]
  exact .file hf (hparents.preorder 0)

end Loader

end DeclRules
