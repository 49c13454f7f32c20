import DeclRules.Declaration.Form
import DeclRules.Proofs.Json.Equality
import DeclRules.Proofs.Keyed

/-! # At which attributes two forms differ

Two forms differ at an attribute that only one of them has, and at one that both have with values
that are not equal (`Form.DiffersAt`). What is listed as changed comes from two sides: attributes of
the first form that the second does not have so (`Form.mem_alteredKeys_iff`), and attributes that
only the second has (`Form.mem_addedKeys_iff`). Together these are the attributes at which the forms
differ (`Form.mem_changedKeys_iff`), in their order and each of them once
(`Form.pairwise_changedKeys`). -/

namespace DeclRules

namespace Form

variable {f g : Form} {k : String}

inductive DiffersAt (f g : Form) (k : String) : Prop
  | removed {v : Json.Value} (h : f.get? k = some v) (h' : g.get? k = none)
  | added {w : Json.Value} (h : f.get? k = none) (h' : g.get? k = some w)
  | altered {v w : Json.Value} (h : f.get? k = some v) (h' : g.get? k = some w)
    (hne : v.agrees w = false)

theorem differsAt_iff : DiffersAt f g k ↔
    (f.get? k).map Json.Value.unsignZeros ≠ (g.get? k).map Json.Value.unsignZeros := by
  constructor
  · intro h
    cases h with
    | removed hf hg | added hf hg => simp [hf, hg]
    | altered hf hg hne =>
      rw [hf, hg, Option.map_some, Option.map_some, Ne, Option.some.injEq, ← Json.Value.agrees_iff]
      exact ne_true_of_eq_false hne
  · intro h
    cases hf : f.get? k with
    | none =>
      cases hg : g.get? k with
      | none => simp [hf, hg] at h
      | some w => exact .added hf hg
    | some v =>
      cases hg : g.get? k with
      | none => exact .removed hf hg
      | some w =>
        refine .altered hf hg (eq_false_of_ne_true fun hagrees => h ?_)
        rw [hf, hg, Option.map_some, Option.map_some, (Json.Value.agrees_iff v w).mp hagrees]

/-- Forms do not differ where they answer the same. -/
theorem not_differsAt_of_get?_eq (h : f.get? k = g.get? k) : ¬ DiffersAt f g k := by
  rw [differsAt_iff, h]
  exact not_not_intro rfl

theorem mem_alteredKeys_iff : k ∈ alteredKeys f g ↔ DiffersAt f g k ∧ k ∈ f.keys := by
  -- what is found in the second form is compared the other way round
  have hdiffers {v : Json.Value} (hf : f.get? k = some v) :
      (!(g.get? k).any (·.agrees v)) = true ↔ DiffersAt f g k := by
    rw [differsAt_iff, hf]
    cases g.get? k with
    | none => simp
    | some w =>
      rw [Option.any_some, Bool.not_eq_true', ← Bool.not_eq_true, Json.Value.agrees_iff,
        Option.map_some, Option.map_some, Ne, Option.some.injEq, eq_comm]
  simp only [alteredKeys, Keyed.keys, List.mem_map, List.mem_filter]
  constructor
  · rintro ⟨e, ⟨he, hne⟩, rfl⟩
    exact ⟨(hdiffers (Keyed.get?_eq_some_iff.mpr he)).mp hne, e, he, rfl⟩
  · rintro ⟨hk, e, he, rfl⟩
    exact ⟨e, ⟨he, (hdiffers (Keyed.get?_eq_some_iff.mpr he)).mpr hk⟩, rfl⟩

theorem mem_addedKeys_iff : k ∈ addedKeys f g ↔ k ∉ f.keys ∧ k ∈ g.keys := by
  rw [addedKeys, List.mem_filter, Option.isNone_iff_eq_none, Keyed.get?_eq_none_iff, and_comm]

/-- A form differs from another at what it lacks if and only if the other has it. -/
theorem differsAt_iff_mem_keys (h : k ∉ f.keys) : DiffersAt f g k ↔ k ∈ g.keys := by
  rw [differsAt_iff, Keyed.get?_eq_none_iff.mpr h, ← not_iff_not, ← Keyed.get?_eq_none_iff]
  simp

/-- The attributes listed as changed are those at which the forms differ. -/
theorem mem_changedKeys_iff : k ∈ changedKeys f g ↔ DiffersAt f g k := by
  rw [changedKeys, List.mem_mergeSort, List.mem_append, mem_alteredKeys_iff, mem_addedKeys_iff]
  by_cases hk : k ∈ f.keys
  · simp [hk]
  · simp [hk, differsAt_iff_mem_keys hk]

/-- The two traversals find different attributes, and each of them once. -/
theorem nodup_changedKeys (f g : Form) : (changedKeys f g).Nodup := by
  have haltered : (alteredKeys f g).Nodup :=
    f.ordered.nodup_keys.sublist (List.filter_sublist.map _)
  have hadded : (addedKeys f g).Nodup := g.ordered.nodup_keys.filter _
  refine ((List.mergeSort_perm _ _).nodup_iff).mpr
    (List.nodup_append.mpr ⟨haltered, hadded, fun k hk k' hk' => ?_⟩)
  rintro rfl
  exact (mem_addedKeys_iff.mp hk').1 (mem_alteredKeys_iff.mp hk).2

/-- The list is in the order of the attributes. -/
theorem pairwise_changedKeys (f g : Form) : (changedKeys f g).Pairwise (· < ·) := by
  have hle : (changedKeys f g).Pairwise (· ≤ ·) :=
    (List.pairwise_mergeSort (fun a b c hab hbc => ?_) (fun a b => ?_) _).imp of_decide_eq_true
  · exact (hle.and (nodup_changedKeys f g)).imp fun h => Std.lt_of_le_of_ne h.1 h.2
  · exact decide_eq_true (String.le_trans (of_decide_eq_true hab) (of_decide_eq_true hbc))
  · simpa using String.le_total a b

end Form

end DeclRules
