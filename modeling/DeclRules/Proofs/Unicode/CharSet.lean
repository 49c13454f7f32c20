import DeclRules.Unicode.CharSet
import Mathlib.Data.List.Basic

/-! # Members of sets of characters

The members of a set that was put together from ranges are the characters in one of the ranges
(`CharSet.contains_ofRanges`), in whatever order these were given. Every operation gives a set whose
ranges are in order and start at characters (`CharSet.Proper`), so that a search can stop at the
first range above a character, and a range of one code point is one character
(`CharSet.contains_of_only?`). -/

namespace DeclRules.Unicode

/-- A code point lies in one of the ranges. -/
def InRanges (rs : List (Nat × Nat)) (n : Nat) : Prop := ∃ r ∈ rs, r.1 ≤ n ∧ n ≤ r.2

@[simp] theorem not_inRanges_nil (n : Nat) : ¬ InRanges [] n := by simp [InRanges]

@[simp] theorem inRanges_cons {r : Nat × Nat} {rs : List (Nat × Nat)} {n : Nat} :
    InRanges (r :: rs) n ↔ (r.1 ≤ n ∧ n ≤ r.2) ∨ InRanges rs n := by
  simp [InRanges]

theorem inRanges_append {rs rs' : List (Nat × Nat)} {n : Nat} :
    InRanges (rs ++ rs') n ↔ InRanges rs n ∨ InRanges rs' n := by
  simp [InRanges, or_and_right, exists_or]

theorem inRanges_flatMap {α : Type} {l : List α} {f : α → List (Nat × Nat)} {n : Nat} :
    InRanges (l.flatMap f) n ↔ ∃ a ∈ l, InRanges (f a) n := by
  induction l with
  | nil => simp
  | cons a l ih => simp [List.flatMap_cons, inRanges_append, ih]

theorem inRanges_perm {rs rs' : List (Nat × Nat)} (h : rs.Perm rs') {n : Nat} :
    InRanges rs n ↔ InRanges rs' n := by
  simp only [InRanges, h.mem_iff]

namespace CharSet

/-- The ranges are sorted by their lower ends, and these are characters. -/
structure Proper (s : CharSet) : Prop where
  sorted : s.ranges.Pairwise fun r r' => r.1 ≤ r'.1
  valid : ∀ r ∈ s.ranges, r.1.isValidChar

/-- A search among sorted ranges need not look beyond a range that lies above. -/
theorem Proper.contains_iff {s : CharSet} (h : s.Proper) (c : Char) :
    s.contains c = true ↔ InRanges s.ranges c.toNat := by
  obtain ⟨rs⟩ := s
  change containsCode.go c.toNat rs = true ↔ InRanges rs c.toNat
  have hsorted : rs.Pairwise fun r r' => r.1 ≤ r'.1 := h.sorted
  clear h
  induction rs with
  | nil => simp [containsCode.go]
  | cons r rs ih =>
    obtain ⟨hfirst, hsorted⟩ := List.pairwise_cons.mp hsorted
    rw [containsCode.go, inRanges_cons]
    split
    · rename_i hlt
      have hnone : ¬ InRanges rs c.toNat := fun ⟨r', hr', hle, _⟩ =>
        absurd (Nat.le_trans (hfirst r' hr') hle) (Nat.not_le.mpr hlt)
      simp [hnone, Nat.not_le.mpr hlt]
    · rename_i hle
      simp [ih hsorted, Nat.not_lt.mp hle]

theorem proper_empty : empty.Proper := ⟨.nil, by simp [empty]⟩

theorem proper_all : all.Proper := by
  refine ⟨by simp [all], fun r hr => ?_⟩
  simp only [all, List.mem_cons, List.not_mem_nil, or_false] at hr
  obtain rfl | rfl := hr <;> decide

theorem proper_singleton (c : Char) : (singleton c).Proper where
  sorted := List.pairwise_singleton ..
  valid r hr := by
    cases List.mem_singleton.mp hr
    exact c.valid

@[simp] theorem not_contains_empty (c : Char) : ¬ empty.contains c = true := by
  rw [proper_empty.contains_iff]
  exact not_inRanges_nil _

/-- The surrogates and what lies beyond the last code point are cut out. -/
theorem inRanges_clip (r : Nat × Nat) (c : Char) :
    InRanges (clip r) c.toNat ↔ r.1 ≤ c.toNat ∧ c.toNat ≤ r.2 := by
  have hvalid : c.toNat < 0xD800 ∨ 0xDFFF < c.toNat ∧ c.toNat < 0x110000 := c.valid
  simp only [clip, inRanges_append]
  split <;> split <;> simp only [inRanges_cons, not_inRanges_nil, or_false, false_or, false_iff] <;>
    omega

theorem sorted_clip (r : Nat × Nat) : (clip r).Pairwise fun r r' => r.1 ≤ r'.1 := by
  have hlt : r.1 ≤ max r.1 0xE000 := Nat.le_max_left ..
  simp only [clip]
  split <;> split <;> simp only [List.nil_append, List.append_nil, List.singleton_append,
    List.Pairwise.nil, List.pairwise_singleton, List.pairwise_pair, hlt]

theorem valid_clip {r r' : Nat × Nat} (h : r' ∈ clip r) : r'.1.isValidChar := by
  unfold Nat.isValidChar
  simp only [clip, List.mem_append, List.mem_ite_nil_right, List.mem_singleton] at h
  obtain ⟨_, rfl⟩ | ⟨_, rfl⟩ := h
  all_goals
    dsimp only
    omega

/-- Joined ranges start where some of the ranges did, in the same order. -/
theorem sublist_join_go (lo hi : Nat) (rs : List (Nat × Nat)) :
    ((join.go lo hi rs).map Prod.fst).Sublist (lo :: rs.map Prod.fst) := by
  induction rs generalizing lo hi with
  | nil => simp [join.go]
  | cons r rs ih =>
    rw [join.go, List.map_cons]
    split
    · exact (ih lo (max hi r.2)).trans ((List.sublist_cons_self r.1 _).cons_cons lo)
    · exact (ih r.1 r.2).cons_cons lo

theorem sublist_join (rs : List (Nat × Nat)) :
    ((join rs).map Prod.fst).Sublist (rs.map Prod.fst) := by
  cases rs with
  | nil => exact .slnil
  | cons r rs => exact sublist_join_go r.1 r.2 rs

theorem inRanges_join_go {lo hi n : Nat} {rs : List (Nat × Nat)}
    (hlo : ∀ r ∈ rs, lo ≤ r.1) (hsorted : rs.Pairwise fun r r' => r.1 ≤ r'.1) :
    InRanges (join.go lo hi rs) n ↔ InRanges ((lo, hi) :: rs) n := by
  induction rs generalizing lo hi with
  | nil => rfl
  | cons r rs ih =>
    obtain ⟨hfirst, hsorted⟩ := List.pairwise_cons.mp hsorted
    obtain ⟨hr, hlo⟩ := List.forall_mem_cons.mp hlo
    rw [join.go]
    split
    · rename_i htouch
      rw [ih hlo hsorted, inRanges_cons, inRanges_cons, inRanges_cons, ← or_assoc]
      refine or_congr_left ?_
      dsimp only
      omega
    · rw [inRanges_cons, ih hfirst hsorted, inRanges_cons, inRanges_cons, inRanges_cons]

theorem inRanges_join {rs : List (Nat × Nat)} (hsorted : rs.Pairwise fun r r' => r.1 ≤ r'.1)
    {n : Nat} : InRanges (join rs) n ↔ InRanges rs n := by
  cases rs with
  | nil => rfl
  | cons r rs =>
    obtain ⟨hfirst, hsorted⟩ := List.pairwise_cons.mp hsorted
    exact inRanges_join_go hfirst hsorted

private theorem sorted_mergeSort (rs : List (Nat × Nat)) :
    (rs.mergeSort fun a b => a.1 ≤ b.1).Pairwise fun r r' => r.1 ≤ r'.1 := by
  have h : (rs.mergeSort fun a b => decide (a.1 ≤ b.1)).Pairwise fun a b =>
      decide (a.1 ≤ b.1) = true := by
    refine List.pairwise_mergeSort (fun a b c hab hbc => ?_) (fun a b => ?_) rs
    · simp only [decide_eq_true_eq] at hab hbc ⊢
      exact Nat.le_trans hab hbc
    · simpa using Nat.le_total a.1 b.1
  exact h.imp fun h => of_decide_eq_true h

theorem proper_ofRanges (rs : List (Nat × Nat)) : (ofRanges rs).Proper := by
  have hsub := sublist_join ((rs.flatMap clip).mergeSort fun a b => a.1 ≤ b.1)
  constructor
  · have h := (sorted_mergeSort (rs.flatMap clip)).map Prod.fst (S := (· ≤ ·)) fun _ _ h => h
    exact (h.sublist hsub).of_map Prod.fst fun _ _ h => h
  · intro r hr
    obtain ⟨r', hr', heq⟩ := List.mem_map.mp (hsub.subset (List.mem_map_of_mem hr))
    obtain ⟨_, -, hclip⟩ := List.mem_flatMap.mp ((List.mergeSort_perm ..).mem_iff.mp hr')
    exact heq ▸ valid_clip hclip

/-- The members of a set are the characters of its ranges, in whatever order they were given. -/
theorem contains_ofRanges {rs : List (Nat × Nat)} {c : Char} :
    (ofRanges rs).contains c = true ↔ InRanges rs c.toNat := by
  rw [(proper_ofRanges rs).contains_iff]
  change InRanges (join ((rs.flatMap clip).mergeSort fun a b => a.1 ≤ b.1)) _ ↔ _
  rw [inRanges_join (sorted_mergeSort _), inRanges_perm (List.mergeSort_perm ..), inRanges_flatMap]
  simp only [inRanges_clip]
  rfl

theorem proper_range (lo hi : Nat) : (range lo hi).Proper :=
  ⟨sorted_clip (lo, hi), fun _ h => valid_clip h⟩

theorem proper_ofHex (s : String) : (ofHex s).Proper := by
  unfold ofHex
  exact proper_ofRanges _

theorem proper_compl (s : CharSet) : s.compl.Proper := proper_ofRanges _

theorem proper_union (s t : CharSet) : (s.union t).Proper := proper_ofRanges _

theorem proper_unions (l : List CharSet) : (unions l).Proper := proper_ofRanges _

theorem contains_ofList {cs : List Char} {c : Char} :
    (ofList cs).contains c = true ↔ c ∈ cs := by
  rw [ofList, contains_ofRanges, InRanges]
  constructor
  · rintro ⟨r, hr, hlo, hhi⟩
    obtain ⟨d, hd, rfl⟩ := List.mem_map.mp hr
    have heq : c = d := Char.toNat_inj.mp (Nat.le_antisymm hhi hlo)
    exact heq ▸ hd
  · intro hc
    exact ⟨_, List.mem_map_of_mem hc, Nat.le_refl _, Nat.le_refl _⟩

theorem contains_unions {l : List CharSet} (h : ∀ s ∈ l, s.Proper) {c : Char} :
    (unions l).contains c = true ↔ ∃ s ∈ l, s.contains c = true := by
  rw [unions, contains_ofRanges, inRanges_flatMap]
  refine exists_congr fun s => and_congr_right fun hs => ?_
  rw [(h s hs).contains_iff]

/-- A range of one code point is one character. -/
theorem contains_of_only? {s : CharSet} (h : s.Proper) {c d : Char} (hc : s.only? = some c) :
    s.contains d = true ↔ d = c := by
  unfold only? at hc
  split at hc
  · rename_i a b hranges
    split at hc
    · rename_i hab
      subst hab
      cases hc
      have hvalid : a.isValidChar := h.valid (a, a) (by simp [hranges])
      have hofNat : (Char.ofNat a).toNat = a := by
        rw [Char.ofNat, dif_pos hvalid]
        rfl
      rw [h.contains_iff, hranges, inRanges_cons, ← Char.toNat_inj, hofNat]
      simp only [not_inRanges_nil, or_false]
      omega
    · cases hc
  · cases hc

end CharSet

end DeclRules.Unicode
