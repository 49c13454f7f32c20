import DeclRules.Keyed
import Mathlib

/-! # What maps hold

The map of a list has the last entry of the list for each key (`Keyed.mem_ofList_iff`), and lists
in the order of their keys are equal if they have the same entries (`Keyed.Ordered.eq_of_mem_iff`).
Together this says which map a list makes, however its entries are ordered. A map lacks a key if
and only if it answers nothing for it (`Keyed.get?_eq_none_iff`), and maps with the same answers are
equal (`Keyed.ext_get?`). -/

namespace DeclRules.Keyed

variable {α : Type}

theorem eq_of_entries {m m' : Keyed α} (h : m.entries = m'.entries) : m = m' := by
  cases m
  cases m'
  cases h
  rfl

/-- The last entry for the key has the value. -/
def Last (k : String) (v : α) (l : List (String × α)) : Prop :=
  ∃ before after, l = before ++ (k, v) :: after ∧ ∀ e ∈ after, e.1 ≠ k

section Last

variable {k : String} {v : α} {l : List (String × α)}

theorem Last.mem (h : Last k v l) : (k, v) ∈ l := by
  obtain ⟨before, after, rfl, -⟩ := h
  simp

theorem not_last_nil : ¬ Last k v [] := by
  rintro ⟨before, after, h, -⟩
  simp at h

theorem last_concat_iff {e : String × α} :
    Last k v (l ++ [e]) ↔ e = (k, v) ∨ e.1 ≠ k ∧ Last k v l := by
  constructor
  · rintro ⟨before, after, h, hafter⟩
    rcases List.eq_nil_or_concat' after with rfl | ⟨after, e', rfl⟩
    · exact .inl (List.cons.inj (List.append_inj' h rfl).2).1
    · rw [← List.cons_append, ← List.append_assoc] at h
      obtain ⟨hl, he⟩ := List.append_inj' h rfl
      cases he
      exact .inr ⟨hafter e (by simp), before, after, hl, fun e' he' => hafter e' (by simp [he'])⟩
  · rintro (rfl | ⟨he, before, after, rfl, hafter⟩)
    · exact ⟨l, [], rfl, by simp⟩
    · refine ⟨before, after ++ [e], by simp, fun e' he' => ?_⟩
      rcases List.mem_append.mp he' with he' | he'
      · exact hafter e' he'
      · cases List.mem_singleton.mp he'
        exact he

end Last

theorem mem_put_iff {k : String} {v : α} {l : List (String × α)} (h : Ordered l)
    {e : String × α} : e ∈ put k v l ↔ e = (k, v) ∨ e.1 ≠ k ∧ e ∈ l := by
  induction l with
  | nil => simp [put]
  | cons a l ih =>
    obtain ⟨ha, hl⟩ := List.pairwise_cons.mp h
    simp only [put]
    split
    · rename_i hk
      have hne {e : String × α} (he : e ∈ a :: l) : e.1 ≠ k := by
        rcases List.mem_cons.mp he with rfl | he
        · exact (String.ne_of_lt hk).symm
        · exact (String.ne_of_lt (String.lt_trans hk (ha e he))).symm
      rw [List.mem_cons]
      exact or_congr_right ⟨fun he => ⟨hne he, he⟩, And.right⟩
    · split
      · rename_i heq
        subst heq
        have hne {e : String × α} (he : e ∈ l) : e.1 ≠ a.1 := (String.ne_of_lt (ha e he)).symm
        rw [List.mem_cons, List.mem_cons]
        refine or_congr_right ⟨fun he => ⟨hne he, .inr he⟩, ?_⟩
        rintro ⟨he, rfl | hmem⟩
        · exact absurd rfl he
        · exact hmem
      · rename_i hne
        rw [List.mem_cons, List.mem_cons, ih hl]
        constructor
        · rintro (rfl | rfl | ⟨he, hmem⟩)
          · exact .inr ⟨Ne.symm hne, .inl rfl⟩
          · exact .inl rfl
          · exact .inr ⟨he, .inr hmem⟩
        · rintro (rfl | ⟨he, rfl | hmem⟩)
          · exact .inr (.inl rfl)
          · exact .inl rfl
          · exact .inr (.inr ⟨he, hmem⟩)

theorem mem_ofList_iff {k : String} {v : α} {l : List (String × α)} :
    (k, v) ∈ (ofList l).entries ↔ Last k v l := by
  induction l using List.reverseRecOn with
  | nil =>
    have hnil : (k, v) ∉ (ofList ([] : List (String × α))).entries := List.not_mem_nil
    exact iff_of_false hnil not_last_nil
  | append_singleton l e ih =>
    rw [ofList, List.foldl_concat, last_concat_iff, ← ih]
    refine (mem_put_iff (ofList l).ordered).trans ?_
    rw [eq_comm, ne_comm]

namespace Ordered

theorem nodup_keys {l : List (String × α)} (h : Ordered l) : (l.map (·.1)).Nodup := by
  refine List.pairwise_map.mpr (h.imp fun hlt heq => ?_)
  rw [heq] at hlt
  exact String.lt_irrefl _ hlt

theorem eq_of_mem_iff {l l' : List (String × α)} (h : Ordered l) (h' : Ordered l')
    (hmem : ∀ e, e ∈ l ↔ e ∈ l') : l = l' := by
  have hperm : l.Perm l' :=
    (List.perm_ext_iff_of_nodup h.nodup_keys.of_map h'.nodup_keys.of_map).mpr hmem
  refine hperm.eq_of_pairwise (fun a b _ _ hab hba => ?_) h h'
  exact absurd (String.lt_trans hab hba) (String.lt_irrefl _)

end Ordered

theorem ofList_eq_iff {l : List (String × α)} {entries : List (String × α)}
    (h : Ordered entries) :
    (ofList l).entries = entries ↔ ∀ k v, (k, v) ∈ entries ↔ Last k v l := by
  constructor
  · rintro rfl k v
    exact mem_ofList_iff
  · intro hlast
    refine (ofList l).ordered.eq_of_mem_iff h fun e => ?_
    rw [hlast, mem_ofList_iff]

section Keys

theorem mem_of_lookup {k : String} {v : α} {l : List (String × α)} (h : lookup k l = some v) :
    (k, v) ∈ l := by
  induction l with
  | nil => cases h
  | cons e l ih =>
    rw [lookup] at h
    split at h
    · rename_i hk
      subst hk
      cases h
      exact List.mem_cons_self
    · exact List.mem_cons_of_mem _ (ih h)

theorem lookup_eq_none_iff {k : String} {l : List (String × α)} :
    lookup k l = none ↔ k ∉ l.map (·.1) := by
  induction l with
  | nil => simp [lookup]
  | cons e l ih =>
    rw [lookup, List.map_cons, List.mem_cons, not_or, ← ih]
    split
    · rename_i hk
      simp [hk]
    · rename_i hk
      exact (and_iff_right hk).symm

theorem get?_eq_none_iff {m : Keyed α} {k : String} : m.get? k = none ↔ k ∉ m.keys :=
  lookup_eq_none_iff

theorem mem_keys_ofList_iff {k : String} {l : List (String × α)} :
    k ∈ (ofList l).keys ↔ k ∈ l.map (·.1) := by
  induction l using List.reverseRecOn with
  | nil => rfl
  | append_singleton l e ih =>
    have hput (e' : String × α) : e' ∈ (ofList (l ++ [e])).entries ↔
        e' = e ∨ e'.1 ≠ e.1 ∧ e' ∈ (ofList l).entries := by
      rw [ofList, List.foldl_concat]
      exact mem_put_iff (ofList l).ordered
    rw [List.map_append, List.mem_append, ← ih, keys, keys, List.mem_map, List.mem_map]
    constructor
    · rintro ⟨e', he', rfl⟩
      rcases (hput e').mp he' with rfl | ⟨-, hl⟩
      · exact .inr (List.mem_singleton_self _)
      · exact .inl ⟨e', hl, rfl⟩
    · intro h
      by_cases hk : e.1 = k
      · exact ⟨e, (hput e).mpr (.inl rfl), hk⟩
      · rcases h with ⟨e', hl, rfl⟩ | h
        · exact ⟨e', (hput e').mpr (.inr ⟨Ne.symm hk, hl⟩), rfl⟩
        · exact absurd (List.mem_singleton.mp h).symm hk

theorem mem_of_get?_ofList {k : String} {v : α} {l : List (String × α)}
    (h : (ofList l).get? k = some v) : (k, v) ∈ l := (mem_ofList_iff.mp (mem_of_lookup h)).mem

/-- Where all entries of a key have the same value, the map has it. -/
theorem get?_ofList_iff {k : String} {v : α} {l : List (String × α)}
    (hunique : ∀ v', (k, v) ∈ l → (k, v') ∈ l → v' = v) :
    (ofList l).get? k = some v ↔ (k, v) ∈ l := by
  refine ⟨mem_of_get?_ofList, fun h => ?_⟩
  cases hget : (ofList l).get? k with
  | none =>
    exact absurd (mem_keys_ofList_iff.mpr (List.mem_map.mpr ⟨_, h, rfl⟩)) (get?_eq_none_iff.mp hget)
  | some v' => rw [hunique v' h (mem_of_get?_ofList hget)]

end Keys

section Answers

variable {m m' : Keyed α} {k k' : String} {v : α}

theorem get?_eq_some_iff : m.get? k = some v ↔ (k, v) ∈ m.entries := by
  refine ⟨mem_of_lookup, fun h => ?_⟩
  cases hget : m.get? k with
  | none => exact absurd (List.mem_map.mpr ⟨_, h, rfl⟩) (get?_eq_none_iff.mp hget)
  | some v' =>
    have hentry : (k, v) = (k, v') :=
      List.inj_on_of_nodup_map m.ordered.nodup_keys h (mem_of_lookup hget) rfl
    rw [(Prod.mk.inj hentry).2]

theorem ext_get? (h : ∀ k, m.get? k = m'.get? k) : m = m' := by
  refine eq_of_entries (m.ordered.eq_of_mem_iff m'.ordered fun ⟨k, v⟩ => ?_)
  rw [← get?_eq_some_iff, ← get?_eq_some_iff, h]

theorem get?_insert_self (m : Keyed α) (k : String) (v : α) : (m.insert k v).get? k = some v :=
  get?_eq_some_iff.mpr ((mem_put_iff m.ordered).mpr (.inl rfl))

theorem get?_insert_of_ne (h : k' ≠ k) (m : Keyed α) (v : α) :
    (m.insert k v).get? k' = m.get? k' := by
  refine Option.ext fun w => ?_
  rw [get?_eq_some_iff, get?_eq_some_iff, insert, mem_put_iff m.ordered]
  simp [h]

theorem mem_drop_iff {l : List (String × α)} (h : Ordered l) {e : String × α} :
    e ∈ drop k l ↔ e.1 ≠ k ∧ e ∈ l := by
  induction l with
  | nil => simp [drop]
  | cons a l ih =>
    obtain ⟨ha, hl⟩ := List.pairwise_cons.mp h
    rw [drop]
    split
    · rename_i hk
      subst hk
      have hne (he : e ∈ l) : e.1 ≠ a.1 := (String.ne_of_lt (ha e he)).symm
      constructor
      · exact fun he => ⟨hne he, List.mem_cons_of_mem _ he⟩
      · rintro ⟨he, hmem⟩
        exact (List.mem_cons.mp hmem).resolve_left fun heq => he (congrArg Prod.fst heq)
    · rename_i hk
      rw [List.mem_cons, List.mem_cons, ih hl]
      constructor
      · rintro (rfl | ⟨he, hmem⟩)
        · exact ⟨Ne.symm hk, .inl rfl⟩
        · exact ⟨he, .inr hmem⟩
      · rintro ⟨he, rfl | hmem⟩
        · exact .inl rfl
        · exact .inr ⟨he, hmem⟩

theorem get?_erase_self (m : Keyed α) (k : String) : (m.erase k).get? k = none := by
  refine Option.eq_none_iff_forall_ne_some.mpr fun v hv => ?_
  rw [get?_eq_some_iff, erase, mem_drop_iff m.ordered] at hv
  exact hv.1 rfl

theorem get?_erase_of_ne (h : k' ≠ k) (m : Keyed α) : (m.erase k).get? k' = m.get? k' := by
  refine Option.ext fun w => ?_
  rw [get?_eq_some_iff, get?_eq_some_iff, erase, mem_drop_iff m.ordered]
  simp [h]

theorem insert_insert (m : Keyed α) (k : String) (v w : α) :
    (m.insert k v).insert k w = m.insert k w := by
  refine ext_get? fun k' => ?_
  by_cases hk : k' = k
  · rw [hk, get?_insert_self, get?_insert_self]
  · rw [get?_insert_of_ne hk, get?_insert_of_ne hk, get?_insert_of_ne hk]

/-- What is there already changes nothing. -/
theorem insert_eq_self (h : m.get? k = some v) : m.insert k v = m := by
  refine ext_get? fun k' => ?_
  by_cases hk : k' = k
  · rw [hk, get?_insert_self, h]
  · exact get?_insert_of_ne hk m v

theorem erase_eq_self (h : m.get? k = none) : m.erase k = m := by
  refine ext_get? fun k' => ?_
  by_cases hk : k' = k
  · rw [hk, get?_erase_self, h]
  · exact get?_erase_of_ne hk m

end Answers

end DeclRules.Keyed
