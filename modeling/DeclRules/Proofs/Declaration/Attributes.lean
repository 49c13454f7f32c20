import DeclRules.Proofs.Declaration.Changes

/-! # Edits of one attribute

A string is pushed onto an attribute unless that is there and is not a list
(`Form.pushUnique_eq_error_iff`). Setting an attribute, removing it and pushing a string onto it are
the edits of one attribute (`Form.OneEdit`): they leave all others as they are, and made once more
they change nothing. -/

namespace DeclRules.Form

open Json

variable {f g : Form} {k item : String} {l : List Value}

/-- The attribute is there with a value that is not a list. -/
def Unlisted (f : Form) (k : String) (v : Value) : Prop :=
  f.get? k = some v ∧ ∀ items, v ≠ .array items

/-- The attribute is a list, or it is missing, which counts as the empty list. -/
def Listed (f : Form) (k : String) (l : List Value) : Prop :=
  f.get? k = some (.array l) ∨ f.get? k = none ∧ l = []

theorem listed_or_unlisted (f : Form) (k : String) :
    (∃ l, f.Listed k l) ∨ ∃ v, f.Unlisted k v := by
  cases hv : f.get? k with
  | none => exact .inl ⟨[], .inr ⟨hv, rfl⟩⟩
  | some v =>
    by_cases hlist : ∃ items, v = .array items
    · obtain ⟨items, rfl⟩ := hlist
      exact .inl ⟨items, .inl hv⟩
    · exact .inr ⟨v, hv, not_exists.mp hlist⟩

section Push

theorem pushUnique_of_none (h : f.get? k = none) :
    f.pushUnique k item = .ok (f.insert k (.array [.string item])) := by
  rw [pushUnique, h]

theorem pushUnique_of_mem {items : List Value} (h : f.get? k = some (.array items))
    (hmem : item ∈ items.filterMap Value.string?) : f.pushUnique k item = .ok f := by
  rw [pushUnique, h]
  exact if_pos hmem

theorem pushUnique_of_notMem {items : List Value} (h : f.get? k = some (.array items))
    (hmem : item ∉ items.filterMap Value.string?) :
    f.pushUnique k item = .ok (f.insert k (.array (items ++ [.string item]))) := by
  rw [pushUnique, h]
  exact if_neg hmem

theorem pushUnique_of_unlisted {v : Value} (h : f.Unlisted k v) :
    f.pushUnique k item = .error ⟨k, v⟩ := by
  obtain ⟨hv, hlist⟩ := h
  rw [pushUnique, hv]
  cases v with
  | array items => exact absurd rfl (hlist items)
  | _ => rfl

/-- A list that holds something is there. -/
theorem Listed.get?_of_mem (h : f.Listed k l) (hmem : item ∈ l.filterMap Value.string?) :
    f.get? k = some (.array l) := by
  obtain h | ⟨-, rfl⟩ := h
  · exact h
  · cases hmem

theorem Listed.pushUnique_of_mem (h : f.Listed k l) (hmem : item ∈ l.filterMap Value.string?) :
    f.pushUnique k item = .ok f :=
  Form.pushUnique_of_mem (h.get?_of_mem hmem) hmem

theorem Listed.pushUnique_of_notMem (h : f.Listed k l)
    (hmem : item ∉ l.filterMap Value.string?) :
    f.pushUnique k item = .ok (f.insert k (.array (l ++ [.string item]))) := by
  obtain h | ⟨h, rfl⟩ := h
  · exact Form.pushUnique_of_notMem h hmem
  · exact pushUnique_of_none h

/-- The string is in the list under the key, and under all other keys nothing has changed. -/
def Pushed (f : Form) (k item : String) (g : Form) : Prop :=
  ∃ items, g.get? k = some (.array items) ∧ item ∈ items.filterMap Value.string? ∧
    ∀ k', k' ≠ k → g.get? k' = f.get? k'

theorem unlisted_or_pushed (f : Form) (k item : String) :
    (∃ v, f.Unlisted k v) ∨ ∃ g, f.pushUnique k item = .ok g ∧ f.Pushed k item g := by
  obtain ⟨l, hl⟩ | hv := listed_or_unlisted f k
  · refine .inr ?_
    by_cases hmem : item ∈ l.filterMap Value.string?
    · exact ⟨f, hl.pushUnique_of_mem hmem, l, hl.get?_of_mem hmem, hmem, fun _ _ => rfl⟩
    · exact ⟨_, hl.pushUnique_of_notMem hmem, _, Keyed.get?_insert_self ..,
        by simp [Value.string?], fun _ hne => Keyed.get?_insert_of_ne hne ..⟩
  · exact .inl hv

theorem pushed_of_pushUnique (h : f.pushUnique k item = .ok g) : f.Pushed k item g := by
  obtain ⟨v, hv⟩ | ⟨g', hg', hpushed⟩ := unlisted_or_pushed f k item
  · cases (pushUnique_of_unlisted hv).symm.trans h
  · cases hg'.symm.trans h
    exact hpushed

theorem pushUnique_eq_error_iff {e : NotAList} :
    f.pushUnique k item = .error e ↔ e.key = k ∧ f.Unlisted k e.value := by
  constructor
  · intro h
    obtain ⟨v, hv⟩ | ⟨g, hg, -⟩ := unlisted_or_pushed f k item
    · cases (pushUnique_of_unlisted hv).symm.trans h
      exact ⟨rfl, hv⟩
    · cases hg.symm.trans h
  · rintro ⟨rfl, h⟩
    exact pushUnique_of_unlisted h

end Push

/-- An edit of one attribute, or of none. -/
inductive OneEdit : Option String → (Form → Except NotAList Form) → Prop
  | nothing : OneEdit none .ok
  | insert (k : String) (v : Value) : OneEdit (some k) fun f => .ok (f.insert k v)
  | erase (k : String) : OneEdit (some k) fun f => .ok (f.erase k)
  | push (k item : String) : OneEdit (some k) fun f => f.pushUnique k item

namespace OneEdit

variable {target : Option String} {edit : Form → Except NotAList Form}

/-- All other attributes are as before. -/
theorem get?_of_ne (he : OneEdit target edit) (h : edit f = .ok g) (hk : target ≠ some k) :
    g.get? k = f.get? k := by
  cases he with
  | nothing =>
    cases h
    rfl
  | insert k' v =>
    cases h
    exact Keyed.get?_insert_of_ne (fun heq => hk (congrArg some heq.symm)) f v
  | erase k' =>
    cases h
    exact Keyed.get?_erase_of_ne (fun heq => hk (congrArg some heq.symm)) f
  | push k' item =>
    obtain ⟨_, _, _, hne⟩ := pushed_of_pushUnique h
    exact hne k fun heq => hk (congrArg some heq.symm)

/-- Once more the edit changes nothing. -/
theorem again (he : OneEdit target edit) (h : edit f = .ok g) : edit g = .ok g := by
  cases he with
  | nothing => rfl
  | insert k v =>
    cases h
    exact congrArg _ (Keyed.insert_eq_self (Keyed.get?_insert_self f k v))
  | erase k =>
    cases h
    exact congrArg _ (Keyed.erase_eq_self (Keyed.get?_erase_self f k))
  | push k item =>
    obtain ⟨items, hitems, hmem, -⟩ := pushed_of_pushUnique h
    exact pushUnique_of_mem hitems hmem

/-- No attribute but that of the edit is listed as changed. -/
theorem changedKeys_eq (he : OneEdit target edit) (h : edit f = .ok g) :
    changedKeys f g = [] ∨ ∃ k, target = some k ∧ changedKeys f g = [k] := by
  have htarget (k : String) (hk : k ∈ changedKeys f g) : target = some k := by
    by_contra hne
    exact not_differsAt_of_get?_eq (he.get?_of_ne h hne).symm (mem_changedKeys_iff.mp hk)
  -- a second key would be the same again
  have hnodup := nodup_changedKeys f g
  cases hkeys : changedKeys f g with
  | nil => exact .inl rfl
  | cons k ks =>
    rw [hkeys] at htarget hnodup
    obtain ⟨hk, hks⟩ := List.forall_mem_cons.mp htarget
    obtain rfl : ks = [] := List.eq_nil_iff_forall_not_mem.mpr fun k' hk' => by
      cases hk.symm.trans (hks k' hk')
      exact (List.nodup_cons.mp hnodup).1 hk'
    exact .inr ⟨k, hk, rfl⟩

end OneEdit

end DeclRules.Form
