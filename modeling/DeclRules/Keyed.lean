/-! Association lists whose keys increase strictly in code point order. The order makes the list
canonical: two of them with the same answers to `get?` are equal.

The operations come twice, on plain lists (`Keyed.lookup`, `Keyed.put`, `Keyed.drop`), where a
nested value needs them, and on the type `Keyed α`, whose lists carry the order as a proof. -/

namespace DeclRules

namespace Keyed

variable {α : Type}

/-- Strictly increasing keys. -/
def Ordered (l : List (String × α)) : Prop := l.Pairwise (·.1 < ·.1)

/-- The value under the first entry for `k`. -/
def lookup (k : String) : List (String × α) → Option α
  | [] => none
  | (k', v) :: l => if k = k' then some v else lookup k l

/-- Replaces the value under `k`, or adds an entry where the order wants it. -/
def put (k : String) (v : α) : List (String × α) → List (String × α)
  | [] => [(k, v)]
  | (k', v') :: l =>
    if k < k' then (k, v) :: (k', v') :: l
    else if k = k' then (k, v) :: l
    else (k', v') :: put k v l

/-- Removes the entry for `k`. -/
def drop (k : String) : List (String × α) → List (String × α)
  | [] => []
  | (k', v') :: l => if k = k' then l else (k', v') :: drop k l

theorem mem_put {k : String} {v : α} {l : List (String × α)} {e : String × α}
    (h : e ∈ put k v l) : e = (k, v) ∨ e ∈ l := by
  induction l with
  | nil => simpa [put] using h
  | cons a l ih =>
    simp only [put] at h
    split at h
    · simpa using h
    · split at h
      · simp only [List.mem_cons] at h ⊢
        exact h.imp_right .inr
      · simp only [List.mem_cons] at h ⊢
        rcases h with h | h
        · exact .inr (.inl h)
        · exact (ih h).imp_right .inr

theorem mem_of_mem_drop {k : String} {l : List (String × α)} {e : String × α}
    (h : e ∈ drop k l) : e ∈ l := by
  induction l with
  | nil => simp [drop] at h
  | cons a l ih =>
    simp only [drop] at h
    split at h
    · exact List.mem_cons_of_mem _ h
    · simp only [List.mem_cons] at h ⊢
      exact h.imp_right ih

theorem ordered_put {k : String} {v : α} {l : List (String × α)} (h : Ordered l) :
    Ordered (put k v l) := by
  induction l with
  | nil => simp [put, Ordered]
  | cons a l ih =>
    obtain ⟨ha, hl⟩ := List.pairwise_cons.mp h
    simp only [put]
    split
    · rename_i hk
      refine List.pairwise_cons.mpr ⟨fun e he => ?_, h⟩
      rcases List.mem_cons.mp he with rfl | he
      · exact hk
      · exact String.lt_trans hk (ha _ he)
    · rename_i hk
      split
      · rename_i heq
        exact List.pairwise_cons.mpr ⟨fun e he => heq ▸ ha e he, hl⟩
      · rename_i hne
        refine List.pairwise_cons.mpr ⟨fun e he => ?_, ih hl⟩
        rcases mem_put he with rfl | he
        · rcases Std.lt_trichotomy k a.1 with h | h | h
          · exact absurd h hk
          · exact absurd h hne
          · exact h
        · exact ha e he

theorem ordered_drop {k : String} {l : List (String × α)} (h : Ordered l) :
    Ordered (drop k l) := by
  induction l with
  | nil => simp [drop, Ordered]
  | cons a l ih =>
    obtain ⟨ha, hl⟩ := List.pairwise_cons.mp h
    simp only [drop]
    split
    · exact hl
    · exact List.pairwise_cons.mpr ⟨fun e he => ha e (mem_of_mem_drop he), ih hl⟩

end Keyed

/-- A finite map from text, listed by strictly increasing key. -/
structure Keyed (α : Type) where
  entries : List (String × α)
  ordered : Keyed.Ordered entries

namespace Keyed

variable {α : Type}

def empty : Keyed α := ⟨[], List.Pairwise.nil⟩

instance : Inhabited (Keyed α) := ⟨empty⟩

def get? (m : Keyed α) (k : String) : Option α := lookup k m.entries

def insert (m : Keyed α) (k : String) (v : α) : Keyed α :=
  ⟨put k v m.entries, ordered_put m.ordered⟩

def erase (m : Keyed α) (k : String) : Keyed α :=
  ⟨drop k m.entries, ordered_drop m.ordered⟩

def keys (m : Keyed α) : List String := m.entries.map (·.1)

def size (m : Keyed α) : Nat := m.entries.length

def isEmpty (m : Keyed α) : Bool := m.entries.isEmpty

/-- The map of a list in which a later entry replaces an earlier one of the same key. -/
def ofList (l : List (String × α)) : Keyed α :=
  l.foldl (fun m e => m.insert e.1 e.2) empty

theorem put_of_forall_lt {k : String} (v : α) {l : List (String × α)} (h : ∀ e ∈ l, e.1 < k) :
    put k v l = l ++ [(k, v)] := by
  induction l with
  | nil => rfl
  | cons a l ih =>
    have ha : a.1 < k := h a List.mem_cons_self
    rw [put, if_neg fun hk => String.lt_irrefl k (String.lt_trans hk ha),
      if_neg (String.ne_of_lt ha).symm,
      ih fun e he => h e (List.mem_cons_of_mem _ he), List.cons_append]

/-- Entries behind those of a map in the order of their keys are added to it one by one. -/
theorem foldl_insert (m : Keyed α) {l : List (String × α)} (h : Ordered (m.entries ++ l)) :
    l.foldl (fun m e => m.insert e.1 e.2) m = ⟨m.entries ++ l, h⟩ := by
  induction l generalizing m with
  | nil => simp
  | cons a l ih =>
    have hput : (m.insert a.1 a.2).entries = m.entries ++ [a] :=
      put_of_forall_lt a.2 fun e he =>
        (List.pairwise_append.mp h).2.2 e he a List.mem_cons_self
    rw [List.foldl_cons, ih _ (by rw [hput]; simpa using h)]
    simp [hput]

end Keyed

end DeclRules
