import DeclRules.Proofs.Declaration.Attributes

/-! # Strings pushed in turn

In place, a push makes an attribute that is missing before it looks whether that is a list
(`Form.push`). It comes to what `Form.pushUnique` says, so that it leaves nothing behind where it
fails (`Form.push_eq`). Strings pushed one after the other (`Form.pushAll`) come to stand behind the
list in the order in which they are pushed first, but for those that it has already
(`Form.Additions`). The main statement is `Form.pushed_in_turn`. -/

namespace DeclRules.Form

open Json

variable {f g : Form} {k item : String} {l : List Value} {v : Value}

section InPlace

/-- The value of an attribute, which is made as an empty list if it is missing. -/
def getOrMake (k : String) : EStateM NotAList Form Value :=
  modifyGet fun f =>
    match f.get? k with
    | some v => (v, f)
    | none => (.array [], f.insert k (.array []))

/-- A push in place. The attribute is made before it is known to be a list. -/
def push (k item : String) : EStateM NotAList Form Unit := do
  match ← getOrMake k with
  | .array items =>
    if item ∈ items.filterMap Value.string? then return ()
    else modify fun f => f.insert k (.array (items ++ [.string item]))
  | v => throw ⟨k, v⟩

/-- What there is after an edit that gives a new form, or else leaves the old one. -/
def inPlace (f : Form) : Except NotAList Form → EStateM.Result NotAList Form Unit
  | .ok g => .ok () g
  | .error e => .error e f

theorem getOrMake_of_some (h : f.get? k = some v) : getOrMake k f = .ok v f := by
  simp [getOrMake, modifyGet, MonadStateOf.modifyGet, EStateM.modifyGet, h]

theorem getOrMake_of_none (h : f.get? k = none) :
    getOrMake k f = .ok (.array []) (f.insert k (.array [])) := by
  simp [getOrMake, modifyGet, MonadStateOf.modifyGet, EStateM.modifyGet, h]

theorem push_eq (f : Form) (k item : String) :
    push k item f = inPlace f (f.pushUnique k item) := by
  simp only [push, bind, EStateM.bind]
  cases hv : f.get? k with
  | none =>
    rw [getOrMake_of_none hv, pushUnique_of_none hv]
    -- the list with the string takes the place of the empty one
    exact congrArg (EStateM.Result.ok ()) (Keyed.insert_insert ..)
  | some v =>
    rw [getOrMake_of_some hv]
    cases v with
    | array items =>
      by_cases hmem : item ∈ items.filterMap Value.string?
      · rw [pushUnique_of_mem hv hmem]
        simp only [if_pos hmem]
        rfl
      · rw [pushUnique_of_notMem hv hmem]
        simp only [if_neg hmem]
        rfl
    | _ =>
      rw [pushUnique_of_unlisted ⟨hv, fun _ => nofun⟩]
      rfl

theorem push_of_ok (h : f.pushUnique k item = .ok g) : push k item f = .ok () g := by
  rw [push_eq, h, inPlace]

theorem push_of_error {e : NotAList} (h : f.pushUnique k item = .error e) :
    push k item f = .error e f := by
  rw [push_eq, h, inPlace]

end InPlace

section Additions

variable {s t : String} {had pushed added : List String}

/-- What comes to stand behind a list that has some strings, when strings are pushed onto it. -/
structure Additions (had pushed added : List String) : Prop where
  mem_iff : ∀ s, s ∈ added ↔ s ∈ pushed ∧ s ∉ had
  /-- They stand in the order in which they are pushed first, so that none is there twice. -/
  increasing : added.Pairwise fun s t => pushed.idxOf s < pushed.idxOf t

theorem Additions.nodup (h : Additions had pushed added) : added.Nodup := by
  refine h.increasing.imp fun hlt heq => ?_
  rw [heq] at hlt
  exact Nat.lt_irrefl _ hlt

/-- The strings that are not there yet when they are pushed. -/
def unheld (had : List String) : List String → List String
  | [] => []
  | s :: pushed =>
    if s ∈ had then unheld had pushed
    else s :: unheld (had ++ [s]) pushed

theorem mem_unheld_iff : s ∈ unheld had pushed ↔ s ∈ pushed ∧ s ∉ had := by
  induction pushed generalizing had with
  | nil => simp [unheld]
  | cons a pushed ih =>
    rw [unheld]
    split
    · rename_i ha
      rw [ih, List.mem_cons]
      refine ⟨fun h => ⟨.inr h.1, h.2⟩, fun ⟨h, hs⟩ => ⟨?_, hs⟩⟩
      exact h.resolve_left fun heq => hs (heq ▸ ha)
    · rename_i ha
      rw [List.mem_cons, List.mem_cons, ih, List.mem_append, List.mem_singleton]
      by_cases hs : s = a
      · simp [hs, ha]
      · simp [hs]

theorem idxOf_cons_lt {a : String} (hs : a ≠ s) (ht : a ≠ t)
    (h : pushed.idxOf s < pushed.idxOf t) : (a :: pushed).idxOf s < (a :: pushed).idxOf t := by
  rw [List.idxOf_cons_ne _ hs, List.idxOf_cons_ne _ ht]
  exact Nat.succ_lt_succ h

theorem pairwise_unheld (had pushed : List String) :
    (unheld had pushed).Pairwise fun s t => pushed.idxOf s < pushed.idxOf t := by
  induction pushed generalizing had with
  | nil => exact .nil
  | cons a pushed ih =>
    -- once `a` is there, what is added is another string
    have hother {had : List String} (ha : a ∈ had) {s : String} (hs : s ∈ unheld had pushed) :
        a ≠ s := fun heq => (mem_unheld_iff.mp hs).2 (heq ▸ ha)
    have hrest {had : List String} (ha : a ∈ had) : (unheld had pushed).Pairwise fun s t =>
        (a :: pushed).idxOf s < (a :: pushed).idxOf t :=
      (ih had).imp_of_mem fun hs ht => idxOf_cons_lt (hother ha hs) (hother ha ht)
    rw [unheld]
    split
    · rename_i ha
      exact hrest ha
    · have ha : a ∈ had ++ [a] := List.mem_append_right had (List.mem_singleton_self a)
      refine List.pairwise_cons.mpr ⟨fun s hs => ?_, hrest ha⟩
      rw [List.idxOf_cons_self, List.idxOf_cons_ne _ (hother ha hs)]
      exact Nat.succ_pos _

theorem additions_unheld (had pushed : List String) : Additions had pushed (unheld had pushed) :=
  ⟨fun _ => mem_unheld_iff, pairwise_unheld had pushed⟩

end Additions

section InTurn

/-- Strings pushed one after the other: what became of each push, and the form in the end. -/
def pushAll (k : String) : List String → Form → List (Except NotAList Unit) × Form
  | [], f => ([], f)
  | item :: pushed, f =>
    match push k item f with
    | .ok () g => (.ok () :: (pushAll k pushed g).1, (pushAll k pushed g).2)
    | .error e g => (.error e :: (pushAll k pushed g).1, (pushAll k pushed g).2)

variable {pushed : List String}

theorem pushAll_cons_of_ok (h : push k item f = .ok () g) :
    pushAll k (item :: pushed) f = (.ok () :: (pushAll k pushed g).1, (pushAll k pushed g).2) := by
  rw [pushAll, h]

theorem pushAll_cons_of_error {e : NotAList} (h : push k item f = .error e g) :
    pushAll k (item :: pushed) f =
      (.error e :: (pushAll k pushed g).1, (pushAll k pushed g).2) := by
  rw [pushAll, h]

theorem listed_insert (f : Form) (k : String) (l : List Value) :
    Listed (f.insert k (.array l)) k l := .inl (Keyed.get?_insert_self ..)

theorem Listed.list_eq (h : f.Listed k l) : f.list k = l.filterMap Value.string? := by
  obtain h | ⟨h, rfl⟩ := h
  · rw [list, h]
  · rw [list, h]
    rfl

theorem pushAll_of_listed (h : f.Listed k l) (pushed : List String) :
    (pushAll k pushed f).1 = List.replicate pushed.length (.ok ()) ∧
    Listed (pushAll k pushed f).2 k
      (l ++ (unheld (l.filterMap Value.string?) pushed).map .string) := by
  -- the list grows by the strings that are new when they are pushed
  induction pushed generalizing f l with
  | nil => exact ⟨rfl, by simpa [unheld, pushAll] using h⟩
  | cons item pushed ih =>
    by_cases hmem : item ∈ l.filterMap Value.string?
    · rw [pushAll_cons_of_ok (push_of_ok (h.pushUnique_of_mem hmem)), unheld, if_pos hmem]
      obtain ⟨houtcomes, hlist⟩ := ih h
      exact ⟨congrArg _ houtcomes, hlist⟩
    · rw [pushAll_cons_of_ok (push_of_ok (h.pushUnique_of_notMem hmem)), unheld, if_neg hmem]
      obtain ⟨houtcomes, hlist⟩ := ih (listed_insert f k (l ++ [.string item]))
      refine ⟨congrArg _ houtcomes, ?_⟩
      simpa [Value.string?] using hlist

theorem pushAll_of_unlisted (h : f.Unlisted k v) (pushed : List String) :
    pushAll k pushed f = (List.replicate pushed.length (.error ⟨k, v⟩), f) := by
  induction pushed with
  | nil => rfl
  | cons item pushed ih =>
    rw [pushAll_cons_of_error (push_of_error (pushUnique_of_unlisted h)), ih]
    rfl

theorem get?_pushAll {k' : String} (hk : k' ≠ k) (pushed : List String) (f : Form) :
    (pushAll k pushed f).2.get? k' = f.get? k' := by
  induction pushed generalizing f with
  | nil => rfl
  | cons item pushed ih =>
    cases hpush : f.pushUnique k item with
    | ok g =>
      obtain ⟨items, -, -, hother⟩ := pushed_of_pushUnique hpush
      rw [pushAll_cons_of_ok (push_of_ok hpush)]
      exact (ih g).trans (hother k' hk)
    | error e =>
      rw [pushAll_cons_of_error (push_of_error hpush)]
      exact ih f

/-- The strings that are in the list in the end. -/
theorem list_pushAll (h : f.Listed k l) (pushed : List String) :
    list (pushAll k pushed f).2 k =
      l.filterMap Value.string? ++ unheld (l.filterMap Value.string?) pushed := by
  rw [(pushAll_of_listed h pushed).2.list_eq, List.filterMap_append, List.filterMap_map]
  exact congrArg _ List.filterMap_some

/-- What comes of strings that are pushed onto an attribute in turn. -/
structure PushedInTurn (f : Form) (k : String) (pushed : List String) : Prop where
  /-- All are pushed onto a list, and what was there stays as it is in front of what is new. -/
  listed : ∀ l, f.Listed k l → (pushAll k pushed f).1 = List.replicate pushed.length (.ok ()) ∧
    ∃ added, Additions (l.filterMap Value.string?) pushed added ∧
      Listed (pushAll k pushed f).2 k (l ++ added.map .string)
  /-- None is pushed onto anything else. -/
  unlisted : ∀ v, f.Unlisted k v →
    pushAll k pushed f = (List.replicate pushed.length (.error ⟨k, v⟩), f)
  others : ∀ k', k' ≠ k → (pushAll k pushed f).2.get? k' = f.get? k'
  /-- Another order, or repetitions, lead to the same strings in the list. -/
  perm : ∀ pushed', (∀ s, s ∈ pushed' ↔ s ∈ pushed) →
    (list (pushAll k pushed' f).2 k).Perm (list (pushAll k pushed f).2 k)

/-- **Strings pushed in turn stand in the list once, in the order in which they came.** A push in
place is one that gives a new form, or else leaves the form as it was. -/
theorem pushed_in_turn (f : Form) (k : String) (pushed : List String) :
    (∀ (g : Form) (item : String), push k item g = inPlace g (g.pushUnique k item)) ∧
    PushedInTurn f k pushed := by
  refine ⟨fun g item => push_eq g k item, ?_, ?_, ?_, ?_⟩
  · intro l hl
    obtain ⟨houtcomes, hlist⟩ := pushAll_of_listed hl pushed
    exact ⟨houtcomes, _, additions_unheld .., hlist⟩
  · exact fun v hv => pushAll_of_unlisted hv pushed
  · exact fun k' hk => get?_pushAll hk pushed f
  · intro pushed' hsame
    obtain ⟨l, hl⟩ | ⟨v, hv⟩ := listed_or_unlisted f k
    · rw [list_pushAll hl, list_pushAll hl]
      have hnodup (strings : List String) : (unheld (l.filterMap Value.string?) strings).Nodup :=
        (additions_unheld ..).nodup
      refine ((List.perm_ext_iff_of_nodup (hnodup _) (hnodup _)).mpr fun s => ?_).append_left _
      rw [mem_unheld_iff, mem_unheld_iff, hsame]
    · rw [pushAll_of_unlisted hv, pushAll_of_unlisted hv]

/-- What was in the list twice, or is no string, stays. -/
example : (pushAll annotations ["b", "a", "c", "b"]
    (.ofList [(annotations, .array [.string "a", .null, .string "a"])])).2.get? annotations =
      some (.array [.string "a", .null, .string "a", .string "b", .string "c"]) := by cbv

end InTurn

end DeclRules.Form
