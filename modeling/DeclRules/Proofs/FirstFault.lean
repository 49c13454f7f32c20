import DeclRules.Declaration.PerKind
import Mathlib.Data.List.Forall2

/-! # Work that stops at the first fault

What it takes for a computation in `Except` or `Option` to succeed: the steps of a sequence have to
succeed one by one (`Except.bind_eq_ok_iff`), and so has the work on every item of a list
(`Except.mapM_eq_ok_iff`, `Option.mapM_eq_some_iff`) and on every kind
(`PerKind.ofExcept_eq_ok_iff`). If the work on a list fails, it is as the first item that fails
(`Except.mapM_eq_error_iff`, by places `Except.mapM_eq_error_iff_getElem?`, and for numbered items
`Except.mapM_zipIdx_eq_error_iff`), and likewise for the kinds in their order
(`PerKind.ofExcept_eq_error_iff`). -/

/-- All that comes before some item, by its split and by its place. -/
theorem List.exists_split_iff {α : Type} {l : List α} {a : α} {P : α → Prop} :
    (∃ before after, l = before ++ a :: after ∧ ∀ a' ∈ before, P a') ↔
      ∃ i : Nat, l[i]? = some a ∧ ∀ (j : Nat) a', j < i → l[j]? = some a' → P a' := by
  constructor
  · rintro ⟨before, after, rfl, hbefore⟩
    refine ⟨before.length, by simp, fun j a' hj ha' => hbefore a' ?_⟩
    rw [List.getElem?_append_left hj] at ha'
    exact List.mem_of_getElem? ha'
  · rintro ⟨i, hi, hbefore⟩
    obtain ⟨hlt, rfl⟩ := List.getElem?_eq_some_iff.mp hi
    refine ⟨l.take i, l.drop (i + 1), ?_, fun a' ha' => ?_⟩
    · rw [List.getElem_cons_drop, List.take_append_drop]
    · obtain ⟨j, hj, rfl⟩ := List.mem_take_iff_getElem.mp ha'
      have hji : j < i := by omega
      exact hbefore j _ hji (List.getElem?_eq_getElem _)

namespace Except

variable {ε ε' α β : Type}

theorem bind_eq_ok_iff {x : Except ε α} {f : α → Except ε β} {b : β} :
    x >>= f = .ok b ↔ ∃ a, x = .ok a ∧ f a = .ok b := by
  cases x <;> simp [bind, Except.bind]

theorem bind_eq_error_iff {x : Except ε α} {f : α → Except ε β} {e : ε} :
    x >>= f = .error e ↔ x = .error e ∨ ∃ a, x = .ok a ∧ f a = .error e := by
  cases x <;> simp [bind, Except.bind]

theorem map_eq_ok_iff {x : Except ε α} {f : α → β} {b : β} :
    x.map f = .ok b ↔ ∃ a, x = .ok a ∧ f a = b := by
  cases x <;> simp [Except.map]

theorem mapError_eq_ok_iff {x : Except ε α} {g : ε → ε'} {a : α} :
    x.mapError g = .ok a ↔ x = .ok a := by
  cases x <;> simp [Except.mapError]

theorem mapError_eq_error_iff {x : Except ε α} {g : ε → ε'} {e' : ε'} :
    x.mapError g = .error e' ↔ ∃ e, x = .error e ∧ g e = e' := by
  cases x <;> simp [Except.mapError]

theorem mapM_eq_ok_iff {f : α → Except ε β} {l : List α} {m : List β} :
    l.mapM f = .ok m ↔ List.Forall₂ (fun a b => f a = .ok b) l m := by
  induction l generalizing m with
  | nil => cases m <;> simp [pure, Except.pure]
  | cons a l ih =>
    simp only [List.mapM_cons, bind_eq_ok_iff, ih, List.forall₂_cons_left_iff]
    constructor
    · rintro ⟨b, hb, m', hm, h⟩
      cases h
      exact ⟨b, m', hb, hm, rfl⟩
    · rintro ⟨b, m', hb, hm, rfl⟩
      exact ⟨b, hb, m', hm, rfl⟩

/-- The work on a list fails as it does on the first item that fails. -/
theorem mapM_eq_error_iff {f : α → Except ε β} {l : List α} {e : ε} :
    l.mapM f = .error e ↔ ∃ before a after, l = before ++ a :: after ∧
      (∀ a' ∈ before, ∃ b, f a' = .ok b) ∧ f a = .error e := by
  induction l with
  | nil => simp [pure, Except.pure]
  | cons a l ih =>
    rw [List.mapM_cons, bind_eq_error_iff]
    constructor
    · rintro (ha | ⟨b, hb, hl⟩)
      · exact ⟨[], a, l, rfl, by simp, ha⟩
      · obtain hl | ⟨m, -, hm⟩ := bind_eq_error_iff.mp hl
        · obtain ⟨before, a', after, rfl, hbefore, ha'⟩ := ih.mp hl
          exact ⟨a :: before, a', after, rfl, List.forall_mem_cons.mpr ⟨⟨b, hb⟩, hbefore⟩, ha'⟩
        · cases hm
    · rintro ⟨before, a', after, hl, hbefore, ha'⟩
      cases before with
      | nil =>
        cases hl
        exact .inl ha'
      | cons _ before =>
        cases hl
        obtain ⟨⟨b, hb⟩, hbefore⟩ := List.forall_mem_cons.mp hbefore
        exact .inr ⟨b, hb, bind_eq_error_iff.mpr (.inl (ih.mpr ⟨_, _, _, rfl, hbefore, ha'⟩))⟩

theorem mapM_eq_error_iff_getElem? {f : α → Except ε β} {l : List α} {e : ε} :
    l.mapM f = .error e ↔ ∃ (i : Nat) (a : α), l[i]? = some a ∧
      (∀ (j : Nat) a', j < i → l[j]? = some a' → ∃ b, f a' = .ok b) ∧ f a = .error e := by
  rw [mapM_eq_error_iff]
  constructor
  · rintro ⟨before, a, after, hl, hbefore, ha⟩
    obtain ⟨i, hi, hfirst⟩ := List.exists_split_iff.mp ⟨before, after, hl, hbefore⟩
    exact ⟨i, a, hi, hfirst, ha⟩
  · rintro ⟨i, a, hi, hfirst, ha⟩
    obtain ⟨before, after, hl, hbefore⟩ := List.exists_split_iff.mpr ⟨i, hi, hfirst⟩
    exact ⟨before, a, after, hl, hbefore, ha⟩

/-- The work on numbered items fails as it does on the first item that fails, with its number. -/
theorem mapM_zipIdx_eq_error_iff {f : α × Nat → Except ε β} {l : List α} {n : Nat} {e : ε} :
    (l.zipIdx n).mapM f = .error e ↔ ∃ (i : Nat) (a : α), l[i]? = some a ∧
      (∀ (j : Nat) a', j < i → l[j]? = some a' → ∃ b, f (a', n + j) = .ok b) ∧
      f (a, n + i) = .error e := by
  have hnumbered (i : Nat) (w : α × Nat) :
      (l.zipIdx n)[i]? = some w ↔ l[i]? = some w.1 ∧ w.2 = n + i := by
    rw [List.getElem?_zipIdx, Option.map_eq_some_iff]
    constructor
    · rintro ⟨a, ha, rfl⟩
      exact ⟨ha, rfl⟩
    · rintro ⟨ha, hi⟩
      exact ⟨w.1, ha, Prod.ext rfl hi.symm⟩
  rw [mapM_eq_error_iff_getElem?]
  constructor
  · rintro ⟨i, ⟨a, i'⟩, hw, hfirst, ha⟩
    obtain ⟨hi, rfl⟩ := (hnumbered i _).mp hw
    exact ⟨i, a, hi, fun j a' hj ha' => hfirst j _ hj ((hnumbered j (a', n + j)).mpr ⟨ha', rfl⟩), ha⟩
  · rintro ⟨i, a, hi, hfirst, ha⟩
    refine ⟨i, (a, n + i), (hnumbered i _).mpr ⟨hi, rfl⟩, fun j w hj hw => ?_, ha⟩
    obtain ⟨hj', hn⟩ := (hnumbered j w).mp hw
    obtain ⟨b, hb⟩ := hfirst j w.1 hj hj'
    exact ⟨b, by rw [← hb, ← hn]⟩

theorem mapM_append_eq_ok_iff {f : α → Except ε β} {l l' : List α} {m : List β} :
    (l ++ l').mapM f = .ok m ↔ ∃ n n', l.mapM f = .ok n ∧ l'.mapM f = .ok n' ∧ m = n ++ n' := by
  simp only [List.mapM_append, bind_eq_ok_iff]
  constructor
  · rintro ⟨n, hn, n', hn', h⟩
    cases h
    exact ⟨n, n', hn, hn', rfl⟩
  · rintro ⟨n, n', hn, hn', rfl⟩
    exact ⟨n, hn, n', hn', rfl⟩

/-- The fault of a list is the fault of some item. -/
theorem exists_of_mapM_eq_error {f : α → Except ε β} {l : List α} {e : ε}
    (h : l.mapM f = .error e) : ∃ a ∈ l, f a = .error e := by
  obtain ⟨before, a, after, rfl, -, ha⟩ := mapM_eq_error_iff.mp h
  exact ⟨a, by simp, ha⟩

end Except

theorem Option.mapM_eq_some_iff {α β : Type} {f : α → Option β} {l : List α} {m : List β} :
    l.mapM f = some m ↔ List.Forall₂ (fun a b => f a = some b) l m := by
  induction l generalizing m with
  | nil => cases m <;> simp
  | cons a l ih =>
    simp only [List.mapM_cons, Option.bind_eq_bind, Option.bind_eq_some_iff, ih,
      List.forall₂_cons_left_iff]
    constructor
    · rintro ⟨b, hb, m', hm, h⟩
      cases h
      exact ⟨b, m', hb, hm, rfl⟩
    · rintro ⟨b, m', hb, hm, rfl⟩
      exact ⟨b, hb, m', hm, rfl⟩

/-- Where every item has a counterpart there is a list of counterparts. -/
theorem List.exists_forall₂ {α β : Type} {R : α → β → Prop} {l : List α}
    (h : ∀ a ∈ l, ∃ b, R a b) : ∃ m, List.Forall₂ R l m := by
  induction l with
  | nil => exact ⟨[], .nil⟩
  | cons a l ih =>
    obtain ⟨b, hb⟩ := h a List.mem_cons_self
    obtain ⟨m, hm⟩ := ih fun a ha => h a (List.mem_cons_of_mem _ ha)
    exact ⟨b :: m, .cons hb hm⟩

namespace DeclRules.PerKind

variable {ε : Type} {α : Kind → Type}

theorem ofExcept_eq_ok_iff {f : (k : Kind) → Except ε (α k)} {m : PerKind α} :
    ofExcept f = .ok m ↔ ∀ k, f k = .ok (m.get k) := by
  refine ⟨fun h k => get_ofExcept h k, fun h => ?_⟩
  simp only [ofExcept, h, bind, Except.bind, pure, Except.pure]
  rfl

/-- Filling every kind fails as going through the kinds in order does. -/
theorem ofExcept_eq_error_iff_mapM {f : (k : Kind) → Except ε (α k)} {e : ε} :
    ofExcept f = .error e ↔ Kind.all.mapM (fun k => (f k).map fun _ => ()) = .error e := by
  simp only [ofExcept, Kind.all, List.mapM_cons, List.mapM_nil]
  cases f .function with
  | error => simp [bind, Except.bind, Except.map]
  | ok =>
    cases f .container with
    | error => simp [bind, Except.bind, Except.map]
    | ok =>
      cases f .typedef with
      | error => simp [bind, Except.bind, Except.map]
      | ok =>
        cases f .forwardDeclaration <;> simp [bind, Except.bind, pure, Except.pure, Except.map]

/-- Where not every kind can be filled, it is as the first kind that cannot. -/
theorem ofExcept_eq_error_iff {f : (k : Kind) → Except ε (α k)} {e : ε} :
    ofExcept f = .error e ↔ ∃ before k after, Kind.all = before ++ k :: after ∧
      (∀ k' ∈ before, ∃ a, f k' = .ok a) ∧ f k = .error e := by
  have hok (k : Kind) : (∃ u, (f k).map (fun _ => ()) = .ok u) ↔ ∃ a, f k = .ok a := by
    simp [Except.map_eq_ok_iff]
  have herror (k : Kind) : (f k).map (fun _ => ()) = .error e ↔ f k = .error e := by
    cases f k <;> simp [Except.map]
  simp only [ofExcept_eq_error_iff_mapM, Except.mapM_eq_error_iff, hok, herror]

theorem exists_of_ofExcept_eq_error {f : (k : Kind) → Except ε (α k)} {e : ε}
    (h : ofExcept f = .error e) : ∃ k, f k = .error e := by
  obtain ⟨_, k, _, -, -, hk⟩ := ofExcept_eq_error_iff.mp h
  exact ⟨k, hk⟩

theorem exists_ofExcept_iff {f : (k : Kind) → Except ε (α k)} :
    (∃ m, ofExcept f = .ok m) ↔ ∀ k, ∃ a, f k = .ok a := by
  constructor
  · rintro ⟨m, h⟩ k
    exact ⟨_, ofExcept_eq_ok_iff.mp h k⟩
  · intro h
    obtain ⟨a, ha⟩ := h .function
    obtain ⟨b, hb⟩ := h .container
    obtain ⟨c, hc⟩ := h .typedef
    obtain ⟨d, hd⟩ := h .forwardDeclaration
    exact ⟨⟨a, b, c, d⟩, ofExcept_eq_ok_iff.mpr fun k => by cases k <;> assumption⟩

end DeclRules.PerKind
