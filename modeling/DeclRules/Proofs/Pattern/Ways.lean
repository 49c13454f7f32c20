import DeclRules.Proofs.Pattern.Repetition

/-! # The ways of an expression through a text

A way goes from one spot to another: from a place of the text, with something kept of the groups
so far, to a place further on, with what is then kept. What entering and leaving a group does to
what is kept is a parameter (`Notes`): nothing (`Notes.none`), the positions noted in slots
(`Notes.traces`) or the stretches that the groups hold (`Notes.held`). An expression covers a
stretch of the text if it has a way over it (`Expr.matches_iff_ways`), and whatever is kept, the
ways lead over the same stretches (`Expr.Ways.follow`). -/

namespace DeclRules.Pattern

open Unicode Relation
open Pattern.Expr (Place)

/-- What becomes of what is kept where a group is entered, and where it is left again. -/
structure Notes (κ : Type) where
  enter (group : Nat) (here : Place) (kept : κ) : κ
  leave (group : Nat) (start here : Place) (kept : κ) : κ

namespace Notes

/-- Nothing is kept. -/
def none : Notes Unit where
  enter _ _ k := k
  leave _ _ _ k := k

/-- Where a group starts and where it ends is noted in two slots, in a text of given length. -/
def traces (length : Nat) : Notes Trace where
  enter i p t := (2 * i, length - p.rest.length) :: t
  leave i _ p t := (2 * i + 1, length - p.rest.length) :: t

end Notes

/-- The stretches that groups hold. -/
abbrev Held := Nat → Option (List Char)

/-- The text between two places. -/
def Expr.Place.stretch (p q : Place) : List Char := p.rest.take (p.rest.length - q.rest.length)

/-- Every group holds the stretch that it covered last. -/
def Notes.held : Notes Held where
  enter _ _ k := k
  leave i p q k := fun j => if j = i then some (p.stretch q) else k j

/-- A place of a text and what is kept there. -/
structure Spot (κ : Type) where
  place : Place
  kept : κ

/-- One character of a set. -/
def Takes (s : CharSet) (p q : Place) : Prop :=
  ∃ c, p.rest = c :: q.rest ∧ q.before = some c ∧ s.contains c = true

theorem Takes.congr {s t : CharSet} (h : ∀ c, s.contains c = true ↔ t.contains c = true) :
    Takes s = Takes t := by
  funext p q
  simp only [Takes, h]

/-- Over a stretch of the text outside of all groups: nothing that is kept changes. -/
def Spot.Over {κ : Type} (R : Place → Place → Prop) (s t : Spot κ) : Prop :=
  R s.place t.place ∧ t.kept = s.kept

theorem over_takes_iff {κ α : Type} {l : List α} {set : CharSet} {sets : α → CharSet}
    (h : ∀ c, set.contains c = true ↔ ∃ a ∈ l, (sets a).contains c = true) {s t : Spot κ} :
    s.Over (Takes set) t ↔ ∃ a ∈ l, s.Over (Takes (sets a)) t := by
  constructor
  · rintro ⟨⟨c, hrest, hbefore, hc⟩, hkept⟩
    obtain ⟨a, ha, hc⟩ := (h c).mp hc
    exact ⟨a, ha, ⟨c, hrest, hbefore, hc⟩, hkept⟩
  · rintro ⟨a, ha, ⟨c, hrest, hbefore, hc⟩, hkept⟩
    exact ⟨⟨c, hrest, hbefore, (h c).mpr ⟨a, ha, hc⟩⟩, hkept⟩

/-- A test of a place. -/
def Look.At (l : Look) (p q : Place) : Prop := p = q ∧ l.holds p.before p.rest.head? = true

theorem Spot.Over.eq_of_at {κ : Type} {l : Look} {s t : Spot κ} (h : s.Over l.At t) : s = t := by
  obtain ⟨⟨hplace, -⟩, hkept⟩ := h
  cases s
  cases t
  cases hplace
  cases hkept
  rfl

/-- A way through a group: it is entered, its inside is gone over and it is left. -/
def Notes.Through {κ : Type} (N : Notes κ) (i : Nat) (R : Spot κ → Spot κ → Prop)
    (s t : Spot κ) : Prop :=
  ∃ u, R ⟨s.place, N.enter i s.place s.kept⟩ u ∧
    t = ⟨u.place, N.leave i s.place u.place u.kept⟩

namespace Expr

/-- There is a way for the expression from one spot to another. -/
def Ways {κ : Type} (N : Notes κ) : Expr → Spot κ → Spot κ → Prop
  | empty => Eq
  | chars set => Spot.Over (Takes set)
  | look l => Spot.Over l.At
  | .repeat min max _ e => Repeated (e.Ways N) min max
  | group i _ e => N.Through i (e.Ways N)
  | seq e f => Comp (e.Ways N) (f.Ways N)
  | alt e f => fun s t => e.Ways N s t ∨ f.Ways N s t

theorem ways_alt_iff {κ : Type} {N : Notes κ} {e f : Expr} {s t : Spot κ} :
    (alt e f).Ways N s t ↔ e.Ways N s t ∨ f.Ways N s t := Iff.rfl

section Follow

variable {κ κ' : Type} {N : Notes κ} {N' : Notes κ'} {F : κ → κ' → Prop}

/-- What is kept in one way is told from what is kept in another. -/
def Follows (F : κ → κ' → Prop) (s : Spot κ) (s' : Spot κ') : Prop :=
  s'.place = s.place ∧ F s.kept s'.kept

theorem follows_over {R : Place → Place → Prop} {s t : Spot κ} {s' : Spot κ'}
    (h : s.Over R t) (hs : Follows F s s') : ∃ t', s'.Over R t' ∧ Follows F t t' := by
  refine ⟨⟨t.place, s'.kept⟩, ⟨?_, rfl⟩, rfl, ?_⟩
  · rw [hs.1]
    exact h.1
  · rw [h.2]
    exact hs.2

/-- Whatever else is kept, there is a way over the same stretch, as long as groups keep the one
told from the other. -/
theorem Ways.follow (henter : ∀ {i p k k'}, F k k' → F (N.enter i p k) (N'.enter i p k'))
    (hleave : ∀ {i p q k k'}, F k k' → F (N.leave i p q k) (N'.leave i p q k'))
    {e : Expr} {s t : Spot κ} {s' : Spot κ'} (h : e.Ways N s t) (hs : Follows F s s') :
    ∃ t', e.Ways N' s' t' ∧ Follows F t t' := by
  induction e generalizing s t s' with
  | empty => exact ⟨s', rfl, h ▸ hs⟩
  | chars set => exact follows_over h hs
  | look l => exact follows_over h hs
  | «repeat» min max greedy e ih => exact Repeated.follow ih h hs
  | group i name e ih =>
    obtain ⟨u, hu, rfl⟩ := h
    obtain ⟨place, kept⟩ := s'
    obtain ⟨rfl, hkept⟩ := hs
    have hinside : Follows F ⟨s.place, N.enter i s.place s.kept⟩
        ⟨s.place, N'.enter i s.place kept⟩ := ⟨rfl, henter hkept⟩
    obtain ⟨u', hu', hplace, hF⟩ := ih hu hinside
    refine ⟨_, ⟨u', hu', rfl⟩, hplace, ?_⟩
    dsimp only
    rw [hplace]
    exact hleave hF
  | seq e f ihe ihf =>
    obtain ⟨u, hu, ht⟩ := h
    obtain ⟨u', hu', hs⟩ := ihe hu hs
    obtain ⟨t', ht', hs⟩ := ihf ht hs
    exact ⟨t', ⟨u', hu', ht'⟩, hs⟩
  | alt e f ihe ihf =>
    rcases h with h | h
    · exact (ihe h hs).imp fun _ ht => ht.imp_left .inl
    · exact (ihf h hs).imp fun _ ht => ht.imp_left .inr

end Follow

/-- Where nothing is kept, a repetition is one over places. -/
theorem repeated_none_iff {R : Place → Place → Prop} {S : Spot Unit → Spot Unit → Prop}
    (h : ∀ p q, R p q ↔ S ⟨p, ()⟩ ⟨q, ()⟩) {min : Nat} {max : Option Nat} {p q : Place} :
    Repeated R min max p q ↔ Repeated S min max ⟨p, ()⟩ ⟨q, ()⟩ := by
  constructor
  · intro hpq
    obtain ⟨_, hst, rfl⟩ := hpq.follow (S := S) (F := fun p s => s = ⟨p, ()⟩)
      (fun {_ q _} hpq hp => ⟨⟨q, ()⟩, hp ▸ (h _ _).mp hpq, rfl⟩) rfl
    exact hst
  · intro hst
    obtain ⟨_, hpq, rfl⟩ := hst.follow (S := R) (F := fun s p => p = s.place)
      (fun {_ t _} hst hp => ⟨t.place, hp ▸ (h _ _).mpr hst, rfl⟩) rfl
    exact hpq

/-- What an expression covers is what it has a way over. -/
theorem matches_iff_ways_none {e : Expr} {p q : Place} :
    Matches e p q ↔ e.Ways .none ⟨p, ()⟩ ⟨q, ()⟩ := by
  induction e generalizing p q with
  | empty =>
    constructor
    · rintro ⟨⟩
      rfl
    · rintro ⟨⟩
      exact .empty
  | chars set =>
    constructor
    · rintro ⟨⟩
      rename_i hc
      exact ⟨⟨_, rfl, rfl, hc⟩, rfl⟩
    · rintro ⟨⟨c, hrest, hbefore, hc⟩, -⟩
      obtain ⟨before, rest⟩ := p
      obtain ⟨before', rest'⟩ := q
      cases hrest
      cases hbefore
      exact .chars hc
  | look l =>
    constructor
    · rintro ⟨⟩
      rename_i hl
      exact ⟨⟨rfl, hl⟩, rfl⟩
    · rintro ⟨⟨hpq, hl⟩, -⟩
      cases hpq
      exact .look hl
  | «repeat» min max greedy e ih =>
    exact matches_repeat_iff.trans (repeated_none_iff fun p q => ih)
  | group i name e ih =>
    constructor
    · rintro ⟨⟩
      rename_i h
      exact ⟨_, ih.mp h, rfl⟩
    · rintro ⟨u, hu, hq⟩
      cases hq
      exact .group (ih.mpr hu)
  | seq e f ihe ihf =>
    constructor
    · rintro ⟨⟩
      rename_i h h'
      exact ⟨_, ihe.mp h, ihf.mp h'⟩
    · rintro ⟨u, hu, hq⟩
      exact .seq (ihe.mpr hu) (ihf.mpr hq)
  | alt e f ihe ihf =>
    rw [ways_alt_iff, ← ihe, ← ihf]
    constructor
    · rintro (h | h)
      · exact .inl ‹_›
      · exact .inr ‹_›
    · rintro (h | h)
      · exact .left h
      · exact .right h

/-- A way goes on in the text. -/
theorem Ways.suffix {κ : Type} {N : Notes κ} {e : Expr} {s t : Spot κ} (h : e.Ways N s t) :
    t.place.rest <:+ s.place.rest := by
  induction e generalizing s t with
  | empty => exact h ▸ List.suffix_rfl
  | chars set =>
    obtain ⟨⟨c, hrest, -⟩, -⟩ := h
    rw [hrest]
    exact List.suffix_cons _ _
  | look l =>
    obtain ⟨⟨hplace, -⟩, -⟩ := h
    exact hplace ▸ List.suffix_rfl
  | «repeat» min max greedy e ih =>
    obtain ⟨n, -, hpq⟩ := h
    induction hpq with
    | zero => exact List.suffix_rfl
    | succ hpq _ hrest => exact hrest.trans (ih hpq)
  | group i name e ih =>
    obtain ⟨u, hu, rfl⟩ := h
    have hsuffix := ih hu
    exact hsuffix
  | seq e f ihe ihf =>
    obtain ⟨u, hu, ht⟩ := h
    exact (ihf ht).trans (ihe hu)
  | alt e f ihe ihf =>
    rcases h with h | h
    · exact ihe h
    · exact ihf h

end Expr

end DeclRules.Pattern
