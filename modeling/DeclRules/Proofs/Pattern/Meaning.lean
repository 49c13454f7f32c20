import DeclRules.Pattern.Elaborate
import DeclRules.Proofs.Pattern.Simplify
import DeclRules.Proofs.Unicode.Named
import Mathlib.Data.Option.Basic

/-! # What a syntax tree covers

`Ast.Covers` says which stretches of a text a pattern covers as it is written, under the flags in
force where it stands: no simplified expression and no order of preference comes in. `Ast.Ways` are
the ways of a tree over them, along which something is kept of its groups. The expression that a
tree in order is elaborated to is proper, covers the same, has no ways that the tree has not and has
its groups but for those repeated zero times (`Ast.renders`). -/

namespace DeclRules.Pattern

open Unicode CharSet Relation
open Pattern.Expr (Place)

namespace Ast

/-- The characters of a tree that stands for a single one. -/
def set? (f : Flags) : Ast → Option CharSet
  | atom (.literal c byte) => ((Atom.literal c byte).set? f).map f.fold
  | atom a => a.set? f
  | dot => dotSet f
  | bracket negated c => (c.set? f).bind fun s => f.negate negated (f.fold s)
  | _ => none

mutual

/-- The flags behind a tree. What is set inside a group holds no longer than the group. -/
def after (f : Flags) : Ast → Flags
  | flags settings => f.apply settings
  | .repeat _ _ _ body => body.after f
  | concat items => afterAll f items
  | alternation branches => afterAll f branches
  | _ => f

def afterAll (f : Flags) : List Ast → Flags
  | [] => f
  | a :: l => afterAll (a.after f) l

end

mutual

/-- The tree covers the text from one place to another under given flags. -/
def Covers (f : Flags) : Ast → Place → Place → Prop
  | empty | flags _ => Eq
  | assertion a => fun p q => p = q ∧ (a.look f).holds p.before p.rest.head? = true
  | .repeat min max _ body => Repeated (body.Covers f) min max
  | group (.capture _ _) body => body.Covers f
  | group (.plain settings) body => body.Covers (f.apply settings)
  | concat items => CoversAll f items
  | alternation branches => CoversAny f branches
  | a => fun p q => ∃ s ∈ a.set? f, Takes s p q

/-- The trees cover the text one after the other. -/
def CoversAll (f : Flags) : List Ast → Place → Place → Prop
  | [] => Eq
  | a :: l => Comp (a.Covers f) (CoversAll (a.after f) l)

/-- One of the trees covers the text; flags set in one hold in those behind it. -/
def CoversAny (f : Flags) : List Ast → Place → Place → Prop
  | [] => fun _ _ => False
  | a :: l => fun p q => a.Covers f p q ∨ CoversAny (a.after f) l p q

end

mutual

/-- There is a way for the tree from one spot to another under given flags. -/
def Ways {κ : Type} (N : Notes κ) (f : Flags) : Ast → Spot κ → Spot κ → Prop
  | empty | flags _ => Eq
  | assertion a => Spot.Over (a.look f).At
  | .repeat min max _ body => Repeated (body.Ways N f) min max
  | group (.capture i _) body => N.Through i (body.Ways N f)
  | group (.plain settings) body => body.Ways N (f.apply settings)
  | concat items => WaysAll N f items
  | alternation branches => WaysAny N f branches
  | a => fun s t => ∃ set ∈ a.set? f, s.Over (Takes set) t

/-- There is a way for the trees one after the other. -/
def WaysAll {κ : Type} (N : Notes κ) (f : Flags) : List Ast → Spot κ → Spot κ → Prop
  | [] => Eq
  | a :: l => Comp (a.Ways N f) (WaysAll N (a.after f) l)

/-- There is a way for one of the trees; flags set in one hold in those behind it. -/
def WaysAny {κ : Type} (N : Notes κ) (f : Flags) : List Ast → Spot κ → Spot κ → Prop
  | [] => fun _ _ => False
  | a :: l => fun s t => a.Ways N f s t ∨ WaysAny N (a.after f) l s t

end

mutual

/-- The capture groups, by number and name, in the order in which they open. -/
def groups : Ast → List (Nat × Option String)
  | .repeat _ _ _ body => body.groups
  | group (.capture i n) body => (i, n) :: body.groups
  | group (.plain _) body => body.groups
  | concat items => groupsAll items
  | alternation branches => groupsAll branches
  | _ => []

def groupsAll : List Ast → List (Nat × Option String)
  | [] => []
  | a :: l => a.groups ++ groupsAll l

end

mutual

/-- The capture groups that are not inside of what is repeated zero times. -/
def liveGroups : Ast → List (Nat × Option String)
  | .repeat _ max _ body => if max = some 0 then [] else body.liveGroups
  | group (.capture i n) body => (i, n) :: body.liveGroups
  | group (.plain _) body => body.liveGroups
  | concat items => liveGroupsAll items
  | alternation branches => liveGroupsAll branches
  | _ => []

def liveGroupsAll : List Ast → List (Nat × Option String)
  | [] => []
  | a :: l => a.liveGroups ++ liveGroupsAll l

end

mutual

/-- The bounds of every repetition are in order, and no group stands inside one of its number. -/
def Ordered : Ast → Prop
  | .repeat min max _ body => (∀ m ∈ max, min ≤ m) ∧ body.Ordered
  | group (.capture i _) body => (∀ g ∈ body.groups, g.1 ≠ i) ∧ body.Ordered
  | group (.plain _) body => body.Ordered
  | concat items => OrderedAll items
  | alternation branches => OrderedAll branches
  | _ => True

def OrderedAll : List Ast → Prop
  | [] => True
  | a :: l => a.Ordered ∧ OrderedAll l

end

end Ast

section Sets

variable {f : Flags} {s : CharSet}

theorem proper_fold (h : s.Proper) : (f.fold s).Proper := by
  unfold Flags.fold
  split
  · exact h
  · split
    · exact proper_foldCase s
    · exact proper_foldAsciiCase s

theorem proper_of_negate {negated : Bool} {t : CharSet} (h : s.Proper)
    (ht : f.negate negated s = some t) : t.Proper := by
  unfold Flags.negate at ht
  split at ht
  · cases ht
    exact h
  · split at ht
    · cases ht
      exact proper_compl s
    · cases ht

theorem proper_shorthand (unicode : Bool) (a : Shorthand) : (a.set unicode).Proper := by
  cases a <;> cases unicode <;>
    first
    | exact proper_ofHex _
    | exact proper_range _ _
    | exact proper_unions _

theorem proper_asciiClass (c : AsciiClass) : c.set.Proper := by
  cases c <;>
    first
    | exact proper_ofHex _
    | exact proper_range _ _

theorem proper_of_query {q : PropertyQuery} (h : q.set? = some s) : s.Proper := by
  cases q with
  | name n =>
    rw [PropertyQuery.set?, Option.orElse_eq_some, Option.orElse_eq_some] at h
    obtain h | ⟨-, h | ⟨-, h⟩⟩ := h
    · exact proper_of_property? h
    · exact proper_of_generalCategory? h
    · exact proper_of_script? h
  | value p v =>
    rw [PropertyQuery.set?] at h
    dsimp only at h
    split at h
    · exact proper_of_generalCategory? h
    · exact proper_of_generalCategory? h
    · exact proper_of_script? h
    · exact proper_of_script? h
    · exact proper_of_scriptExtensions? h
    · exact proper_of_scriptExtensions? h
    · exact proper_of_age? h
    · exact properTable_grapheme.find h
    · exact properTable_grapheme.find h
    · exact properTable_wordBreak.find h
    · exact properTable_wordBreak.find h
    · exact properTable_sentence.find h
    · exact properTable_sentence.find h
    · cases h

theorem proper_of_atom {a : Atom} (h : a.set? f = some s) : s.Proper := by
  cases a with
  | literal c byte =>
    rw [Atom.set?] at h
    split at h
    · cases h
    · cases h
      exact proper_singleton c
  | shorthand negated a => exact proper_of_negate (proper_shorthand _ a) h
  | property negated q =>
    rw [Atom.set?] at h
    split at h
    · cases h
    · obtain ⟨t, ht, h⟩ := Option.bind_eq_some_iff.mp h
      exact proper_of_negate (proper_fold (proper_of_query ht)) h

theorem proper_of_inBracket {t : CharSet} (h : s.Proper) (ht : ClassSet.inBracket f s = some t) :
    t.Proper := by
  unfold ClassSet.inBracket at ht
  split at ht
  · cases ht
  · cases ht
    exact h

theorem proper_operation (op : SetOperator) (s t : CharSet) : (op.apply s t).Proper := by
  cases op with
  | intersection => exact proper_compl _
  | difference => exact proper_compl _
  | symmetricDifference => exact proper_union _ _

theorem proper_of_unions? {l : List ClassSet} (h : ClassSet.unions? f l = some s) : s.Proper := by
  cases l with
  | nil =>
    cases h
    exact proper_empty
  | cons c l =>
    rw [ClassSet.unions?] at h
    obtain ⟨t, -, h⟩ := Option.bind_eq_some_iff.mp h
    obtain ⟨u, -, h⟩ := Option.bind_eq_some_iff.mp h
    cases h
    exact proper_union t u

theorem proper_of_classSet {f : Flags} {s : CharSet} {c : ClassSet} (h : c.set? f = some s) :
    s.Proper := by
  cases c with
  | atom a =>
    obtain ⟨t, ht, h⟩ := Option.bind_eq_some_iff.mp h
    exact proper_of_inBracket (proper_of_atom ht) h
  | range c d => exact proper_of_inBracket (proper_range _ _) h
  | ascii negated c => exact proper_of_negate (proper_fold (proper_asciiClass c)) h
  | bracket negated c =>
    rw [ClassSet.set?] at h
    obtain ⟨t, ht, h⟩ := Option.bind_eq_some_iff.mp h
    exact proper_of_negate (proper_fold (proper_of_classSet ht)) h
  | union items => exact proper_of_unions? h
  | operation op l r =>
    rw [ClassSet.set?] at h
    obtain ⟨t, -, h⟩ := Option.bind_eq_some_iff.mp h
    obtain ⟨u, -, h⟩ := Option.bind_eq_some_iff.mp h
    cases h
    exact proper_operation op _ _

theorem proper_of_dotSet (h : dotSet f = some s) : s.Proper := by
  unfold dotSet at h
  split at h
  · cases h
  · split at h
    · cases h
      exact proper_all
    · split at h
      · cases h
        exact proper_compl _
      · cases h
        exact proper_compl _

/-- Single characters stand for proper sets. -/
theorem Ast.proper_of_set? {a : Ast} (h : a.set? f = some s) : s.Proper := by
  unfold Ast.set? at h
  split at h
  · obtain ⟨t, ht, rfl⟩ := Option.map_eq_some_iff.mp h
    exact proper_fold (proper_of_atom ht)
  · exact proper_of_atom h
  · exact proper_of_dotSet h
  · obtain ⟨t, ht, h⟩ := Option.bind_eq_some_iff.mp h
    exact proper_of_negate (proper_fold (proper_of_classSet ht)) h
  · cases h

end Sets

namespace Ast

mutual

/-- What a tree covers is what it has a way over. -/
theorem covers_iff_ways {a : Ast} {f : Flags} {p q : Place} :
    a.Covers f p q ↔ a.Ways .none f ⟨p, ()⟩ ⟨q, ()⟩ := by
  cases a with
  | empty | flags settings => simp [Covers, Ways]
  | atom a | dot | bracket negated c => simp [Covers, Ways, Spot.Over]
  | assertion a => simp [Covers, Ways, Spot.Over, Look.At]
  | «repeat» min max greedy body => exact Expr.repeated_none_iff fun p q => covers_iff_ways
  | group kind body =>
    cases kind with
    | capture i n =>
      rw [Covers, covers_iff_ways (a := body)]
      constructor
      · intro h
        exact ⟨_, h, rfl⟩
      · rintro ⟨u, hu, hq⟩
        cases hq
        exact hu
    | plain settings => exact covers_iff_ways (a := body)
  | concat items => exact coversAll_iff_ways
  | alternation branches => exact coversAny_iff_ways

theorem coversAll_iff_ways {l : List Ast} {f : Flags} {p q : Place} :
    CoversAll f l p q ↔ WaysAll .none f l ⟨p, ()⟩ ⟨q, ()⟩ := by
  cases l with
  | nil => simp [CoversAll, WaysAll]
  | cons a l =>
    constructor
    · rintro ⟨r, ha, hl⟩
      exact ⟨_, covers_iff_ways.mp ha, coversAll_iff_ways.mp hl⟩
    · rintro ⟨u, ha, hl⟩
      exact ⟨u.place, covers_iff_ways.mpr ha, coversAll_iff_ways.mpr hl⟩

theorem coversAny_iff_ways {l : List Ast} {f : Flags} {p q : Place} :
    CoversAny f l p q ↔ WaysAny .none f l ⟨p, ()⟩ ⟨q, ()⟩ := by
  cases l with
  | nil => rfl
  | cons a l => exact or_congr covers_iff_ways coversAny_iff_ways

end

end Ast

/-- An expression stands for a tree: it covers the same and its flags are those behind the tree. It
has no ways but those of the tree, where going over what is blank once more changes nothing. -/
structure Renders (f : Flags) (a : Ast) (e : Expr) (f' : Flags) : Prop where
  behind : f' = a.after f
  proper : e.Proper
  sound : ∀ {κ : Type} {N : Notes κ}, N.Settled → ∀ {s t}, e.Ways N s t → a.Ways N f s t
  complete : ∀ {s t}, a.Ways .none f s t → e.Ways .none s t
  groups : ∀ g, g ∈ e.groups ↔ g ∈ a.liveGroups

/-- Expressions stand for trees, one by one, each tree under the flags behind the one before. -/
structure RendersAll (f : Flags) (l : List Ast) (es : List Expr) (f' : Flags) : Prop where
  behind : f' = Ast.afterAll f l
  proper : Expr.AllProper es
  soundAll : ∀ {κ : Type} {N : Notes κ}, N.Settled → ∀ {s t}, Expr.WaysAll N es s t →
    Ast.WaysAll N f l s t
  soundAny : ∀ {κ : Type} {N : Notes κ}, N.Settled → ∀ {s t}, Expr.WaysAny N es s t →
    Ast.WaysAny N f l s t
  completeAll : ∀ {s t}, Ast.WaysAll .none f l s t → Expr.WaysAll .none es s t
  completeAny : ∀ {s t}, Ast.WaysAny .none f l s t → Expr.WaysAny .none es s t
  groups : ∀ g, g ∈ es.flatMap Expr.groups ↔ g ∈ Ast.liveGroupsAll l

theorem Renders.covers {f f' : Flags} {a : Ast} {e : Expr} (h : Renders f a e f') (p q : Place) :
    e.Matches p q ↔ a.Covers f p q := by
  rw [Expr.matches_iff_ways_none, Ast.covers_iff_ways]
  exact ⟨h.sound Notes.settled_none, h.complete⟩

theorem RendersAll.nil (f : Flags) : RendersAll f [] [] f where
  behind := rfl
  proper := by simp [Expr.AllProper]
  soundAll _ _ _ h := h
  soundAny _ _ _ h := by
    obtain ⟨e, he, -⟩ := h
    cases he
  completeAll h := h
  completeAny h := h.elim
  groups _ := Iff.rfl

theorem RendersAll.cons {f f' f'' : Flags} {a : Ast} {l : List Ast} {e : Expr} {es : List Expr}
    (h : Renders f a e f') (hl : RendersAll f' l es f'') : RendersAll f (a :: l) (e :: es) f'' where
  behind := by rw [hl.behind, h.behind, Ast.afterAll]
  proper := List.forall_mem_cons.mpr ⟨h.proper, hl.proper⟩
  soundAll hN _ _ hw := by
    obtain ⟨u, hu, ht⟩ := hw
    exact ⟨u, h.sound hN hu, h.behind ▸ hl.soundAll hN ht⟩
  soundAny hN _ _ hw := by
    obtain hw | hw := (List.exists_mem_cons_iff _ _ _).mp hw
    · exact .inl (h.sound hN hw)
    · exact .inr (h.behind ▸ hl.soundAny hN hw)
  completeAll := by
    rintro s t ⟨u, hu, ht⟩
    exact ⟨u, h.complete hu, hl.completeAll (h.behind ▸ ht)⟩
  completeAny hw := by
    obtain hw | hw := hw
    · exact (List.exists_mem_cons_iff _ _ _).mpr (.inl (h.complete hw))
    · exact (List.exists_mem_cons_iff _ _ _).mpr (.inr (hl.completeAny (h.behind ▸ hw)))
  groups g := by
    rw [List.flatMap_cons, List.mem_append, h.groups, hl.groups, Ast.liveGroupsAll, List.mem_append]

theorem renders_leaf {f : Flags} {a : Ast} {s : CharSet} (hs : a.set? f = some s)
    (hafter : a.after f = f) (hgroups : a.liveGroups = [])
    (hways : ∀ {κ : Type} {N : Notes κ} (p q), a.Ways N f p q ↔
      ∃ s ∈ a.set? f, Spot.Over (Takes s) p q) : Renders f a (.chars s) f where
  behind := hafter.symm
  proper := Ast.proper_of_set? hs
  sound _ _ _ h := (hways _ _).mpr ⟨s, hs, h⟩
  complete h := by
    obtain ⟨s', hs', h⟩ := (hways _ _).mp h
    cases hs.symm.trans hs'
    exact h
  groups g := by rw [hgroups, Expr.groups]

/-- Where the ways are the same, they are sound and complete. -/
theorem renders_of_ways {f f' : Flags} {a : Ast} {e : Expr} (hbehind : f' = a.after f)
    (hproper : e.Proper) (hgroups : e.groups = a.liveGroups)
    (hways : ∀ {κ : Type} {N : Notes κ}, e.Ways N = a.Ways N f) : Renders f a e f' where
  behind := hbehind
  proper := hproper
  sound _ _ _ h := hways ▸ h
  complete h := hways ▸ h
  groups g := by rw [hgroups]

mutual

/-- Live groups are groups. -/
theorem Ast.mem_groups_of_live {a : Ast} {g : Nat × Option String} (h : g ∈ a.liveGroups) :
    g ∈ a.groups := by
  cases a with
  | «repeat» min max greedy body =>
    rw [liveGroups] at h
    split at h
    · cases h
    · exact mem_groups_of_live (a := body) h
  | group kind body =>
    cases kind with
    | capture i n =>
      obtain rfl | h := List.mem_cons.mp h
      · exact List.mem_cons_self
      · exact List.mem_cons_of_mem _ (mem_groups_of_live h)
    | plain settings => exact mem_groups_of_live (a := body) h
  | concat items => exact Ast.mem_groupsAll_of_live h
  | alternation branches => exact Ast.mem_groupsAll_of_live h
  | empty | atom | dot | assertion | bracket | flags => exact h

theorem Ast.mem_groupsAll_of_live {l : List Ast} {g : Nat × Option String}
    (h : g ∈ Ast.liveGroupsAll l) : g ∈ Ast.groupsAll l := by
  cases l with
  | nil => exact h
  | cons a l =>
    obtain h | h := List.mem_append.mp h
    · exact List.mem_append_left _ (Ast.mem_groups_of_live h)
    · exact List.mem_append_right _ (Ast.mem_groupsAll_of_live h)

end

mutual

theorem Ast.renders {a : Ast} {f f' : Flags} {e : Expr} (ha : a.Ordered)
    (h : a.elaborate f = some (e, f')) : Renders f a e f' := by
  cases a with
  | empty =>
    cases h
    exact renders_of_ways rfl trivial rfl rfl
  | atom a =>
    cases a with
    | literal c byte =>
      obtain ⟨s, hs, h⟩ := Option.bind_eq_some_iff.mp h
      cases h
      exact renders_leaf (Option.map_eq_some_iff.mpr ⟨s, hs, rfl⟩) rfl rfl fun p q => Iff.rfl
    | shorthand negated a | property negated a =>
      obtain ⟨s, hs, h⟩ := Option.bind_eq_some_iff.mp h
      cases h
      exact renders_leaf hs rfl rfl fun p q => Iff.rfl
  | dot =>
    obtain ⟨s, hs, h⟩ := Option.bind_eq_some_iff.mp h
    cases h
    exact renders_leaf hs rfl rfl fun p q => Iff.rfl
  | assertion a =>
    cases h
    exact renders_of_ways rfl trivial rfl rfl
  | bracket negated c =>
    obtain ⟨s, hs, h⟩ := Option.bind_eq_some_iff.mp h
    obtain ⟨t, ht, h⟩ := Option.bind_eq_some_iff.mp h
    cases h
    exact renders_leaf (Option.bind_eq_some_iff.mpr ⟨s, hs, ht⟩) rfl rfl fun p q => Iff.rfl
  | flags settings =>
    cases h
    exact renders_of_ways rfl trivial rfl rfl
  | «repeat» min max greedy body =>
    obtain ⟨⟨e', f''⟩, hbody, h⟩ := Option.bind_eq_some_iff.mp h
    cases h
    have ih := Ast.renders ha.2 hbody
    refine ⟨ih.behind, Expr.proper_repetition ha.1 ih.proper, fun hN _ _ hw => ?_, fun hw => ?_,
      fun g => ?_⟩
    · exact (Expr.ways_repetition hN ha.1 hw).mono (ih.sound hN)
    · exact (Expr.ways_none_repetition_iff ha.1).mpr (Repeated.mono ih.complete hw)
    · rw [Expr.groups_repetition, Ast.liveGroups]
      split
      · rfl
      · exact ih.groups g
  | group kind body =>
    cases kind with
    | capture i n =>
      obtain ⟨⟨e', f''⟩, hbody, h⟩ := Option.bind_eq_some_iff.mp h
      cases h
      have ih := Ast.renders ha.2 hbody
      refine ⟨rfl, ⟨fun g hg => ?_, ih.proper⟩, fun hN _ _ hw => ?_, fun hw => ?_, fun g => ?_⟩
      · exact ha.1 g (Ast.mem_groups_of_live ((ih.groups g).mp hg))
      · obtain ⟨u, hu, rfl⟩ := hw
        exact ⟨u, ih.sound hN hu, rfl⟩
      · obtain ⟨u, hu, rfl⟩ := hw
        exact ⟨u, ih.complete hu, rfl⟩
      · rw [Expr.groups, Ast.liveGroups, List.mem_cons, List.mem_cons, ih.groups]
    | plain settings =>
      obtain ⟨⟨e', f''⟩, hbody, h⟩ := Option.bind_eq_some_iff.mp h
      cases h
      have ih := Ast.renders (a := body) ha hbody
      exact ⟨rfl, ih.proper, ih.sound, ih.complete, ih.groups⟩
  | concat items =>
    obtain ⟨⟨es, f''⟩, hitems, h⟩ := Option.bind_eq_some_iff.mp h
    cases h
    have ih := Ast.rendersAll ha hitems
    refine ⟨ih.behind, Expr.proper_concat ih.proper, fun hN _ _ hw => ?_, fun hw => ?_,
      fun g => ?_⟩
    · exact ih.soundAll hN (Expr.ways_concat es ▸ hw)
    · exact Expr.ways_concat es ▸ ih.completeAll hw
    · rw [Expr.groups_concat]
      exact ih.groups g
  | alternation branches =>
    obtain ⟨⟨es, f''⟩, hbranches, h⟩ := Option.bind_eq_some_iff.mp h
    cases h
    have ih := Ast.rendersAll ha hbranches
    refine ⟨ih.behind, Expr.proper_alternation ih.proper, fun hN _ _ hw => ?_, fun hw => ?_,
      fun g => ?_⟩
    · exact ih.soundAny hN ((Expr.ways_alternation ih.proper).mp hw)
    · exact (Expr.ways_alternation ih.proper).mpr (ih.completeAny hw)
    · rw [Expr.mem_groups_alternation]
      exact ih.groups g

theorem Ast.rendersAll {l : List Ast} {f f' : Flags} {es : List Expr} (hl : Ast.OrderedAll l)
    (h : Ast.elaborateAll f l = some (es, f')) : RendersAll f l es f' := by
  cases l with
  | nil =>
    cases h
    exact .nil f
  | cons a l =>
    obtain ⟨⟨e, f₁⟩, ha, h⟩ := Option.bind_eq_some_iff.mp h
    obtain ⟨⟨es', f₂⟩, hes, h⟩ := Option.bind_eq_some_iff.mp h
    cases h
    exact .cons (Ast.renders hl.1 ha) (Ast.rendersAll hl.2 hes)

end

end DeclRules.Pattern
