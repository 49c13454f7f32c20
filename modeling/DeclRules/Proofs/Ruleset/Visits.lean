import DeclRules.Proofs.Ruleset.Repeats

/-! # Rulesets that are visited again

Going through what a ruleset extends, depth first, one may come to a ruleset several times, and the
rules in force have its rules once for each visit. A `RulesetGraph` gives the rulesets an identity,
so that a visit can be told to be one of a ruleset that was visited before; `RulesetGraph.placed`
says of every rule in force which visit it comes from.

Whatever a rule of a later visit matches was matched by the same rule in the first visit, so the
rules of later visits can be left out: `RulesetGraph.firstMatch_firstPlaced` is the main statement.
-/

namespace DeclRules

/-- Rulesets with an identity of their own. That one extends another is said of the identities, and
agrees with what the rulesets extend; as a ruleset is built from its parents, no way leads back. -/
structure RulesetGraph (ι : Type) where
  ruleset : ι → Ruleset
  parents : ι → List ι
  parents_ruleset : ∀ i, (ruleset i).parents = (parents i).map ruleset

/-- The visit is the first of its ruleset. -/
def IsFirstVisit {ι : Type} (visits : List ι) (n : Nat) : Prop := ∀ m < n, visits[m]? ≠ visits[n]?

instance {ι : Type} [DecidableEq ι] (visits : List ι) (n : Nat) :
    Decidable (IsFirstVisit visits n) := inferInstanceAs (Decidable (∀ m < n, _))

theorem exists_isFirstVisit {ι : Type} (visits : List ι) (n : Nat) :
    ∃ m ≤ n, IsFirstVisit visits m ∧ visits[m]? = visits[n]? := by
  induction n using Nat.strongRecOn with
  | ind n ih =>
    by_cases hn : IsFirstVisit visits n
    · exact ⟨n, le_rfl, hn, rfl⟩
    · unfold IsFirstVisit at hn
      push Not at hn
      obtain ⟨m, hm, heq⟩ := hn
      obtain ⟨m', hm', hfirst, heq'⟩ := ih m hm
      exact ⟨m', hm'.trans hm.le, hfirst, heq'.trans heq⟩

/-- The first of some entries that matches is still the first when others are left out. -/
theorem Entry.FirstMatch.filter {α : Type} {L : List (α × Entry)} {d : Declaration} {i : Nat}
    {a : α} {e : Entry} (h : FirstMatch (L.map Prod.snd) d i e) (hi : L[i]? = some (a, e))
    {p : α × Entry → Bool} (hp : p (a, e) = true) :
    ∃ i', FirstMatch ((L.filter p).map Prod.snd) d i' e := by
  obtain ⟨before, after, rfl, rfl⟩ : ∃ before after, L = before ++ (a, e) :: after ∧
      before.length = i := by
    obtain ⟨hlt, hget⟩ := List.getElem?_eq_some_iff.mp hi
    refine ⟨L.take i, L.drop (i + 1), ?_, List.length_take_of_le hlt.le⟩
    rw [← hget, List.getElem_cons_drop, List.take_append_drop]
  refine ⟨(before.filter p).length, ?_, h.covers, fun j e' hj he' => ?_⟩
  · simp [List.filter_append, hp]
  · rw [List.filter_append, List.map_append,
      List.getElem?_append_left (by simpa using hj)] at he'
    obtain ⟨⟨a', e''⟩, hmem, rfl⟩ := List.mem_map.mp (List.mem_of_getElem? he')
    obtain ⟨j', hj', hget⟩ := List.mem_iff_getElem.mp (List.mem_filter.mp hmem).1
    refine h.first j' e'' hj' ?_
    rw [List.map_append, List.getElem?_append_left (by simpa using hj'), List.getElem?_map,
      List.getElem?_eq_getElem hj', hget]
    rfl

namespace RulesetGraph

variable {ι : Type} (g : RulesetGraph ι) {k : Kind} {i : ι} {n : Nat} {e : Entry}

theorem sizeOf_ruleset_lt {i j : ι} (h : j ∈ g.parents i) :
    sizeOf (g.ruleset j) < sizeOf (g.ruleset i) := by
  have hmem : g.ruleset j ∈ (g.ruleset i).parents := by
    rw [g.parents_ruleset]
    exact List.mem_map_of_mem h
  have hlt := List.sizeOf_lt_of_mem hmem
  generalize g.ruleset i = R at hlt
  cases R
  simp only [Ruleset.mk.sizeOf_spec]
  dsimp only at hlt
  omega

/-- The visits from a ruleset on, depth first. -/
def visits (g : RulesetGraph ι) (i : ι) : List ι :=
  i :: (g.parents i).attach.flatMap fun j => g.visits j.1
termination_by sizeOf (g.ruleset i)
decreasing_by exact g.sizeOf_ruleset_lt j.2

theorem visits_eq (i : ι) : g.visits i = i :: (g.parents i).flatMap g.visits := by
  rw [visits, List.flatMap_subtype (g := g.visits) (fun _ _ => rfl), List.unattach_attach]

/-- The visits are those of the lineage. -/
theorem map_name_visits (i : ι) :
    (g.visits i).map (fun j => (g.ruleset j).name) = (g.ruleset i).lineage := by
  induction i using visits.induct g with
  | case1 i ih =>
    rw [visits_eq, Ruleset.lineage_eq, g.parents_ruleset, List.map_cons, List.map_flatMap,
      List.flatMap_map]
    exact congrArg _ (List.flatMap_congr fun j hj => ih ⟨j, hj⟩)

theorem flatMap_visits (k : Kind) (i : ι) :
    ((g.visits i).flatMap fun j => (g.ruleset j).localEntries k) = (g.ruleset i).build k := by
  induction i using visits.induct g with
  | case1 i ih =>
    rw [visits_eq, Ruleset.build_eq, g.parents_ruleset, List.flatMap_cons, List.flatMap_assoc,
      List.flatMap_map]
    exact congrArg _ (List.flatMap_congr fun j hj => ih ⟨j, hj⟩)

/-- The rules in force, each with the number of the visit that it comes from. -/
def placed (k : Kind) (i : ι) : List (Nat × Entry) :=
  (g.visits i).zipIdx.flatMap fun w => ((g.ruleset w.1).localEntries k).map (w.2, ·)

theorem map_snd_placed (k : Kind) (i : ι) :
    (g.placed k i).map Prod.snd = (g.ruleset i).build k := by
  rw [placed, List.map_flatMap, ← flatMap_visits]
  conv_rhs => rw [← List.zipIdx_map_fst 0 (g.visits i), List.flatMap_map]
  simp [Function.comp_def]

theorem mem_placed_iff : (n, e) ∈ g.placed k i ↔
    ∃ j, (g.visits i)[n]? = some j ∧ e ∈ (g.ruleset j).localEntries k := by
  simp [placed, List.mem_zipIdx_iff_getElem?]

/-- The visits come one after the other. -/
theorem pairwise_placed (k : Kind) (i : ι) : (g.placed k i).Pairwise (·.1 ≤ ·.1) := by
  have hzip : (g.visits i).zipIdx.Pairwise (·.2 < ·.2) := by
    rw [← List.pairwise_map, List.zipIdx_map_snd]
    exact List.pairwise_lt_range'
  rw [placed, List.pairwise_flatMap]
  refine ⟨fun w _ => ?_, hzip.imp fun hlt w hw w' hw' => ?_⟩
  · rw [List.pairwise_map]
    exact List.pairwise_of_forall fun _ _ => le_rfl
  · obtain ⟨-, -, rfl⟩ := List.mem_map.mp hw
    obtain ⟨-, -, rfl⟩ := List.mem_map.mp hw'
    exact hlt.le

/-- What a later visit places was placed by the first visit of the same ruleset. -/
theorem exists_firstVisit_of_mem_placed (h : (n, e) ∈ g.placed k i) :
    ∃ m ≤ n, IsFirstVisit (g.visits i) m ∧ (m, e) ∈ g.placed k i := by
  obtain ⟨j, hj, he⟩ := (g.mem_placed_iff).mp h
  obtain ⟨m, hm, hfirst, heq⟩ := exists_isFirstVisit (g.visits i) n
  exact ⟨m, hm, hfirst, (g.mem_placed_iff).mpr ⟨j, heq.trans hj, he⟩⟩

/-- A place that comes from an earlier visit stands further ahead. -/
theorem lt_of_placed {p q m : Nat} {e' : Entry} (hp : (g.placed k i)[p]? = some (n, e))
    (hq : (g.placed k i)[q]? = some (m, e')) (hlt : m < n) : q < p := by
  obtain ⟨hp', hpe⟩ := List.getElem?_eq_some_iff.mp hp
  obtain ⟨hq', hqe⟩ := List.getElem?_eq_some_iff.mp hq
  by_contra hle
  rcases (Nat.le_of_not_lt hle).eq_or_lt with rfl | hpq
  · cases hpe.symm.trans hqe
    exact lt_irrefl _ hlt
  · have hsorted := List.pairwise_iff_getElem.mp (g.pairwise_placed k i) p q hp' hq' hpq
    rw [hpe, hqe] at hsorted
    exact absurd hlt (Nat.not_lt.mpr hsorted)

/-- The first rule that matches comes from a first visit. -/
theorem isFirstVisit_of_firstMatch {d : Declaration} {p : Nat}
    (h : Entry.FirstMatch ((g.ruleset i).build k) d p e) :
    ∃ n, (g.placed k i)[p]? = some (n, e) ∧ IsFirstVisit (g.visits i) n := by
  have hplaces (q : Nat) : ((g.ruleset i).build k)[q]? = (g.placed k i)[q]?.map Prod.snd := by
    rw [← g.map_snd_placed, List.getElem?_map]
  obtain ⟨⟨n, e'⟩, hp, rfl⟩ := Option.map_eq_some_iff.mp ((hplaces p).symm.trans h.getElem)
  obtain ⟨m, hm, hfirst, hmem⟩ := g.exists_firstVisit_of_mem_placed (List.mem_of_getElem? hp)
  rcases hm.eq_or_lt with rfl | hlt
  · exact ⟨m, hp, hfirst⟩
  · obtain ⟨q, hq⟩ := List.mem_iff_getElem?.mp hmem
    have hearlier := h.first q e' (g.lt_of_placed hp hq hlt) (by rw [hplaces, hq]; rfl)
    exact absurd h.covers hearlier

variable [DecidableEq ι]

/-- The rules in force without those that come from a later visit of a ruleset. -/
def firstPlaced (k : Kind) (i : ι) : List Entry :=
  ((g.placed k i).filter fun w => IsFirstVisit (g.visits i) w.1).map Prod.snd

theorem mem_firstPlaced_iff : e ∈ g.firstPlaced k i ↔ e ∈ (g.ruleset i).build k := by
  rw [← g.map_snd_placed, firstPlaced]
  constructor
  · intro h
    exact (List.filter_sublist.map Prod.snd).subset h
  · intro h
    obtain ⟨⟨n, e'⟩, hmem, rfl⟩ := List.mem_map.mp h
    obtain ⟨m, -, hfirst, hmem'⟩ := g.exists_firstVisit_of_mem_placed hmem
    exact List.mem_map.mpr ⟨(m, e'), List.mem_filter.mpr ⟨hmem', decide_eq_true hfirst⟩, rfl⟩

theorem exists_compile_firstPlaced_iff :
    (∃ t, Table.compile k (g.firstPlaced k i) = .ok t) ↔
      ∃ t, Table.compile k ((g.ruleset i).build k) = .ok t := by
  simp only [Table.exists_compile_iff, mem_firstPlaced_iff]

/-- Two matches with the same rule, each found in a table of its own, that captured the same. -/
structure SameRule (t t' : Table k) (m m' : Match) : Prop where
  rule : ∃ r, t.rules[m.index]? = some r ∧ t'.rules[m'.index]? = some r
  action : m.action = m'.action
  origin : m.origin = m'.origin
  context : m.context = m'.context

theorem sameRule_of_firstMatch {es es' : List Entry} {t t' : Table k}
    (h : Table.compile k es = .ok t) (h' : Table.compile k es' = .ok t') {d : Declaration}
    {p p' : Nat} (hf : Entry.FirstMatch es d p e) (hf' : Entry.FirstMatch es' d p' e) :
    ∃ m m', t.firstMatch d = some m ∧ t'.firstMatch d = some m' ∧ m.index = p ∧
      SameRule t t' m m' := by
  have hrules := Table.compile_eq_ok_iff.mp h
  have hrules' := Table.compile_eq_ok_iff.mp h'
  obtain ⟨c, -, hm⟩ := Table.firstMatch_eq_some hrules hf
  obtain ⟨c', -, hm'⟩ := Table.firstMatch_eq_some hrules' hf'
  obtain ⟨r, hr, hc, -, -⟩ := Table.exists_rule_of_firstMatch hm
  obtain ⟨r', hr', hc', -, -⟩ := Table.exists_rule_of_firstMatch hm'
  -- the rules at both places are compiled from the one entry
  have heq : r = r' := by
    obtain ⟨hp, he⟩ := List.getElem?_eq_some_iff.mp hf.getElem
    obtain ⟨hp', he'⟩ := List.getElem?_eq_some_iff.mp hf'.getElem
    obtain ⟨hi, rfl⟩ := List.getElem?_eq_some_iff.mp hr
    obtain ⟨hi', rfl⟩ := List.getElem?_eq_some_iff.mp hr'
    have hfrom := hrules.get hp hi
    have hfrom' := hrules'.get hp' hi'
    simp only [List.get_eq_getElem, he, he'] at hfrom hfrom'
    exact hfrom.unique hfrom'
  subst heq
  exact ⟨_, _, hm, hm', rfl, ⟨r, hr, hr'⟩, rfl, rfl, Option.some.inj (hc.symm.trans hc')⟩

/-- **Rules of later visits decide nothing.** -/
theorem firstMatch_firstPlaced (g : RulesetGraph ι) (k : Kind) (i : ι) :
    ((∃ t', Table.compile k (g.firstPlaced k i) = .ok t') ↔
      ∃ t, Table.compile k ((g.ruleset i).build k) = .ok t) ∧
    ∀ t t', Table.compile k ((g.ruleset i).build k) = .ok t →
      Table.compile k (g.firstPlaced k i) = .ok t' → ∀ d,
        Option.Rel (SameRule t t') (t.firstMatch d) (t'.firstMatch d) ∧
        ∀ m, t.firstMatch d = some m →
          ∃ n e, (g.placed k i)[m.index]? = some (n, e) ∧ IsFirstVisit (g.visits i) n := by
  refine ⟨g.exists_compile_firstPlaced_iff, fun t t' h h' d => ?_⟩
  have hrules := Table.compile_eq_ok_iff.mp h
  have hrules' := Table.compile_eq_ok_iff.mp h'
  by_cases hmatch : ∃ e ∈ (g.ruleset i).build k, e.Matches d
  · obtain ⟨p, e, hf⟩ := Entry.exists_firstMatch hmatch
    obtain ⟨n, hplace, hfirst⟩ := g.isFirstVisit_of_firstMatch hf
    obtain ⟨p', hf'⟩ := (g.map_snd_placed k i ▸ hf).filter hplace
      (p := fun w => IsFirstVisit (g.visits i) w.1) (decide_eq_true hfirst)
    obtain ⟨m, m', hm, hm', rfl, hsame⟩ := sameRule_of_firstMatch h h' hf hf'
    rw [hm, hm']
    refine ⟨.some hsame, fun m₁ hm₁ => ?_⟩
    cases hm₁
    exact ⟨n, e, hplace, hfirst⟩
  · have hnone : ∀ e ∈ (g.ruleset i).build k, ¬ e.Matches d := fun e he hm => hmatch ⟨e, he, hm⟩
    rw [(Table.firstMatch_eq_none_iff hrules).mpr hnone, (Table.firstMatch_eq_none_iff hrules').mpr
      fun e he => hnone e (g.mem_firstPlaced_iff.mp he)]
    exact ⟨.none, fun m hm => nomatch hm⟩

section Diamond

/-- The diamond with its two sides and the one ruleset that both of them extend. -/
def diamond : RulesetGraph (Fin 4) where
  ruleset
    | 0 => Ruleset.diamond
    | 1 => Ruleset.diamond.parents[0]
    | 2 => Ruleset.diamond.parents[1]
    | 3 => Ruleset.anyTypedef
  parents
    | 0 => [1, 2]
    | 1 | 2 => [3]
    | 3 => []
  parents_ruleset i := by fin_cases i <;> rfl

theorem visits_diamond : diamond.visits 0 = [0, 1, 3, 2, 3] := by
  have hbase : diamond.visits 3 = [3] := visits_eq diamond 3
  have hside {i : Fin 4} (hi : diamond.parents i = [3]) : diamond.visits i = [i, 3] := by
    rw [visits_eq, hi, List.flatMap_singleton, hbase]
  have htop : diamond.parents 0 = [1, 2] := rfl
  rw [visits_eq, htop, List.flatMap_cons, List.flatMap_singleton, hside rfl, hside rfl]
  rfl

/-- The rule for typedefs is in force twice, and once without the second visit. A typedef falls
to it either way. -/
theorem firstMatch_firstPlaced_diamond : ∃ t t',
    Table.compile .typedef (Ruleset.diamond.build .typedef) = .ok t ∧ t.size = 2 ∧
    Table.compile .typedef (diamond.firstPlaced .typedef 0) = .ok t' ∧ t'.size = 1 ∧
    ∃ m m', t.firstMatch (Ruleset.typedefCalled "a") = some m ∧
      t'.firstMatch (Ruleset.typedefCalled "a") = some m' ∧ SameRule t t' m m' := by
  obtain ⟨c, hc⟩ := Ruleset.exists_compile_diamond
  have ht := Ruleset.compile_table hc .typedef
  obtain ⟨hcompile, hfirst⟩ := firstMatch_firstPlaced diamond .typedef 0
  obtain ⟨t', ht'⟩ := hcompile.mpr ⟨_, ht⟩
  have hlength : (Ruleset.diamond.build .typedef).length = 2 := rfl
  have hlength' : (diamond.firstPlaced .typedef 0).length = 1 := by
    rw [firstPlaced, placed, visits_diamond]
    rfl
  refine ⟨_, t', ht, (Table.size_of_compile ht).trans hlength, ht',
    (Table.size_of_compile ht').trans hlength', ?_⟩
  have hfound : Entry.FirstMatch (Ruleset.diamond.build .typedef) (Ruleset.typedefCalled "a") 0 _ :=
    ⟨rfl, Ruleset.matches_anyTypedef (List.mem_singleton_self _) (by decide) (by decide),
      fun j _ hj => absurd hj (Nat.not_lt_zero j)⟩
  obtain ⟨context, -, hm⟩ := Table.firstMatch_eq_some (Table.compile_eq_ok_iff.mp ht) hfound
  have hrel := (hfirst _ t' ht ht' (Ruleset.typedefCalled "a")).1
  rw [hm] at hrel
  generalize t'.firstMatch (Ruleset.typedefCalled "a") = found at hrel ⊢
  cases hrel with
  | some hsame => exact ⟨_, _, hm, rfl, hsame⟩

end Diamond

end RulesetGraph

end DeclRules
