import DeclRules.Proofs.FirstFault
import DeclRules.Proofs.Pass.Counting
import DeclRules.Proofs.Ruleset.Layering

/-! # The order of the steps of a pass

The item of a declaration is decided by the rules and the declaration alone (`Pass.itemUnder`). So a
pass gives the items of its declarations one by one, and leaves the counts of all their look-ups
(`Pass.run_eq`); the same holds of a pass that takes the declarations in any other order
(`Pass.runScheduled_eq`). The main statement is `Pass.independent_of_order`. -/

namespace DeclRules.Pass

/-- The item of a declaration under given rules. -/
def itemUnder (tables : (k : Kind) → Table k) (d : Declaration) : Except Failure Item :=
  Item.ofMatch d (.ok ((tables d.kind).firstMatch d))

variable {α β : Type}

/-- Steps that each put one query, and otherwise only look at the rules, one after the other. -/
theorem mapM_run (step : α → StateM Compiled β) (result : α → ((k : Kind) → Table k) → β)
    (query : α → Query) (h : ∀ a c, (step a).run c = (result a c.table, c.asked (query a)))
    (l : List α) (c : Compiled) :
    (l.mapM step).run c = (l.map (result · c.table), c.askedAll (l.map query)) := by
  induction l generalizing c with
  | nil => rfl
  | cons a l ih =>
    have htable : (c.asked (query a)).table = c.table :=
      funext fun k => (c.sameRules_asked (query a)).table k
    rw [List.mapM_cons, StateT.run_bind, h]
    change ((l.mapM step >>= fun bs => pure (result a c.table :: bs)) : StateM _ _).run
      (c.asked (query a)) = _
    rw [StateT.run_bind, ih, htable]
    rfl

theorem process_eq (d : Declaration) (c : Compiled) :
    (process d).run c = (itemUnder c.table d, c.asked d.query) := by
  change ((Item.ofMatch d (c.resolve d).1, (c.resolve d).2) : _ × _) = _
  rw [c.resolve_eq]
  rfl

/-- A pass gives the items of its declarations, or fails as the first that fails; either way all
of them were looked up. -/
theorem run_eq (ds : List Declaration) (c : Compiled) :
    (run ds).run c = (ds.mapM (itemUnder c.table), c.askedAll (ds.map Declaration.query)) := by
  have hsteps := mapM_run process (fun d tables => itemUnder tables d) Declaration.query
    process_eq ds c
  rw [run, StateT.run_bind, hsteps]
  change (((ds.map (itemUnder c.table)).mapM id, _) : _ × _) = _
  rw [List.mapM_map, Function.id_comp]

section Schedule

variable {n : Nat} (s : Schedule n)

/-- What the steps give, put back in order. -/
theorem Schedule.mergeSort_map (f : Fin n → β) :
    ((s.order.map fun i => (i, f i)).mergeSort fun a b => decide (a.1 ≤ b.1)) =
      (List.finRange n).map fun i => (i, f i) := by
  have hperm : ((s.order.map fun i => (i, f i)).mergeSort fun a b => decide (a.1 ≤ b.1)).Perm
      ((List.finRange n).map fun i => (i, f i)) :=
    (List.mergeSort_perm _ _).trans (s.complete.map _)
  refine @List.Perm.eq_of_pairwise _ (fun a b => decide (a.1 ≤ b.1) = true) _ _ ?_ ?_ ?_ hperm
  · intro a b ha hb hab hba
    obtain ⟨i, -, rfl⟩ := List.mem_map.mp (hperm.mem_iff.mp ha)
    obtain ⟨j, -, rfl⟩ := List.mem_map.mp hb
    have hij : i = j := le_antisymm (of_decide_eq_true hab) (of_decide_eq_true hba)
    rw [hij]
  · refine List.pairwise_mergeSort ?_ ?_ _
    · intro a b c hab hbc
      exact decide_eq_true (le_trans (of_decide_eq_true hab) (of_decide_eq_true hbc))
    · intro a b
      simpa using le_total a.1 b.1
  · rw [List.pairwise_map]
    exact (List.pairwise_le_finRange n).imp fun h => decide_eq_true h

end Schedule

/-- A pass whose steps are taken in some other order. -/
theorem runScheduled_eq (ds : List Declaration) (s : Schedule ds.length) (c : Compiled) :
    (runScheduled ds s).run c =
      (ds.mapM (itemUnder c.table), c.askedAll (ds.map Declaration.query)) := by
  have hsteps := mapM_run (fun i => do return (i, ← process (ds.get i)))
    (fun i tables => (i, itemUnder tables (ds.get i))) (fun i => (ds.get i).query) (fun i c => by
      rw [StateT.run_bind, process_eq]
      rfl) s.order c
  have hget : (List.finRange ds.length).map ds.get = ds := List.map_get_finRange ds
  have hqueries : (s.order.map fun i => (ds.get i).query).Perm (ds.map Declaration.query) := by
    conv_rhs => rw [← hget, List.map_map]
    exact s.complete.map _
  have hitems : (List.finRange ds.length).mapM (fun i => itemUnder c.table (ds.get i)) =
      ds.mapM (itemUnder c.table) := by
    conv_rhs => rw [← hget, List.mapM_map]
    rfl
  rw [runScheduled, StateT.run_bind, hsteps, c.askedAll_perm hqueries]
  change (((_ : List (Fin ds.length × _)).map (·.2)).mapM id, _) = _
  rw [s.mergeSort_map fun i => itemUnder c.table (ds.get i), List.map_map, List.mapM_map]
  exact Prod.ext hitems rfl

/-- What given rules say of each declaration is all there is to a pass over a ruleset. -/
structure Pointwise (tables : (k : Kind) → Table k) (c : Compiled) : Prop where
  process : ∀ d, ((process d).run c).1 = itemUnder tables d
  /-- A pass succeeds if all declarations do, with their items in order. -/
  ok_iff : ∀ ds items, ((run ds).run c).1 = .ok items ↔
    List.Forall₂ (fun d i => itemUnder tables d = .ok i) ds items
  /-- Else it fails as the first declaration that does. -/
  error_iff : ∀ ds e, ((run ds).run c).1 = .error e ↔ ∃ before d after,
    ds = before ++ d :: after ∧ (∀ d' ∈ before, ∃ i, itemUnder tables d' = .ok i) ∧
      itemUnder tables d = .error e
  append_iff : ∀ ds ds' items, ((run (ds ++ ds')).run c).1 = .ok items ↔
    ∃ is is', ((run ds).run c).1 = .ok is ∧ ((run ds').run c).1 = .ok is' ∧ items = is ++ is'

theorem pointwise (c : Compiled) : Pointwise c.table c where
  process d := by rw [process_eq]
  ok_iff ds items := by
    rw [run_eq]
    exact Except.mapM_eq_ok_iff
  error_iff ds e := by
    rw [run_eq]
    exact Except.mapM_eq_error_iff
  append_iff ds ds' items := by
    rw [run_eq, run_eq, run_eq]
    exact Except.mapM_append_eq_ok_iff

/-- **The order of the steps does not show.** Whatever order the declarations are taken in, a pass
gives the same items or the same failure, and leaves the same counts. It keeps the rules, and these
decide about each declaration apart from all others and from what was counted before. -/
theorem independent_of_order (c : Compiled) :
    (∀ (ds : List Declaration) (s : Schedule ds.length),
      (runScheduled ds s).run c = (run ds).run c) ∧
    (∀ ds : List Declaration, Compiled.SameRules ((run ds).run c).2 c) ∧
    ∀ c' : Compiled, c'.SameRules c → Pointwise c.table c' := by
  refine ⟨fun ds s => ?_, fun ds => ?_, fun c' h => ?_⟩
  · rw [runScheduled_eq, run_eq]
  · rw [run_eq]
    exact c.sameRules_askedAll _
  · have htable : c'.table = c.table := funext h.table
    exact htable ▸ pointwise c'

/-- A pass over two typedefs after one that was counted. -/
theorem independent_of_order_anyTypedef : ∃ c c' : Compiled,
    Ruleset.anyTypedef.compile = .ok c ∧
    c' = ((run [Ruleset.typedefCalled "a"]).run c).2 ∧ Compiled.SameRules c' c ∧
    Pointwise c.table c' ∧
    (runScheduled [Ruleset.typedefCalled "a", Ruleset.typedefCalled "b"] (.alternating 2)).run c' =
      (run [Ruleset.typedefCalled "a", Ruleset.typedefCalled "b"]).run c' := by
  obtain ⟨c, hc⟩ := Ruleset.exists_compile_anyTypedef
  obtain ⟨-, hkeeps, hpointwise⟩ := independent_of_order c
  have hrules := hkeeps [Ruleset.typedefCalled "a"]
  exact ⟨c, _, hc, rfl, hrules, hpointwise _ hrules, (independent_of_order _).1 _ _⟩

end DeclRules.Pass
