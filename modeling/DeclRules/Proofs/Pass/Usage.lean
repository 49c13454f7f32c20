import DeclRules.Proofs.Pass.Effect
import DeclRules.Proofs.Pass.Order
import DeclRules.Proofs.Ruleset.Layering

/-! # What the counts say

A ruleset as it was compiled goes through operations of all sorts (`Operation`): look-ups, whole
passes, and setting the counts of a kind back. Whatever they are, the count of a rule is the number
of queries since then that found it, modulo 2^64 (`Compiled.hits?_afterAll`); so the rows of
`Compiled.usage` can be read off the entries and the queries (`Compiled.usage_afterAll`). The main
statement is `Ruleset.accounts_of_compile`. -/

namespace DeclRules

/-- What can be done to a compiled ruleset. -/
inductive Operation where
  | resolve (d : Declaration)
  /-- A query to the rules of one kind, which are not asked about other declarations. -/
  | ask (q : Query)
  | process (d : Declaration)
  | run (ds : List Declaration)
  | runScheduled (ds : List Declaration) (s : Pass.Schedule ds.length)
  /-- Sets the counts of one kind back. -/
  | reset (k : Kind)

namespace Operation

/-- The ruleset after an operation. -/
def after (c : Compiled) : Operation → Compiled
  | resolve d => (c.resolve d).2
  | ask q => { c with
      databases := c.databases.set q.kind ((c.database q.kind).resolve q.declaration).2 }
  | process d => ((Pass.process d).run c).2
  | run ds => ((Pass.run ds).run c).2
  | runScheduled ds s => ((Pass.runScheduled ds s).run c).2
  | reset k => c.reset k

/-- What an operation looks up. -/
def queries : Operation → List Query
  | resolve d | process d => [d.query]
  | ask q => [q]
  | run ds | runScheduled ds _ => ds.map Declaration.query
  | reset _ => []

/-- The operation sets the counts of `k` back. -/
def resets (k : Kind) : Operation → Bool
  | reset k' => k' == k
  | _ => false

end Operation

/-- What was looked up since the counts of `k` were last set back, if ever. -/
def sinceReset (k : Kind) (ops : List Operation) : List Query :=
  (ops.rtakeWhile fun o => !o.resets k).flatMap Operation.queries

theorem sinceReset_concat (k : Kind) (ops : List Operation) (o : Operation) :
    sinceReset k (ops ++ [o]) = if o.resets k then [] else sinceReset k ops ++ o.queries := by
  unfold sinceReset
  split
  · rename_i h
    rw [List.rtakeWhile_concat_neg _ _ _ (by simp [h])]
    rfl
  · rename_i h
    rw [List.rtakeWhile_concat_pos _ _ _ (by simp [h]), List.flatMap_append]
    simp

namespace Compiled

variable {c : Compiled}

/-- The ruleset after operations one after the other. -/
def afterAll (c : Compiled) (ops : List Operation) : Compiled := ops.foldl Operation.after c

theorem afterAll_concat (c : Compiled) (ops : List Operation) (o : Operation) :
    c.afterAll (ops ++ [o]) = o.after (c.afterAll ops) := List.foldl_concat ..

section Reset

variable (c : Compiled) (k : Kind)

theorem sameRules_reset : (c.reset k).SameRules c := by
  refine ⟨rfl, rfl, rfl, fun k' => ?_⟩
  by_cases h : k' = k
  · subst h
    simp [table, database, reset, Database.reset, Database.ofTable]
  · simp [table, database, reset, h]

theorem hits?_reset (i : Nat) : (c.reset k).hits? k i = (c.hits? k i).map fun _ => 0 := by
  have hlength : (c.database k).hits.length = (c.database k).table.size :=
    (c.database k).length_hits
  simp only [hits?, database, reset, PerKind.get_set_self, Database.reset, Database.ofTable]
  change (List.replicate (c.database k).table.size (0 : UInt64))[i]? = _
  rw [← hlength, List.getElem?_replicate]
  by_cases h : i < (c.databases.get k).hits.length
  · simp [database, h]
  · simp [database, h]

theorem hits?_reset_of_ne {k' : Kind} (h : k' ≠ k) (i : Nat) :
    (c.reset k).hits? k' i = c.hits? k' i := by
  simp [hits?, database, reset, h]

end Reset

/-- An operation that sets nothing back only looks things up. -/
theorem after_eq_askedAll (c : Compiled) {o : Operation} (h : ∀ k, o.resets k = false) :
    o.after c = c.askedAll o.queries := by
  cases o with
  | resolve d => exact congrArg Prod.snd (c.resolve_eq d)
  | ask q => rfl
  | process d => exact congrArg Prod.snd (Pass.process_eq d c)
  | run ds => exact congrArg Prod.snd (Pass.run_eq ds c)
  | runScheduled ds s => exact congrArg Prod.snd (Pass.runScheduled_eq ds s c)
  | reset k => simp [Operation.resets] at h

theorem sameRules_after (c : Compiled) (o : Operation) : (o.after c).SameRules c := by
  cases o with
  | reset k => exact c.sameRules_reset k
  | _ =>
    rw [c.after_eq_askedAll fun _ => rfl]
    exact c.sameRules_askedAll _

theorem sameRules_afterAll (c : Compiled) (ops : List Operation) :
    (c.afterAll ops).SameRules c := by
  induction ops using List.reverseRecOn with
  | nil => exact .refl c
  | append_singleton ops o ih =>
    rw [afterAll_concat]
    exact (sameRules_after _ o).trans ih

/-- One operation either sets the count of a rule back or adds the queries that find the rule. -/
theorem hits?_after (c : Compiled) (o : Operation) (k : Kind) (i : Nat) :
    (o.after c).hits? k i = (c.hits? k i).map fun n =>
      if o.resets k then 0 else n + UInt64.ofNat (o.queries.countP (c.finds k i)) := by
  cases o with
  | reset k' =>
    change (c.reset k').hits? k i = _
    by_cases h : k' = k
    · subst h
      simp [Operation.resets, hits?_reset]
    · simp [Operation.resets, Operation.queries, h, c.hits?_reset_of_ne k' (Ne.symm h)]
  | _ =>
    rw [c.after_eq_askedAll fun _ => rfl, hits?_askedAll]
    rfl

/-- Nothing was counted yet. -/
def Fresh (c : Compiled) : Prop := ∀ k, c.database k = .ofTable (c.table k)

theorem Fresh.hits? (h : c.Fresh) (k : Kind) (i : Nat) :
    c.hits? k i = if i < (c.table k).size then some 0 else none := by
  rw [Compiled.hits?, h]
  exact List.getElem?_replicate

/-- The count of a rule, after whatever was done. -/
theorem hits?_afterAll (h : c.Fresh) (ops : List Operation) (k : Kind) (i : Nat) :
    (c.afterAll ops).hits? k i = if i < (c.table k).size then
      some (UInt64.ofNat ((sinceReset k ops).countP (c.finds k i))) else none := by
  induction ops using List.reverseRecOn with
  | nil => exact h.hits? k i
  | append_singleton ops o ih =>
    rw [afterAll_concat, hits?_after, (c.sameRules_afterAll ops).finds, ih, sinceReset_concat]
    by_cases hi : i < (c.table k).size
    · by_cases hreset : o.resets k = true
      · simp [hi, hreset]
      · simp [hi, hreset, UInt64.ofNat_add]
    · simp [hi]

end Compiled

/-- The row of the rule that an entry becomes, at place `i` of the table for `k`. -/
def Entry.usage (e : Entry) (k : Kind) (i : Nat) (hits : UInt64) : Usage where
  kind := k
  index := i
  origin := e.origin
  patterns := e.patterns
  action := e.action.label
  hits := hits

theorem Database.getElem?_usage {k : Kind} (db : Database k) {i : Nat} {r : Rule k} {n : UInt64}
    (hr : db.table.rules[i]? = some r) (hn : db.hits[i]? = some n) :
    db.usage[i]? = some ⟨k, i, r.origin, r.sources, r.action.label, n⟩ := by
  have hzip : (db.table.rules.zip db.hits)[i]? = some (r, n) :=
    List.getElem?_zip_eq_some.mpr ⟨hr, hn⟩
  simp [usage, List.getElem?_zipIdx, hzip]

theorem Database.length_usage {k : Kind} (db : Database k) :
    db.usage.length = db.table.size := by
  simp [usage, db.length_hits, Table.size]

namespace Ruleset

variable {R : Ruleset} {c : Compiled}

theorem fresh_of_compile (h : R.compile = .ok c) : c.Fresh := by
  intro k
  obtain ⟨t, -, hdb⟩ := compile_database h k
  rw [Compiled.table, hdb]
  rfl

/-- The rows of a kind: one for each entry in force, with its count. -/
theorem usage_afterAll (h : R.compile = .ok c) (ops : List Operation) (k : Kind) :
    ((c.afterAll ops).database k).usage = (R.build k).zipIdx.map fun w =>
      w.1.usage k w.2 (UInt64.ofNat ((sinceReset k ops).countP (c.finds k w.2))) := by
  have hentries := Table.compile_eq_ok_iff.mp (compile_table h k)
  have htable : ((c.afterAll ops).database k).table = (c.database k).table :=
    (c.sameRules_afterAll ops).table k
  have hlength : (R.build k).length = (c.database k).table.rules.length := hentries.length_eq
  refine List.ext_getElem? fun i => ?_
  by_cases hi : i < (R.build k).length
  · have hi' : i < (c.database k).table.rules.length := hlength ▸ hi
    have hrule : Rule.CompiledFrom _ _ := hentries.get hi hi'
    have hr : ((c.afterAll ops).database k).table.rules[i]? =
        some ((c.database k).table.rules.get ⟨i, hi'⟩) := by
      rw [htable]
      exact List.getElem?_eq_getElem hi'
    have hn := (Compiled.hits?_afterAll (fresh_of_compile h) ops k i).trans (if_pos hi')
    rw [Database.getElem?_usage _ hr hn, hrule.sources, hrule.action, hrule.origin]
    simp [hi, Entry.usage]
  · have hsize : ((c.afterAll ops).database k).usage.length ≤ i := by
      rw [Database.length_usage, htable, Table.size, ← hlength]
      exact Nat.le_of_not_lt hi
    rw [List.getElem?_eq_none hsize, List.getElem?_eq_none (by simpa using hi)]

/-- A query finds the first entry in force that matches. -/
theorem finds_iff (h : R.compile = .ok c) {k : Kind} {i : Nat} {q : Query} :
    c.finds k i q = true ↔ q.kind = k ∧ q.declaration.kind = k ∧
      ∃ e, Entry.FirstMatch (R.build k) q.declaration i e := by
  have hlands (m : Option Match) :
      landsAt i (.ok m) = true ↔ m.map (·.index) = some i := by
    cases m <;> simp [landsAt]
  obtain ⟨k', d⟩ := q
  by_cases hk : k' = k
  · subst hk
    by_cases hd : d.kind = k'
    · have hentries := Table.compile_eq_ok_iff.mp (compile_table h k')
      simp [Compiled.finds, Compiled.answer_eq, hd, hlands,
        ← Table.map_index_firstMatch_eq_some_iff hentries, Compiled.table]
    · simp [Compiled.finds, Compiled.answer_eq, hd, landsAt]
  · simp [Compiled.finds, hk]

end Ruleset

namespace Pass

variable {c : Compiled}

/-- The item of a declaration that falls to a rule. -/
theorem item_of_firstMatch {tables : (k : Kind) → Table k} {d : Declaration} {it : Item} {m : Match}
    (h : itemUnder tables d = .ok it) (hm : (tables d.kind).firstMatch d = some m) :
    it.kind = d.kind ∧ it.origin = m.origin ∧
      it.disposition = if m.action.isDiscard then .discarded m.index else .rewritten m.index := by
  cases haction : m.action with
  | discard =>
    cases (itemUnder_of_discard hm haction).symm.trans h
    exact ⟨rfl, rfl, rfl⟩
  | rewrite t =>
    cases hedit : t.edit d.container d.name m.context d.form with
    | ok _ form =>
      cases (itemUnder_of_edit hm haction hedit).symm.trans h
      exact ⟨rfl, rfl, rfl⟩
    | error reason form => cases (itemUnder_of_failing hm haction hedit).symm.trans h

/-- An item is of the kind of its declaration, and carries the rule that was found. -/
theorem kind_rule_of_itemUnder {tables : (k : Kind) → Table k} {d : Declaration} {it : Item}
    (h : itemUnder tables d = .ok it) :
    it.kind = d.kind ∧ it.disposition.rule? = ((tables d.kind).firstMatch d).map (·.index) := by
  cases hm : (tables d.kind).firstMatch d with
  | none =>
    cases (itemUnder_of_unmatched hm).symm.trans h
    exact ⟨rfl, rfl⟩
  | some m =>
    obtain ⟨hkind, -, hdisposition⟩ := item_of_firstMatch h hm
    refine ⟨hkind, ?_⟩
    rw [hdisposition]
    cases m.action.isDiscard <;> rfl

/-- The items of a pass name each rule as often as the look-ups found it. -/
theorem countP_finds {ds : List Declaration} {items : List Item}
    (h : List.Forall₂ (fun d it => itemUnder c.table d = .ok it) ds items) (k : Kind) (i : Nat) :
    (ds.map Declaration.query).countP (c.finds k i) =
      items.countP fun it => it.kind == k && it.disposition.rule? == some i := by
  induction h with
  | nil => rfl
  | @cons d it _ _ hit _ ih =>
    obtain ⟨hkind, hrule⟩ := kind_rule_of_itemUnder hit
    have hfinds : c.finds k i d.query = (it.kind == k && it.disposition.rule? == some i) := by
      rw [hkind, hrule]
      cases hm : (c.table d.kind).firstMatch d <;>
        simp [Compiled.finds, Compiled.answer_eq, Declaration.query, landsAt, hm]
    rw [List.map_cons, List.countP_cons, List.countP_cons, ih, hfinds]

/-- A pass over the declarations, in their order or in some other, gives the items and leaves the
ruleset `c'`. -/
def Completes (c : Compiled) (ds : List Declaration) (items : List Item) (c' : Compiled) : Prop :=
  (run ds).run c = (.ok items, c') ∨
    ∃ s : Schedule ds.length, (runScheduled ds s).run c = (.ok items, c')

theorem Completes.eq {ds : List Declaration} {items : List Item} {c' : Compiled}
    (h : Completes c ds items c') :
    ds.mapM (itemUnder c.table) = .ok items ∧ c' = c.askedAll (ds.map Declaration.query) := by
  rcases h with h | ⟨s, h⟩
  · rw [run_eq] at h
    exact ⟨congrArg Prod.fst h, (congrArg Prod.snd h).symm⟩
  · rw [runScheduled_eq] at h
    exact ⟨congrArg Prod.fst h, (congrArg Prod.snd h).symm⟩

/-- The items of all declarations are what a pass gives. -/
theorem completes_of_forall₂ {ds : List Declaration} {items : List Item}
    (h : List.Forall₂ (fun d it => itemUnder c.table d = .ok it) ds items) :
    Completes c ds items (c.askedAll (ds.map Declaration.query)) := by
  left
  rw [run_eq, Except.mapM_eq_ok_iff.mpr h]

end Pass

theorem Compiled.unused_eq (c : Compiled) : c.unused = c.usage.filter (·.hits = 0) := by
  simp only [unused, usage, PerKind.toList, Database.unused, List.filter_flatten, List.map_map]
  rfl

namespace Ruleset

variable {R : Ruleset} {c : Compiled}

/-- The rows of all kinds. -/
theorem usage_afterAll_flatMap (h : R.compile = .ok c) (ops : List Operation) :
    (c.afterAll ops).usage = Kind.all.flatMap fun k => (R.build k).zipIdx.map fun w =>
      w.1.usage k w.2 (UInt64.ofNat ((sinceReset k ops).countP (c.finds k w.2))) := by
  have hrows (k : Kind) := usage_afterAll h ops k
  unfold Compiled.database at hrows
  simp only [Compiled.usage, PerKind.toList, hrows, List.flatMap]

/-- What the counts of a compiled ruleset say after operations. -/
structure Accounts (R : Ruleset) (c : Compiled) (ops : List Operation) : Prop where
  /-- Counts decide nothing: what is found is what was found at first. -/
  answer : ∀ q, (c.afterAll ops).answer q = c.answer q
  /-- Every rule in force has a count, of the queries that found it. -/
  hits : ∀ k i, i < (R.build k).length → ((c.afterAll ops).hits? k i).map UInt64.toNat =
    some ((sinceReset k ops).countP (c.finds k i) % 2 ^ 64)
  /-- There is a row for each entry in force, in their order. -/
  usage : (c.afterAll ops).usage = Kind.all.flatMap fun k => (R.build k).zipIdx.map fun w =>
    w.1.usage k w.2 (UInt64.ofNat ((sinceReset k ops).countP (c.finds k w.2)))
  unused : (c.afterAll ops).unused = (c.afterAll ops).usage.filter (·.hits = 0)
  /-- A query that is refused, or finds nothing, leaves all counts as they were. -/
  unanswered : ∀ q, (∀ m, c.answer q ≠ .ok (some m)) →
    (Operation.ask q).after (c.afterAll ops) = c.afterAll ops

/-- **Every count is a number of queries.** After any operations on a compiled ruleset the count of
a rule is the number of queries that found it since the counts of its kind were last set back,
modulo 2^64; after one pass that succeeds it is the number of items that name the rule. -/
theorem accounts_of_compile (h : R.compile = .ok c) :
    (∀ ops, Accounts R c ops) ∧
    ∀ ds items c', Pass.Completes c ds items c' → ds.length < 2 ^ 64 →
      ∀ k i, i < (R.build k).length → (c'.hits? k i).map UInt64.toNat =
        some (items.countP fun it => it.kind == k && it.disposition.rule? == some i) := by
  have hsize (k : Kind) : (c.table k).size = (R.build k).length :=
    Table.size_of_compile (compile_table h k)
  have hfresh := fresh_of_compile h
  refine ⟨fun ops => ⟨fun q => ?_, fun k i hi => ?_, ?_, ?_, fun q hq => ?_⟩,
    fun ds items c' hpass hlength k i hi => ?_⟩
  · exact (c.sameRules_afterAll ops).answer q
  · rw [Compiled.hits?_afterAll hfresh, if_pos (hsize k ▸ hi), Option.map_some,
      UInt64.toNat_ofNat']
  · exact usage_afterAll_flatMap h ops
  · exact Compiled.unused_eq _
  · refine Compiled.asked_of_not_finds fun m => ?_
    rw [(c.sameRules_afterAll ops).answer]
    exact hq m
  · obtain ⟨hitems, rfl⟩ := hpass.eq
    have hcount := Pass.countP_finds (Except.mapM_eq_ok_iff.mp hitems) k i
    have hle := (List.countP_le_length (p := c.finds k i)
      (l := ds.map Declaration.query)).trans_eq (List.length_map _)
    rw [c.hits?_askedAll, hfresh.hits?, if_pos (hsize k ▸ hi), ← hcount, Option.map_some,
      Option.map_some, zero_add, UInt64.toNat_ofNat', Nat.mod_eq_of_lt (hle.trans_lt hlength)]

section AnyTypedef

/-- Counts before a reset are gone, declarations of other kinds find nothing, and both a single
look-up and a pass count. -/
theorem accounts_of_compile_anyTypedef : ∃ c, anyTypedef.compile = .ok c ∧
    ((c.afterAll [.process (typedefCalled "a"), .reset .typedef, .resolve (typedefCalled "b"),
      .run [typedefCalled "a", { kind := .function, name := "f" }]]).hits? .typedef 0).map
        UInt64.toNat = some 2 ∧
    ∃ items c', Pass.Completes c [typedefCalled "a"] items c' ∧
      (c'.hits? .typedef 0).map UInt64.toNat = some 1 := by
  obtain ⟨c, hc⟩ := exists_compile_anyTypedef
  obtain ⟨hops, hpass⟩ := accounts_of_compile hc
  obtain ⟨a, ha⟩ := firstMatch_anyTypedef hc (d := typedefCalled "a") (by decide) (by decide)
  obtain ⟨b, hb⟩ := firstMatch_anyTypedef hc (d := typedefCalled "b") (by decide) (by decide)
  have hfinds {d : Declaration} {m : Match} (hd : d.kind = .typedef) (hi : m.index = 0)
      (hm : (c.table .typedef).firstMatch d = some m) : c.finds .typedef 0 d.query = true := by
    simp [Compiled.finds, Compiled.answer_eq, Declaration.query, hd, hm, landsAt, hi]
  have hother : c.finds .typedef 0 (Declaration.query { kind := .function, name := "f" }) = false :=
    rfl
  refine ⟨c, hc, ?_, ?_⟩
  · rw [(hops _).hits .typedef 0 (by decide)]
    have hsince : sinceReset .typedef [.process (typedefCalled "a"), .reset .typedef,
        .resolve (typedefCalled "b"),
        .run [typedefCalled "a", { kind := .function, name := "f" }]] =
      [(typedefCalled "b").query, (typedefCalled "a").query,
        Declaration.query { kind := .function, name := "f" }] := rfl
    rw [hsince]
    simp [hfinds rfl rfl ha, hfinds rfl rfl hb, hother]
  · have hitem : Pass.itemUnder c.table (typedefCalled "a") = .ok {
        kind := .typedef, container := "", name := "a", disposition := .discarded 0,
        origin := some anyTypedef.name, changed := [], emitted := none } := by
      change Item.ofMatch _ (.ok ((c.database .typedef).table.firstMatch (typedefCalled "a"))) = _
      rw [ha]
      rfl
    have hrun : Pass.Completes c [typedefCalled "a"] _ _ := .inl (Pass.run_eq _ c |>.trans
      (by rw [Except.mapM_eq_ok_iff.mpr (.cons hitem .nil)]))
    exact ⟨_, _, hrun, hpass _ _ _ hrun (by decide) .typedef 0 (by decide)⟩

end AnyTypedef

end Ruleset

end DeclRules
