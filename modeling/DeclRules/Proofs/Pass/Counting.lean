import DeclRules.Pass.Run
import Mathlib

/-! # What a look-up counts

Rulesets that differ in their counts alone give the same answers (`Compiled.SameRules`). Looking a
declaration up keeps the rules, and adds one to the count of the rule that was found and to no
other (`Compiled.hits?_asked`). Additions commute, so that of many look-ups only their number for
each rule shows in the end (`Compiled.hits?_askedAll`), and not their order
(`Compiled.askedAll_perm`). -/

namespace DeclRules

/-- A declaration put to the rules of one kind, which need not be its own. -/
structure Query where
  kind : Kind
  declaration : Declaration

/-- The declaration put to the rules of its own kind. -/
def Declaration.query (d : Declaration) : Query := ⟨d.kind, d⟩

/-- What was found is the rule at `i`. -/
def landsAt (i : Nat) : Except ConfigError (Option Match) → Bool
  | .ok (some m) => m.index == i
  | _ => false

theorem PerKind.ext_get {α : Kind → Type} {m m' : PerKind α} (h : ∀ k, m.get k = m'.get k) :
    m = m' := by
  cases m
  cases m'
  congr
  · exact h .function
  · exact h .container
  · exact h .typedef
  · exact h .forwardDeclaration

namespace Database

variable {k : Kind}

theorem ext_hits {db db' : Database k} (htable : db.table = db'.table)
    (hhits : ∀ i : Nat, db.hits[i]? = db'.hits[i]?) : db = db' := by
  cases db
  cases db'
  cases htable
  cases List.ext_getElem? hhits
  rfl

theorem table_count (db : Database k) (found : Except ConfigError (Option Match)) :
    (db.count found).table = db.table := by
  unfold count
  split <;> rfl

theorem hits_count (db : Database k) (found : Except ConfigError (Option Match)) (i : Nat) :
    (db.count found).hits[i]? = db.hits[i]?.map (· + if landsAt i found then 1 else 0) := by
  unfold count landsAt
  split
  · simp only [hit, List.getElem?_modify, beq_iff_eq]
    split <;> simp
  · simp

end Database

namespace Compiled

variable {c c' c'' : Compiled}

/-- The rules of a kind, without how often they matched. -/
def table (c : Compiled) (k : Kind) : Table k := (c.database k).table

/-- How often the rule at `i` was counted, if there is one. -/
def hits? (c : Compiled) (k : Kind) (i : Nat) : Option UInt64 := (c.database k).hits[i]?

/-- The rulesets differ in their counts at most. -/
structure SameRules (c c' : Compiled) : Prop where
  name : c.name = c'.name
  description : c.description = c'.description
  lineage : c.lineage = c'.lineage
  table : ∀ k, c.table k = c'.table k

namespace SameRules

theorem refl (c : Compiled) : c.SameRules c := ⟨rfl, rfl, rfl, fun _ => rfl⟩

theorem symm (h : c.SameRules c') : c'.SameRules c :=
  ⟨h.name.symm, h.description.symm, h.lineage.symm, fun k => (h.table k).symm⟩

theorem trans (h : c.SameRules c') (h' : c'.SameRules c'') : c.SameRules c'' :=
  ⟨h.name.trans h'.name, h.description.trans h'.description, h.lineage.trans h'.lineage,
    fun k => (h.table k).trans (h'.table k)⟩

theorem eq_of_hits? (h : c.SameRules c') (hhits : ∀ k i, c.hits? k i = c'.hits? k i) : c = c' := by
  have hdatabases : c.databases = c'.databases :=
    PerKind.ext_get fun k => Database.ext_hits (h.table k) (hhits k)
  obtain ⟨hname, hdescription, hlineage, -⟩ := h
  cases c
  cases c'
  cases hname
  cases hdescription
  cases hlineage
  cases hdatabases
  rfl

end SameRules

/-- What is found for a query. -/
def answer (c : Compiled) (q : Query) : Except ConfigError (Option Match) :=
  (c.database q.kind).find q.declaration

/-- The ruleset after a query. -/
def asked (c : Compiled) (q : Query) : Compiled := c.count q.kind (c.answer q)

/-- The ruleset after queries one after the other. -/
def askedAll (c : Compiled) (qs : List Query) : Compiled := qs.foldl asked c

/-- The query is answered with the rule at `i` of kind `k`. -/
def finds (c : Compiled) (k : Kind) (i : Nat) (q : Query) : Bool :=
  q.kind == k && landsAt i (c.answer q)

theorem answer_eq (c : Compiled) (q : Query) : c.answer q =
    if q.declaration.kind = q.kind then .ok ((c.table q.kind).firstMatch q.declaration)
    else .error (.foreignDeclaration q.kind q.declaration.kind q.declaration.qualified) := rfl

theorem SameRules.answer (h : c.SameRules c') (q : Query) : c.answer q = c'.answer q := by
  rw [answer_eq, answer_eq, h.table]

theorem SameRules.finds (h : c.SameRules c') : c.finds = c'.finds := by
  funext k i q
  rw [Compiled.finds, Compiled.finds, h.answer]

theorem resolve_eq (c : Compiled) (d : Declaration) :
    c.resolve d = (.ok ((c.table d.kind).firstMatch d), c.asked d.query) := by
  have hfind : c.find d = .ok ((c.table d.kind).firstMatch d) := if_pos rfl
  rw [resolve, hfind, ← hfind]
  rfl

section Step

variable (c : Compiled) (k : Kind) (found : Except ConfigError (Option Match))

theorem sameRules_count : (c.count k found).SameRules c := by
  refine ⟨rfl, rfl, rfl, fun k' => ?_⟩
  by_cases h : k' = k
  · subst h
    simp [table, database, count, Database.table_count]
  · simp [table, database, count, h]

theorem hits?_count (k' : Kind) (i : Nat) :
    (c.count k found).hits? k' i =
      (c.hits? k' i).map (· + if k == k' && landsAt i found then 1 else 0) := by
  by_cases h : k' = k
  · subst h
    simp [hits?, database, count, Database.hits_count]
  · simp [hits?, database, count, h, Ne.symm h]

end Step

theorem sameRules_asked (c : Compiled) (q : Query) : (c.asked q).SameRules c :=
  sameRules_count c q.kind _

theorem hits?_asked (c : Compiled) (q : Query) (k : Kind) (i : Nat) :
    (c.asked q).hits? k i = (c.hits? k i).map (· + if c.finds k i q then 1 else 0) :=
  hits?_count c q.kind _ k i

theorem sameRules_askedAll (c : Compiled) (qs : List Query) : (c.askedAll qs).SameRules c := by
  induction qs generalizing c with
  | nil => exact .refl c
  | cons q qs ih => exact (ih (c.asked q)).trans (sameRules_asked c q)

/-- Every query that finds a rule counts once for it. -/
theorem hits?_askedAll (c : Compiled) (qs : List Query) (k : Kind) (i : Nat) :
    (c.askedAll qs).hits? k i =
      (c.hits? k i).map (· + UInt64.ofNat (qs.countP (c.finds k i))) := by
  induction qs generalizing c with
  | nil => simp [askedAll]
  | cons q qs ih =>
    change ((c.asked q).askedAll qs).hits? k i = _
    rw [ih, hits?_asked, (sameRules_asked c q).finds, List.countP_cons, Option.map_map]
    congr 1
    funext n
    split <;> simp [UInt64.ofNat_add, add_assoc, add_comm]

/-- The order of queries does not show. -/
theorem askedAll_perm (c : Compiled) {qs qs' : List Query} (h : qs.Perm qs') :
    c.askedAll qs = c.askedAll qs' := by
  refine SameRules.eq_of_hits? ((sameRules_askedAll c qs).trans (sameRules_askedAll c qs').symm)
    fun k i => ?_
  rw [hits?_askedAll, hits?_askedAll, h.countP_eq]

/-- A query that finds no rule leaves the ruleset as it was. -/
theorem asked_of_not_finds {q : Query} (h : ∀ m, c.answer q ≠ .ok (some m)) : c.asked q = c := by
  refine (sameRules_asked c q).eq_of_hits? fun k i => ?_
  have hfinds : c.finds k i q = false := by
    unfold finds landsAt
    split
    · rename_i m hm
      exact absurd hm (h m)
    · simp
  simp [hits?_asked, hfinds]

end Compiled

end DeclRules
