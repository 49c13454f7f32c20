import DeclRules.Proofs.Pattern.Wildcard
import DeclRules.Ruleset.Compiled

/-! # Local rules before inherited ones

A ruleset compiles if and only if its own entries do and all its parents do
(`Ruleset.exists_compile_iff_parents`), and its tables are then its own rules followed by the tables
of its parents (`Ruleset.table_eq_layers`). The main statement is `Ruleset.resolve_layered`: a
declaration falls to the first own rule that matches, else to what the first parent that matches it
would give, and to nothing if neither matches. -/

namespace DeclRules

namespace Compiled

/-- Looking a declaration up never fails: it is looked up among the rules of its own kind. -/
theorem resolve_fst (c : Compiled) (d : Declaration) :
    (c.resolve d).1 = .ok ((c.database d.kind).table.firstMatch d) := by
  simp [resolve, find, Database.find]

end Compiled

namespace Table

variable {k : Kind}

theorem size_of_compile {es : List Entry} {t : Table k} (h : compile k es = .ok t) :
    t.size = es.length := (compile_eq_ok_iff.mp h).length_eq.symm

end Table

namespace Ruleset

variable {R P : Ruleset} {c : Compiled}

theorem build_extend (k : Kind) (R P : Ruleset) :
    (R.extend P).build k = R.build k ++ P.build k := by
  rw [build_eq, build_eq k R]
  simp [extend, localEntries]

theorem exists_compile_iff : (∃ c, R.compile = .ok c) ↔ ∀ k, ∀ e ∈ R.build k, e.Fits k := by
  have hdb (k : Kind) : (∃ db, Database.compile k (R.build k) = .ok db) ↔
      ∃ t, Table.compile k (R.build k) = .ok t := by
    simp [Database.compile, Except.bind_eq_ok_iff, pure, Except.pure]
  simp only [← Table.exists_compile_iff, ← hdb, ← PerKind.exists_ofExcept_iff, compile,
    Except.bind_eq_ok_iff]
  constructor
  · rintro ⟨c, m, hm, -⟩
    exact ⟨m, hm⟩
  · rintro ⟨m, hm⟩
    exact ⟨_, m, hm, rfl⟩

theorem compile_database (h : R.compile = .ok c) (k : Kind) :
    ∃ t, Table.compile k (R.build k) = .ok t ∧ c.database k = .ofTable t := by
  obtain ⟨m, hm, h⟩ := Except.bind_eq_ok_iff.mp h
  cases h
  obtain ⟨t, ht, hdb⟩ := Except.bind_eq_ok_iff.mp (PerKind.ofExcept_eq_ok_iff.mp hm k)
  exact ⟨t, ht, (Except.ok.inj hdb).symm⟩

theorem compile_table (h : R.compile = .ok c) (k : Kind) :
    Table.compile k (R.build k) = .ok (c.database k).table := by
  obtain ⟨t, ht, hdb⟩ := compile_database h k
  rw [ht, hdb]
  rfl

theorem exists_compile_iff_parents :
    (∃ c, R.compile = .ok c) ↔ (∀ k, ∀ e ∈ R.localEntries k, e.Fits k) ∧
      ∀ P ∈ R.parents, ∃ c, P.compile = .ok c := by
  simp only [exists_compile_iff, build_eq _ R, List.mem_append, List.mem_flatMap]
  constructor
  · intro h
    exact ⟨fun k e he => h k e (.inl he), fun P hP k e he => h k e (.inr ⟨P, hP, he⟩)⟩
  · rintro ⟨hown, hparents⟩ k e (he | ⟨P, hP, he⟩)
    · exact hown k e he
    · exact hparents P hP k e he

/-- The table of a kind: the ruleset's own rules, then those of each parent. -/
theorem table_eq_layers (h : R.compile = .ok c) {cs : List Compiled}
    (hcs : List.Forall₂ (fun P cP => P.compile = .ok cP) R.parents cs) {k : Kind} {own : Table k}
    (hown : Table.compile k (R.localEntries k) = .ok own) :
    (c.database k).table =
      ⟨own.rules ++ (Table.concat (cs.map fun cP => (cP.database k).table)).rules⟩ := by
  have hinherited : Table.compile k (R.parents.flatMap (build k)) =
      .ok (Table.concat (cs.map fun cP => (cP.database k).table)) := by
    apply Table.compile_flatMap
    rw [List.forall₂_map_right_iff]
    exact hcs.imp fun P cP hP => compile_table hP k
  apply Table.compile_unique (compile_table h k)
  rw [build_eq]
  exact Table.compile_append hown hinherited

theorem sizes_eq {Ps : List Ruleset} {cs : List Compiled}
    (hcs : List.Forall₂ (fun P cP => P.compile = .ok cP) Ps cs) (k : Kind) :
    Ps.map (fun P => (P.build k).length) = cs.map fun cP => (cP.database k).table.size := by
  induction hcs with
  | nil => rfl
  | cons hP _ ih =>
    rw [List.map_cons, List.map_cons, ih, Table.size_of_compile (compile_table hP k)]

/-- The place in the table of `k` at which the rules of parent number `i` start. -/
def offset (R : Ruleset) (k : Kind) (i : Nat) : Nat :=
  (R.localEntries k).length + ((R.parents.take i).map fun P => (P.build k).length).sum

theorem offset_eq {cs : List Compiled}
    (hcs : List.Forall₂ (fun P cP => P.compile = .ok cP) R.parents cs) {k : Kind} {own : Table k}
    (hown : Table.compile k (R.localEntries k) = .ok own) (i : Nat) :
    R.offset k i =
      own.size + (((cs.map fun cP => (cP.database k).table).take i).map Table.size).sum := by
  rw [offset, Table.size_of_compile hown, List.map_take, sizes_eq hcs, ← List.map_take,
    ← List.map_take, List.map_map]
  rfl

/-- The answer of a compiled ruleset, by its own rules and the answers of its parents. -/
structure Layers (R : Ruleset) (c : Compiled) (cs : List Compiled) (d : Declaration) : Prop where
  /-- The first own rule that matches wins, under its place among the own rules. -/
  own : (∃ e ∈ R.localEntries d.kind, e.Matches d) →
    ∃ i e context, Entry.FirstMatch (R.localEntries d.kind) d i e ∧ e.Captures d context ∧
      (c.resolve d).1 = .ok (some ⟨i, e.action, e.origin, context⟩)
  /-- Else the first parent that matches decides, under a place behind all that come before. -/
  inherited : (∀ e ∈ R.localEntries d.kind, ¬ e.Matches d) →
    ∀ (i : Nat) (cP : Compiled) (m : Match), cs[i]? = some cP → (cP.resolve d).1 = .ok (some m) →
      (∀ (j : Nat) (cP' : Compiled), j < i → cs[j]? = some cP' → (cP'.resolve d).1 = .ok none) →
      (c.resolve d).1 = .ok (some (m.shift (R.offset d.kind i)))
  none_iff : (c.resolve d).1 = .ok none ↔
    (∀ e ∈ R.localEntries d.kind, ¬ e.Matches d) ∧ ∀ cP ∈ cs, (cP.resolve d).1 = .ok none

theorem layers_of_compile (h : R.compile = .ok c) {cs : List Compiled}
    (hcs : List.Forall₂ (fun P cP => P.compile = .ok cP) R.parents cs) (d : Declaration) :
    Layers R c cs d := by
  obtain ⟨hfits, -⟩ := exists_compile_iff_parents.mp ⟨c, h⟩
  obtain ⟨own, hown⟩ := Table.exists_compile_iff.mpr (hfits d.kind)
  have hentries := Table.compile_eq_ok_iff.mp hown
  let inherited := Table.concat (cs.map fun cP => (cP.database d.kind).table)
  have hfirst : (c.resolve d).1 = .ok ((own.firstMatch d).or
      ((inherited.firstMatch d).map (·.shift own.size))) := by
    rw [Compiled.resolve_fst, table_eq_layers h hcs hown]
    exact congrArg Except.ok (Table.firstMatch_append own.rules inherited.rules)
  refine ⟨fun hmatch => ?_, fun hnone i cP m hi hm hbefore => ?_, ?_⟩
  · obtain ⟨i, e, hf⟩ := Entry.exists_firstMatch hmatch
    obtain ⟨context, hc, hm⟩ := Table.firstMatch_eq_some hentries hf
    exact ⟨i, e, context, hf, hc, by rw [hfirst, hm]; rfl⟩
  · have hown_none : own.firstMatch d = none := (Table.firstMatch_eq_none_iff hentries).mpr hnone
    rw [Compiled.resolve_fst, Except.ok.injEq] at hm
    have htable : (cs.map fun cP => (cP.database d.kind).table)[i]? =
        some (cP.database d.kind).table := by rw [List.getElem?_map, hi]; rfl
    have hinherited := Table.firstMatch_concat htable hm fun j t hj ht => by
      obtain ⟨cP', hcP', rfl⟩ := Option.map_eq_some_iff.mp (List.getElem?_map.symm.trans ht)
      have hnone' := hbefore j cP' hj hcP'
      rwa [Compiled.resolve_fst, Except.ok.injEq] at hnone'
    rw [hfirst, hown_none, hinherited, offset_eq hcs hown]
    simp [Match.shift_shift]
  · rw [hfirst, Except.ok.injEq, Option.or_eq_none_iff, Option.map_eq_none_iff,
      Table.firstMatch_eq_none_iff hentries, Table.firstMatch_concat_eq_none_iff]
    simp [Compiled.resolve_fst]

/-- **Own rules first, then the parents in order.** A further parent at the end changes no answer
that there was. -/
theorem resolve_layered (h : R.compile = .ok c) :
    ∃ cs : List Compiled, List.Forall₂ (fun P cP => P.compile = .ok cP) R.parents cs ∧
      (∀ d, Layers R c cs d) ∧
      ∀ P cP, P.compile = .ok cP → ∃ c', (R.extend P).compile = .ok c' ∧
        ∀ d m, (c.resolve d).1 = .ok (some m) → (c'.resolve d).1 = .ok (some m) := by
  obtain ⟨cs, hcs⟩ := List.exists_forall₂ (exists_compile_iff_parents.mp ⟨c, h⟩).2
  refine ⟨cs, hcs, fun d => layers_of_compile h hcs d, fun P cP hP => ?_⟩
  have htable (k : Kind) : Table.compile k ((R.extend P).build k) =
      .ok ⟨(c.database k).table.rules ++ (cP.database k).table.rules⟩ := by
    rw [build_extend]
    exact Table.compile_append (compile_table h k) (compile_table hP k)
  obtain ⟨c', hc'⟩ := exists_compile_iff.mpr fun k => Table.exists_compile_iff.mp ⟨_, htable k⟩
  refine ⟨c', hc', fun d m hm => ?_⟩
  rw [Compiled.resolve_fst, Except.ok.injEq] at hm ⊢
  rw [Table.compile_unique (compile_table hc' d.kind) (htable d.kind), Table.firstMatch_append]
  simp [hm]

/-- Discards every typedef. -/
def anyTypedef : Ruleset where
  name := ⟨"_", by simp [isRulesetName, isNameChar]⟩
  description := none
  parents := []
  rules
    | .typedef => [⟨.typedef, [RuleFile.wildcard, RuleFile.wildcard], .discard, none⟩]
    | _ => []

/-- Discards the typedefs of a name by a rule of its own, and all others by an inherited one. -/
def typedefNamed (name : String) : Ruleset where
  name := ⟨"-", by simp [isRulesetName, isNameChar]⟩
  description := none
  parents := [anyTypedef]
  rules
    | .typedef => [⟨.typedef, [RuleFile.wildcard, name], .discard, none⟩]
    | _ => []

theorem exists_compile_anyTypedef : ∃ c, anyTypedef.compile = .ok c := by
  refine exists_compile_iff_parents.mpr ⟨fun k e he => ?_, by simp [anyTypedef]⟩
  cases k <;> simp [localEntries, anyTypedef] at he
  subst he
  exact ⟨rfl, rfl, by simp [FieldPattern.compile_wildcard]⟩

/-- A typedef at top level. -/
def typedefCalled (name : String) : Declaration := { kind := .typedef, name }

/-- Its one rule matches wherever there is no line feed in the way. -/
theorem matches_anyTypedef {e : Entry} (he : e ∈ anyTypedef.localEntries .typedef)
    {d : Declaration} (hcontainer : '\n' ∉ d.container.toList) (hname : '\n' ∉ d.name.toList) :
    e.Matches d := by
  cases List.mem_singleton.mp he
  exact .cons ((FieldPattern.covers_wildcard_iff _).mpr hcontainer)
    (.cons ((FieldPattern.covers_wildcard_iff _).mpr hname) .nil)

theorem firstMatch_anyTypedef (h : anyTypedef.compile = .ok c) {d : Declaration}
    (hcontainer : '\n' ∉ d.container.toList) (hname : '\n' ∉ d.name.toList) :
    ∃ context, (c.database .typedef).table.firstMatch d =
      some ⟨0, .discard, some anyTypedef.name, context⟩ := by
  have hentries := Table.compile_eq_ok_iff.mp (compile_table h .typedef)
  have hmatches := matches_anyTypedef (List.mem_singleton_self _) hcontainer hname
  obtain ⟨context, -, hm⟩ := Table.firstMatch_eq_some (i := 0) hentries
    ⟨rfl, hmatches, fun j _ hj => absurd hj (Nat.not_lt_zero j)⟩
  exact ⟨context, hm⟩

theorem firstMatch_anyTypedef_of_ne (h : anyTypedef.compile = .ok c) {d : Declaration}
    (hd : d.kind ≠ .typedef) : (c.database d.kind).table.firstMatch d = none := by
  have hentries := Table.compile_eq_ok_iff.mp (compile_table h d.kind)
  have hbuild : anyTypedef.build d.kind = [] := by
    rw [build_eq, localEntries, anyTypedef]
    cases hkind : d.kind <;> simp_all
  exact (Table.firstMatch_eq_none_iff hentries).mpr (by simp [hbuild])

theorem exists_compile_typedefNamed {name : String} {p : FieldPattern}
    (h : FieldPattern.compile name = .ok p) : ∃ c, (typedefNamed name).compile = .ok c := by
  refine exists_compile_iff_parents.mpr ⟨fun k e he => ?_, fun P hP => ?_⟩
  · cases k <;> simp [localEntries, typedefNamed] at he
    subst he
    exact ⟨rfl, rfl, by simp [h, FieldPattern.compile_wildcard]⟩
  · cases List.mem_singleton.mp hP
    exact exists_compile_anyTypedef

/-- The rule for another name does not match, and the inherited one stands behind it. -/
theorem resolve_layered_typedefNamed : ∃ c context, (typedefNamed "a").compile = .ok c ∧
    (c.resolve { kind := .typedef, name := "b" }).1 =
      .ok (some ⟨1, .discard, some anyTypedef.name, context⟩) := by
  have heval : (FieldPattern.compile "a").toOption.map (·.isMatch "b") = some false := by cbv
  obtain ⟨p, hp, hb⟩ := Option.map_eq_some_iff.mp heval
  have hcompile : FieldPattern.compile "a" = .ok p := by
    cases h : FieldPattern.compile "a" <;> simp_all [Except.toOption]
  obtain ⟨c, hc⟩ := exists_compile_typedefNamed hcompile
  obtain ⟨cs, hcs, hlayers, -⟩ := resolve_layered hc
  obtain ⟨cP, _, hP, hnil, rfl⟩ := List.forall₂_cons_left_iff.mp hcs
  cases hnil
  let d : Declaration := { kind := .typedef, name := "b" }
  have hwild (text : String) (ht : '\n' ∉ text.toList) :
      FieldPattern.Covers RuleFile.wildcard text := (FieldPattern.covers_wildcard_iff text).mpr ht
  have hown : ∀ e ∈ (typedefNamed "a").localEntries .typedef, ¬ e.Matches d := by
    intro e he hm
    cases List.mem_singleton.mp he
    obtain ⟨-, hcovers⟩ := List.forall₂_cons.mp hm
    have hmatch := (FieldPattern.covers_iff hcompile).mp (List.forall₂_cons.mp hcovers).1
    exact Bool.false_ne_true (hb.symm.trans hmatch)
  have hany : ∃ e ∈ anyTypedef.localEntries .typedef, e.Matches d :=
    ⟨_, List.mem_singleton_self _,
      .cons (hwild "" (by decide)) (.cons (hwild "b" (by decide)) .nil)⟩
  obtain ⟨i, e, context, hf, -, hm⟩ := (layers_of_compile hP .nil d).own hany
  obtain ⟨hi, he⟩ := List.getElem?_eq_some_iff.mp hf.getElem
  cases Nat.lt_one_iff.mp hi
  cases he
  exact ⟨c, context, hc, (hlayers d).inherited hown 0 cP _ rfl hm fun j _ hj =>
    absurd hj (Nat.not_lt_zero j)⟩

end Ruleset

end DeclRules
