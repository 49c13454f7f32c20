import DeclRules.Proofs.Pattern.Captures
import DeclRules.Proofs.Ruleset.Layering
import Mathlib

/-! # What a rule captures from a declaration

The context of the rule that a declaration falls to has one match for each field of the kind, in
order, and each of them is told by the pattern for that field alone (`Context.Faithful`). The main
statement is `Ruleset.captures_faithful`. -/

namespace DeclRules

open Pattern

namespace FieldPattern

variable {source : String} {p : FieldPattern} {field : Field} {value : String} {m : FieldMatch}

/-- The groups of a pattern between its anchors are those of the pattern alone. -/
theorem mem_groups_iff_of_compile {e : Expr} (h : compile source = .ok p)
    (he : Pattern.expr source.toList = .ok e) (g : Nat × Option String) :
    g ∈ p.expr.groups ↔ g ∈ e.groups := by
  obtain ⟨a, f, ha, helab, -⟩ := expr_eq_ok_iff.mp he
  obtain ⟨a', ha', -, hrenders, -⟩ := exists_tree h
  cases ha.symm.trans ha'
  have hordered := ordered_of_tree? (parse_eq_some_iff.mp ha).1
  rw [hrenders.groups, Ast.liveGroups_wrapped, (Ast.renders hordered helab).groups]

theorem length_groups_of_capture {e : Expr} (h : compile source = .ok p)
    (he : Pattern.expr source.toList = .ok e) (hm : p.capture field value = some m) :
    m.groups.length = e.groupCount := by
  obtain ⟨t, -, rfl⟩ := capture_eq_some_iff.mp hm
  rw [List.length_map, List.length_range]
  refine eq_of_forall_lt_iff fun i => ?_
  simp only [Expr.lt_groupCount_iff, mem_groups_iff_of_compile h he]

/-- A group that is repeated zero times has no entry, though it is a group of the pattern: there
are two of them here, and one entry behind the whole match. -/
theorem exists_groups_without_entry : ∃ a p m, parse "(a)(b)\x7b0\x7d".toList = some a ∧
    a.groups = [(1, none), (2, none)] ∧ compile "(a)(b)\x7b0\x7d" = .ok p ∧
    p.capture .name "a" = some m ∧ m.groups = [some "a", some "a"] := by
  let tree : Ast := .concat [.group (.capture 1 none) (.atom (.literal 'a' false)),
    .repeat 0 (some 0) true (.group (.capture 2 none) (.atom (.literal 'b' false)))]
  let p : FieldPattern := ⟨"(a)(b){0}", .seq (.look .textStart)
    (.seq (.group 1 none (.chars ⟨[(97, 97)]⟩)) (.look .textEnd)), #[.look .textStart 1,
      .mark 2 2, .take ⟨[(97, 97)]⟩ 3, .mark 3 4, .look .textEnd 5, .accept]⟩
  have htree : parse "(a)(b){0}".toList = some tree := by cbv
  have hcompile : compile "(a)(b){0}" = .ok p := by cbv
  have hcapture : (p.capture .name "a").map (·.groups) = some [some "a", some "a"] := by cbv
  obtain ⟨m, hm, hgroups⟩ := Option.map_eq_some_iff.mp hcapture
  exact ⟨tree, p, m, htree, rfl, hcompile, hm, hgroups⟩

end FieldPattern

/-- Each field of the kind, in order, is matched by the pattern for it. -/
structure Context.Faithful (c : Context) (d : Declaration) (sources : List String) : Prop where
  fields : c.fields.map (·.field) = d.kind.fields
  each : List.Forall₂ (fun (w : Field × String) (m : FieldMatch) =>
    ∃ a, parse w.2.toList = some a ∧ m.Faithful a w.1 (d.field w.1))
    (d.kind.fields.zip sources) c.fields

theorem Rule.faithful_of_capture {k : Kind} {r : Rule k} {e : Entry} {d : Declaration}
    {c : Context} (h : r.CompiledFrom e) (hk : d.kind = k) (hc : r.capture d = some c) :
    c.Faithful d r.sources := by
  subst hk
  have hcaptures := h.captures hc
  unfold Entry.Captures at hcaptures
  rw [h.kind, ← h.sources] at hcaptures
  have heach : List.Forall₂ (fun (w : Field × String) (m : FieldMatch) =>
      ∃ a, parse w.2.toList = some a ∧ m.Faithful a w.1 (d.field w.1))
      (d.kind.fields.zip r.sources) c.fields := hcaptures.imp fun w m hm => by
    obtain ⟨p, hp, hm⟩ := hm
    obtain ⟨a, ha, -⟩ := FieldPattern.exists_tree hp
    exact ⟨a, ha, FieldPattern.faithful_of_capture hp ha hm⟩
  refine ⟨?_, heach⟩
  have hlength : r.sources.length = d.kind.fields.length := by
    rw [Rule.sources, List.length_map, r.length_patterns, Kind.arity]
  have hfields : List.Forall₂ (· = ·) ((d.kind.fields.zip r.sources).map (·.1))
      (c.fields.map (·.field)) := by
    rw [List.forall₂_map_left_iff, List.forall₂_map_right_iff]
    refine heach.imp fun w m hm => ?_
    obtain ⟨a, -, hm⟩ := hm
    exact hm.field_eq.symm
  rw [List.map_fst_zip hlength.ge] at hfields
  exact (List.forall₂_eq_eq_eq ▸ hfields :).symm

namespace Ruleset

/-- **Captures are faithful.** A pattern captures from a field if and only if it matches, and what
it captures is told by the groups of its source alone: by their numbers, in the order in which they
open, and by what they hold on a way over the whole field. The context of the rule that a
declaration falls to has such a match for each field of the kind, in order. -/
theorem captures_faithful :
    (∀ (source : String) (p : FieldPattern), FieldPattern.compile source = .ok p →
      ∃ a e, parse source.toList = some a ∧ Pattern.expr source.toList = .ok e ∧ a.Numbered ∧
        ∀ (field : Field) (value : String),
          ((p.capture field value).isSome = true ↔ p.isMatch value = true) ∧
          ∀ m, p.capture field value = some m →
            m.Faithful a field value ∧ m.groups.length = e.groupCount) ∧
    ∀ (R : Ruleset) (c : Compiled) (d : Declaration) (m : Match), R.compile = .ok c →
      (c.resolve d).1 = .ok (some m) →
        ∃ r, (c.database d.kind).table.rules[m.index]? = some r ∧ m.context.Faithful d r.sources := by
  refine ⟨fun source p h => ?_, fun R c d m h hm => ?_⟩
  · obtain ⟨a, ha, hnumbered, -⟩ := FieldPattern.exists_tree h
    obtain ⟨e, -, he, -⟩ := FieldPattern.compile_eq_ok_iff.mp h
    refine ⟨a, e, ha, he, hnumbered, fun field value => ⟨?_, fun m hm => ⟨?_, ?_⟩⟩⟩
    · rw [FieldPattern.isSome_capture]
    · exact FieldPattern.faithful_of_capture h ha hm
    · exact FieldPattern.length_groups_of_capture h he hm
  · rw [Compiled.resolve_fst, Except.ok.injEq] at hm
    obtain ⟨r, hr, hcapture, -, -⟩ := Table.exists_rule_of_firstMatch hm
    have hall := Table.compile_eq_ok_iff.mp (compile_table h d.kind)
    obtain ⟨hi, rfl⟩ := List.getElem?_eq_some_iff.mp hr
    have hfrom := hall.get (hall.length_eq ▸ hi) hi
    exact ⟨_, hr, Rule.faithful_of_capture hfrom rfl hcapture⟩

/-- The second of two branches takes part, and the first does not. -/
theorem captures_faithful_secondBranch : ∃ p a m, FieldPattern.compile "(a)|(b)" = .ok p ∧
    parse "(a)|(b)".toList = some a ∧ p.capture .name "b" = some m ∧
    m.groups = [some "b", none, some "b"] ∧ m.Faithful a .name "b" ∧
    ∃ c mt, (typedefNamed "(a)|(b)").compile = .ok c ∧
      (c.resolve (typedefCalled "b")).1 = .ok (some mt) ∧
      mt.context.Faithful (typedefCalled "b") [RuleFile.wildcard, "(a)|(b)"] := by
  let p : FieldPattern := ⟨"(a)|(b)", .seq (.look .textStart) (.seq (.alt
    (.group 1 none (.chars ⟨[(97, 97)]⟩)) (.group 2 none (.chars ⟨[(98, 98)]⟩)))
    (.look .textEnd)), #[.look .textStart 1, .fork 2 5, .mark 2 3, .take ⟨[(97, 97)]⟩ 4,
      .mark 3 8, .mark 4 6, .take ⟨[(98, 98)]⟩ 7, .mark 5 8, .look .textEnd 9, .accept]⟩
  have hp : FieldPattern.compile "(a)|(b)" = .ok p := by cbv
  have hcapture : (p.capture .name "b").map (·.groups) = some [some "b", none, some "b"] := by cbv
  obtain ⟨m, hm, hgroups⟩ := Option.map_eq_some_iff.mp hcapture
  obtain ⟨a, e, ha, -, -, hfields⟩ := captures_faithful.1 _ p hp
  have hfaithful := ((hfields .name "b").2 m hm).1
  -- The rule that holds the pattern is the first of its table.
  obtain ⟨c, hc⟩ := exists_compile_typedefNamed hp
  have hentries := Table.compile_eq_ok_iff.mp (compile_table hc .typedef)
  have hmatches : Entry.Matches ⟨.typedef, [RuleFile.wildcard, "(a)|(b)"], .discard,
      some (typedefNamed "(a)|(b)").name⟩ (typedefCalled "b") := by
    have hname : FieldPattern.Covers "(a)|(b)" "b" :=
      ⟨p, hp, by rw [← FieldPattern.isSome_capture p .name, hm]; rfl⟩
    exact .cons ((FieldPattern.covers_wildcard_iff _).mpr (by decide)) (.cons hname .nil)
  obtain ⟨context, -, hfirst⟩ := Table.firstMatch_eq_some (i := 0) hentries
    ⟨rfl, hmatches, fun j _ hj => absurd hj (Nat.not_lt_zero j)⟩
  have hresolve : (c.resolve (typedefCalled "b")).1 = .ok (some ⟨0, .discard,
      some (typedefNamed "(a)|(b)").name, context⟩) := by
    rw [Compiled.resolve_fst]
    exact congrArg Except.ok hfirst
  obtain ⟨r, hr, hcontext⟩ := captures_faithful.2 _ c _ _ hc hresolve
  obtain ⟨hi, rfl⟩ := List.getElem?_eq_some_iff.mp hr
  have hsources : ((c.database .typedef).table.rules[0]).sources =
    [RuleFile.wildcard, "(a)|(b)"] := (hentries.get (Nat.zero_lt_succ _) hi).sources
  exact ⟨p, a, m, hp, ha, hm, hgroups, hfaithful, c, _, hc, hresolve, hsources ▸ hcontext⟩

end Ruleset

end DeclRules
