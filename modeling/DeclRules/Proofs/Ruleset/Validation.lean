import DeclRules.Proofs.Rule.Refusal
import DeclRules.Proofs.Ruleset.Repeats

/-! # What compiling a ruleset checks

A ruleset compiles if and only if every rule in force fits the table that it stands in
(`Ruleset.exists_compile_iff`). Otherwise the error is about the first rule that does not, by the
order of the kinds and then by that of the table (`Ruleset.compile_eq_error_iff`), and it names the
ruleset that the rule comes from. What compiles has a rule for each entry, in its place
(`Database.Mirrors`). The main statement is `Ruleset.compile_validates`. -/

namespace DeclRules

/-- The rule that an error is about: its kind, its place in the table and its origin. -/
def ConfigError.rule? : ConfigError → Option (Kind × Nat × Option RulesetName)
  | invalidPattern kind index origin _ _ => some (kind, index, origin)
  | wrongArity kind index origin _ => some (kind, index, origin)
  | foreignRule table _ index origin => some (table, index, origin)
  | _ => none

section Entry

variable {k : Kind} {index : Nat} {e : Entry} {fault : ConfigError}

theorem Rule.Refused.rule?_eq (h : Rule.Refused k index e fault) :
    fault.rule? = some (k, index, e.origin) := by
  cases h with
  | kind | arity => rfl
  | pattern hk => exact hk ▸ rfl

theorem Rule.exists_compile_iff : (∃ r, Rule.compile k index e = .ok r) ↔ e.Fits k := by
  simp only [Rule.compile_eq_ok_iff, Rule.exists_compiledFrom_iff]

/-- What is wrong with an entry is its kind, the number of its patterns or one of them. -/
theorem Entry.not_fits_iff : ¬ e.Fits k ↔ e.kind ≠ k ∨ e.patterns.length ≠ k.arity ∨
    ∃ source ∈ e.patterns, ∃ cause, FieldPattern.compile source = .error cause := by
  constructor
  · intro h
    by_contra hnone
    obtain ⟨hkind, hnone⟩ := not_or.mp hnone
    obtain ⟨harity, hpatterns⟩ := not_or.mp hnone
    refine h ⟨not_not.mp hkind, not_not.mp harity, fun source hs => ?_⟩
    cases hsource : FieldPattern.compile source with
    | ok p => exact ⟨p, rfl⟩
    | error cause => exact absurd ⟨source, hs, cause, hsource⟩ hpatterns
  · rintro (h | h | ⟨source, hs, cause, hcause⟩) hfits
    · exact h hfits.kind
    · exact h hfits.arity
    · obtain ⟨p, hp⟩ := hfits.patterns source hs
      cases hcause.symm.trans hp

/-- A table is refused for the first entry that does not fit. -/
theorem Table.compile_eq_error_iff {es : List Entry} : Table.compile k es = .error fault ↔
    ∃ (i : Nat) (e : Entry), es[i]? = some e ∧
      (∀ (j : Nat) (e' : Entry), j < i → es[j]? = some e' → e'.Fits k) ∧
      Rule.Refused k i e fault := by
  change ((es.zipIdx.mapM fun w => Rule.compile k w.2 w.1) >>= fun rules => pure (⟨rules⟩ : Table k)) =
    .error fault ↔ _
  rw [Except.bind_eq_error_iff, Except.mapM_zipIdx_eq_error_iff]
  simp only [Nat.zero_add, Rule.exists_compile_iff, Rule.compile_eq_error_iff]
  refine or_iff_left ?_
  rintro ⟨rules, -, h⟩
  cases h

end Entry

/-- The table has a rule for each entry, in its place and under its number. -/
structure Database.Mirrors {k : Kind} (db : Database k) (es : List Entry) : Prop where
  length : db.table.rules.length = es.length
  rule : ∀ (i : Nat) e, es[i]? = some e → ∃ r, db.table.rules[i]? = some r ∧
    r.sources = e.patterns ∧ r.action = e.action ∧ r.origin = e.origin
  row : ∀ (i : Nat) e, es[i]? = some e → ∃ hits, db.usage[i]? = some (e.usage k i hits)
  /-- What a declaration falls to is said by the number of the entry. -/
  found : ∀ d m, db.table.firstMatch d = some m → ∃ e, es[m.index]? = some e ∧
    m.action = e.action ∧ m.origin = e.origin

namespace Ruleset

variable {R : Ruleset} {c : Compiled} {k : Kind} {i : Nat} {e : Entry} {fault : ConfigError}

/-- The entry at `i` is the first, in the order of kinds and of the table, that does not fit. -/
structure FirstFault (R : Ruleset) (k : Kind) (i : Nat) (e : Entry) (fault : ConfigError) :
    Prop where
  kinds : ∃ before after, Kind.all = before ++ k :: after ∧
    ∀ k' ∈ before, ∀ e' ∈ R.build k', e'.Fits k'
  entries : ∀ (j : Nat) e', j < i → (R.build k)[j]? = some e' → e'.Fits k
  entry : (R.build k)[i]? = some e
  refused : Rule.Refused k i e fault

/-- An error in compiling is that of the first entry in force that does not fit. -/
theorem compile_eq_error_iff :
    R.compile = .error fault ↔ ∃ k i e, R.FirstFault k i e fault := by
  have hdb (k : Kind) : Database.compile k (R.build k) = .error fault ↔
      Table.compile k (R.build k) = .error fault := by
    simp [Database.compile, Except.bind_eq_error_iff, pure, Except.pure]
  have hok (k : Kind) : (∃ db, Database.compile k (R.build k) = .ok db) ↔
      ∀ e ∈ R.build k, e.Fits k := by
    rw [← Table.exists_compile_iff]
    simp [Database.compile, Except.bind_eq_ok_iff, pure, Except.pure]
  have hcompile : R.compile = .error fault ↔
      PerKind.ofExcept (fun k => Database.compile k (R.build k)) = .error fault := by
    simp [compile, Except.bind_eq_error_iff, pure, Except.pure]
  rw [hcompile, PerKind.ofExcept_eq_error_iff]
  simp only [hdb, hok, Table.compile_eq_error_iff]
  constructor
  · rintro ⟨before, k, after, hall, hbefore, i, e, he, hfirst, hrefused⟩
    exact ⟨k, i, e, ⟨before, after, hall, hbefore⟩, hfirst, he, hrefused⟩
  · rintro ⟨k, i, e, ⟨before, after, hall, hbefore⟩, hfirst, he, hrefused⟩
    exact ⟨before, k, after, hall, hbefore, i, e, he, hfirst, hrefused⟩

/-- An entry in force is an own rule of some ruleset, which is its origin unless it has one. -/
theorem exists_contribution (he : (R.build k)[i]? = some e) :
    ∃ w own, (R.contributions k)[i]? = some w ∧ (w.ruleset.rules k)[w.place]? = some own ∧
      e = own.withOrigin w.ruleset.name := by
  have hlength := (forall₂_contributions k R).length_eq
  obtain ⟨hi, -⟩ := List.getElem?_eq_some_iff.mp he
  have hw := List.getElem?_eq_getElem (hlength ▸ hi)
  rw [getElem?_build hw, Contribution.entry?, localEntries, List.getElem?_map] at he
  obtain ⟨own, hown, rfl⟩ := Option.map_eq_some_iff.mp he
  exact ⟨_, own, hw, hown, rfl⟩

theorem mirrors_of_compile (h : R.compile = .ok c) (k : Kind) :
    (c.database k).Mirrors (R.build k) := by
  have hall := Table.compile_eq_ok_iff.mp (compile_table h k)
  have hrule (i : Nat) (e : Entry) (he : (R.build k)[i]? = some e) :
      ∃ r, (c.database k).table.rules[i]? = some r ∧ r.CompiledFrom e := by
    obtain ⟨hi, rfl⟩ := List.getElem?_eq_some_iff.mp he
    have hi' := hall.length_eq ▸ hi
    exact ⟨_, List.getElem?_eq_getElem hi', hall.get hi hi'⟩
  refine ⟨hall.length_eq.symm, fun i e he => ?_, fun i e he => ?_, fun d m hm => ?_⟩
  · obtain ⟨r, hr, hfrom⟩ := hrule i e he
    exact ⟨r, hr, hfrom.sources, hfrom.action, hfrom.origin⟩
  · obtain ⟨r, hr, hfrom⟩ := hrule i e he
    obtain ⟨hi, -⟩ := List.getElem?_eq_some_iff.mp hr
    have hhits : i < (c.database k).hits.length := (c.database k).length_hits ▸ hi
    refine ⟨(c.database k).hits[i], ?_⟩
    rw [Database.getElem?_usage _ hr (List.getElem?_eq_getElem hhits), hfrom.sources, hfrom.action,
      hfrom.origin, Entry.usage]
  · obtain ⟨r, hr, -, haction, horigin⟩ := Table.exists_rule_of_firstMatch hm
    obtain ⟨hi, -⟩ := List.getElem?_eq_some_iff.mp hr
    have he := List.getElem?_eq_getElem (hall.length_eq ▸ hi : m.index < (R.build k).length)
    obtain ⟨r', hr', hfrom⟩ := hrule _ _ he
    cases hr.symm.trans hr'
    exact ⟨_, he, haction.trans hfrom.action, horigin.trans hfrom.origin⟩

/-- **Compiling checks every rule in force**, wherever it comes from, and reports the first that
does not fit: for its kind, else for the number of its patterns, else for the first of them that
does not compile. -/
theorem compile_validates (R : Ruleset) :
    ((∃ fault, R.compile = .error fault) ↔ ∃ (k : Kind) (i : Nat) (e : Entry),
      (R.build k)[i]? = some e ∧ (e.kind ≠ k ∨ e.patterns.length ≠ k.arity ∨
        ∃ source ∈ e.patterns, ∃ cause, FieldPattern.compile source = .error cause)) ∧
    (∀ fault, R.compile = .error fault ↔ ∃ k i e, R.FirstFault k i e fault) ∧
    (∀ k i e fault, R.FirstFault k i e fault → ∃ w own, (R.contributions k)[i]? = some w ∧
      (w.ruleset.rules k)[w.place]? = some own ∧
      fault.rule? = some (k, i, some (own.origin.getD w.ruleset.name))) ∧
    ∀ c, R.compile = .ok c → ∀ k, (c.database k).Mirrors (R.build k) := by
  refine ⟨?_, fun fault => compile_eq_error_iff, fun k i e fault h => ?_, fun c h k =>
    mirrors_of_compile h k⟩
  · have hfails : (∃ fault, R.compile = .error fault) ↔ ¬ ∃ c, R.compile = .ok c := by
      cases R.compile <;> simp
    rw [hfails, exists_compile_iff]
    push Not
    simp only [Entry.not_fits_iff, List.mem_iff_getElem?]
    constructor
    · rintro ⟨k, e, ⟨i, he⟩, hwrong⟩
      exact ⟨k, i, e, he, hwrong⟩
    · rintro ⟨k, i, e, he, hwrong⟩
      exact ⟨k, e, ⟨i, he⟩, hwrong⟩
  · obtain ⟨w, own, hw, hown, rfl⟩ := exists_contribution h.entry
    exact ⟨w, own, hw, hown, h.refused.rule?_eq⟩

section Short

/-- A typedef rule that lacks a pattern. -/
def shortRule : Ruleset where
  name := ⟨"-_", by simp [isRulesetName, isNameChar]⟩
  description := none
  parents := []
  rules
    | .typedef => [⟨.typedef, [RuleFile.wildcard], .discard, none⟩]
    | _ => []

/-- Has the short rule behind a good one, through a ruleset without rules. -/
def inheritsShort : Ruleset := { anyTypedef with
  parents := [⟨⟨"..", by simp [isRulesetName, isNameChar]⟩, none, [shortRule], fun _ => []⟩] }

/-- The rule at fault is the second in the table, and the error names the ruleset it stands in. -/
theorem compile_validates_short :
    inheritsShort.compile = .error (.wrongArity .typedef 1 (some shortRule.name) 1) ∧
    (∃ w own, (inheritsShort.contributions .typedef)[1]? = some w ∧
      (w.ruleset.rules .typedef)[w.place]? = some own ∧
      (ConfigError.wrongArity .typedef 1 (some shortRule.name) 1).rule? =
        some (.typedef, 1, some (own.origin.getD w.ruleset.name))) ∧
    ∃ c, anyTypedef.compile = .ok c ∧
      (c.database .typedef).Mirrors (anyTypedef.build .typedef) := by
  have hfault : inheritsShort.FirstFault .typedef 1
      ⟨.typedef, [RuleFile.wildcard], .discard, some shortRule.name⟩
      (.wrongArity .typedef 1 (some shortRule.name) 1) := by
    refine ⟨⟨[.function, .container], [.forwardDeclaration], rfl, fun k hk e he => ?_⟩,
      fun j e hj he => ?_, rfl, .arity rfl (by decide)⟩
    · have hnone : inheritsShort.build k = [] := by
        rcases List.mem_pair.mp hk with rfl | rfl <;> rfl
      rw [hnone] at he
      cases he
    · cases Nat.lt_one_iff.mp hj
      cases he
      exact ⟨rfl, rfl, by simp [Entry.withOrigin, FieldPattern.compile_wildcard]⟩
  obtain ⟨c, hc⟩ := exists_compile_anyTypedef
  obtain ⟨-, herror, horigin, -⟩ := compile_validates inheritsShort
  obtain ⟨-, -, -, hmirrors⟩ := compile_validates anyTypedef
  exact ⟨(herror _).mpr ⟨_, _, _, hfault⟩, horigin _ _ _ _ hfault, c, hc, hmirrors c hc .typedef⟩

end Short

end Ruleset

end DeclRules
