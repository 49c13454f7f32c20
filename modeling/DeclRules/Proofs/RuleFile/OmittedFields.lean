import DeclRules.Proofs.RuleFile.Conversion
import DeclRules.Proofs.Ruleset.Layering

/-! # Fields that a rule leaves out

A rule that gives its patterns by field and none for `f` gets the wildcard there
(`Entry.LeavesOut`), and the wildcard covers every text without a line feed. Such a rule matches a
declaration if and only if its other patterns cover their fields and the text of `f` has no line
feed (`Entry.LeavesOut.matches_iff`).

So whether a declaration is matched may depend on a field that no rule mentions, and it does in
exactly one way: where the other patterns cover their fields, all that counts of the text of `f` is
whether there is a line feed in it (`leavesOut_agree_iff`). -/

namespace DeclRules

variable {f : Field} {d d' : Declaration} {e : Entry}

/-- The declarations are of one kind, and no field but `f` that rules of the kind match on tells
them apart. -/
structure Declaration.AgreeBesides (f : Field) (d d' : Declaration) : Prop where
  kind : d.kind = d'.kind
  fields : ∀ g ∈ d.kind.fields, g ≠ f → d.field g = d'.field g

namespace Entry

/-- The entry is one that a rule of a file makes which gives its patterns by field, and none for
the field `f`. The origin is of no account. -/
def LeavesOut (e : Entry) (f : Field) : Prop :=
  ∃ (row : RuleFile.Row) (i : Nat) (e₀ : Entry), row.positional = none ∧ row.named f = none ∧
    row.entry e.kind i = .ok e₀ ∧ e.patterns = e₀.patterns

/-- The patterns for the other fields cover them. -/
def MatchesBesides (f : Field) (e : Entry) (d : Declaration) : Prop :=
  ∀ w ∈ e.kind.fields.zip e.patterns, w.1 ≠ f → FieldPattern.Covers w.2 (d.field w.1)

end Entry

namespace Entry

/-- The entry matches if the patterns it gives cover their fields and the wildcard covers `f`. -/
theorem LeavesOut.matches_iff (h : e.LeavesOut f) (hf : f ∈ e.kind.fields) :
    e.Matches d ↔ e.MatchesBesides f d ∧ '\n' ∉ (d.field f).toList := by
  obtain ⟨row, i, e₀, hp, hnamed, he, hpatterns⟩ := h
  obtain ⟨-, rfl⟩ := RuleFile.Row.entry_eq_ok_iff.mp he
  rw [RuleFile.Row.patterns_made hp] at hpatterns
  have hbesides : e.MatchesBesides f d ↔ ∀ g ∈ e.kind.fields, g ≠ f →
      FieldPattern.Covers ((row.named g).getD RuleFile.wildcard) (d.field g) := by
    rw [MatchesBesides, hpatterns, ← List.map_prod_left_eq_zip]
    simp
  rw [hbesides, Matches, hpatterns, List.forall₂_map_right_iff, List.forall₂_same]
  constructor
  · intro h
    have hcovers := h f hf
    rw [hnamed] at hcovers
    exact ⟨fun g hg _ => h g hg, (FieldPattern.covers_wildcard_iff _).mp hcovers⟩
  · rintro ⟨hothers, hnewline⟩ g hg
    by_cases hgf : g = f
    · rw [hgf, hnamed]
      exact (FieldPattern.covers_wildcard_iff _).mpr hnewline
    · exact hothers g hg hgf

theorem matchesBesides_congr (hk : e.kind = d.kind) (h : d.AgreeBesides f d') :
    e.MatchesBesides f d ↔ e.MatchesBesides f d' := by
  refine forall₂_congr fun w hw => imp_congr_right fun hne => ?_
  rw [h.fields w.1 (hk ▸ (List.of_mem_zip hw).1) hne]

end Entry

/-- Which rule a match is with: its place, its action and where it comes from. -/
def Match.rule (m : Match) : Nat × Action × Option RulesetName := (m.index, m.action, m.origin)

namespace Table

variable {k : Kind} {es : List Entry} {rules : List (Rule k)}

/-- Declarations that the same entries match fall to the same rule. -/
theorem map_rule_firstMatch_congr (h : List.Forall₂ (fun e r => Rule.CompiledFrom r e) es rules)
    (hd : ∀ e ∈ es, (e.Matches d ↔ e.Matches d')) :
    ((⟨rules⟩ : Table k).firstMatch d).map Match.rule =
      ((⟨rules⟩ : Table k).firstMatch d').map Match.rule := by
  by_cases hmatch : ∃ e ∈ es, e.Matches d
  · obtain ⟨i, e, hf⟩ := Entry.exists_firstMatch hmatch
    have hf' : Entry.FirstMatch es d' i e :=
      ⟨hf.getElem, (hd e (List.mem_of_getElem? hf.getElem)).mp hf.covers, fun j e' hj he' hm =>
        hf.first j e' hj he' ((hd e' (List.mem_of_getElem? he')).mpr hm)⟩
    obtain ⟨c, -, hc⟩ := firstMatch_eq_some h hf
    obtain ⟨c', -, hc'⟩ := firstMatch_eq_some h hf'
    rw [hc, hc']
    rfl
  · have hnone : ∀ e ∈ es, ¬ e.Matches d := fun e he hm => hmatch ⟨e, he, hm⟩
    rw [(firstMatch_eq_none_iff h).mpr hnone, (firstMatch_eq_none_iff h).mpr fun e he hm =>
      hnone e he ((hd e he).mpr hm)]

/-- A table of rules that leave a field out sends two declarations that only that field tells
apart to the same rule if and only if none of the rules is for them or the field has a line feed
in both or in neither. -/
theorem map_rule_firstMatch_eq_iff (h : List.Forall₂ (fun e r => Rule.CompiledFrom r e) es rules)
    (hes : ∀ e ∈ es, e.LeavesOut f) (hd : d.kind = k) (hf : f ∈ k.fields)
    (hagree : d.AgreeBesides f d') :
    ((⟨rules⟩ : Table k).firstMatch d).map Match.rule =
        ((⟨rules⟩ : Table k).firstMatch d').map Match.rule ↔
      ((∃ e ∈ es, e.MatchesBesides f d) →
        ('\n' ∈ (d.field f).toList ↔ '\n' ∈ (d'.field f).toList)) := by
  have hkind : ∀ e ∈ es, e.kind = k := fun e he => by
    obtain ⟨i, hi, rfl⟩ := List.mem_iff_getElem.mp he
    exact (h.get hi (h.length_eq ▸ hi)).kind
  have hmatches : ∀ e ∈ es, ∀ d : Declaration,
      (e.Matches d ↔ e.MatchesBesides f d ∧ '\n' ∉ (d.field f).toList) := fun e he _ =>
    (hes e he).matches_iff (hkind e he ▸ hf)
  have hbesides : ∀ e ∈ es, (e.MatchesBesides f d ↔ e.MatchesBesides f d') := fun e he =>
    Entry.matchesBesides_congr ((hkind e he).trans hd.symm) hagree
  constructor
  · rintro heq ⟨e, he, hm⟩
    -- both fall to some rule or both to none, and `e` is there for a text without a line feed
    have hnone : (∀ e ∈ es, ¬ e.Matches d) ↔ ∀ e ∈ es, ¬ e.Matches d' := by
      rw [← firstMatch_eq_none_iff h, ← firstMatch_eq_none_iff h,
        ← Option.map_eq_none_iff (f := Match.rule), heq, Option.map_eq_none_iff]
    constructor
    · intro hnewline
      by_contra hnot
      refine hnone.mp (fun e he hm => ((hmatches e he d).mp hm).2 hnewline) e he ?_
      exact (hmatches e he d').mpr ⟨(hbesides e he).mp hm, hnot⟩
    · intro hnewline
      by_contra hnot
      refine hnone.mpr (fun e he hm => ((hmatches e he d').mp hm).2 hnewline) e he ?_
      exact (hmatches e he d).mpr ⟨hm, hnot⟩
  · intro hnewline
    refine map_rule_firstMatch_congr h fun e he => ?_
    rw [hmatches e he, hmatches e he, ← hbesides e he]
    exact and_congr_right fun hm => not_congr (hnewline ⟨e, he, hm⟩)

end Table

/-- **What a field that is left out counts for.** Let two declarations be told apart by the field
`f` only. A rule that leaves `f` out matches both or neither, and a table of such rules sends both
to the same rule, except where other patterns cover their fields and there is a line feed in the
text of `f` in just one of the two. -/
theorem leavesOut_agree_iff (hf : f ∈ d.kind.fields) (h : d.AgreeBesides f d') :
    (∀ (e : Entry) (index : Nat) (r : Rule d.kind), e.LeavesOut f →
      Rule.compile d.kind index e = .ok r →
      (((r.capture d).isSome ↔ (r.capture d').isSome) ↔
        (e.MatchesBesides f d →
          ('\n' ∈ (d.field f).toList ↔ '\n' ∈ (d'.field f).toList)))) ∧
    ∀ (R : Ruleset) (c : Compiled), R.compile = .ok c →
      (∀ e ∈ R.build d.kind, e.LeavesOut f) →
      (Option.map Match.rule <$> (c.resolve d).1 = Option.map Match.rule <$> (c.resolve d').1 ↔
        ((∃ e ∈ R.build d.kind, e.MatchesBesides f d) →
          ('\n' ∈ (d.field f).toList ↔ '\n' ∈ (d'.field f).toList))) := by
  refine ⟨fun e index r he hr => ?_, fun R c hc hall => ?_⟩
  · have hrule := Rule.compile_eq_ok_iff.mp hr
    have hfields : f ∈ e.kind.fields := hrule.kind ▸ hf
    rw [hrule.isSome_capture_iff, hrule.isSome_capture_iff, he.matches_iff hfields,
      he.matches_iff hfields, ← Entry.matchesBesides_congr hrule.kind h]
    tauto
  · have hentries := Table.compile_eq_ok_iff.mp (Ruleset.compile_table hc d.kind)
    have hd' : (c.resolve d').1 = .ok ((c.database d.kind).table.firstMatch d') := by
      rw [Compiled.resolve_fst, h.kind]
    rw [Compiled.resolve_fst, hd', ← Table.map_rule_firstMatch_eq_iff hentries hall rfl hf h]
    exact ⟨fun heq => Except.ok.inj heq, congrArg Except.ok⟩

section Scope

/-- A typedef in a scope of that name. -/
def typedefIn (scope : String) : Declaration where
  kind := .typedef
  container := scope
  name := "b"

theorem agreeBesides_typedefIn (scope scope' : String) :
    (typedefIn scope).AgreeBesides .container (typedefIn scope') where
  kind := rfl
  fields g hg hne := by
    rcases List.mem_cons.mp hg with rfl | hg
    · exact absurd rfl hne
    · cases List.mem_singleton.mp hg
      rfl

/-- A rule for typedefs that gives no pattern at all. -/
def patternless : Entry := ⟨.typedef, [RuleFile.wildcard, RuleFile.wildcard], .discard, none⟩

theorem leavesOut_patternless : patternless.LeavesOut .container :=
  ⟨⟨fun _ => none, none, .discard⟩, 0, _, rfl, rfl, rfl, rfl⟩

theorem patternless_matches_iff (scope : String) :
    patternless.Matches (typedefIn scope) ↔ '\n' ∉ scope.toList := by
  refine (leavesOut_patternless.matches_iff (List.mem_cons_self)).trans (and_iff_right ?_)
  intro w hw hne
  rcases List.mem_cons.mp hw with rfl | hw
  · exact absurd rfl hne
  · cases List.mem_singleton.mp hw
    exact (FieldPattern.covers_wildcard_iff "b").mpr (by decide)

/-- A rule that leaves the scope out may still match a declaration in one scope and not in
another. -/
theorem not_forall_leavesOut_agree :
    ¬ ∀ (f : Field) (d d' : Declaration) (e : Entry) (index : Nat) (r : Rule d.kind),
      f ∈ d.kind.fields → d.AgreeBesides f d' → e.LeavesOut f →
      Rule.compile d.kind index e = .ok r → ((r.capture d).isSome ↔ (r.capture d').isSome) := by
  intro hagree
  obtain ⟨r, hr⟩ := Rule.exists_compiledFrom_iff (k := .typedef) (e := patternless).mpr
    ⟨rfl, rfl, by simp [patternless, FieldPattern.compile_wildcard]⟩
  have hiff := hagree .container (typedefIn "") (typedefIn "\n") patternless 0 r (by decide)
    (agreeBesides_typedefIn _ _) leavesOut_patternless (Rule.compile_eq_ok_iff.mpr hr)
  have hmatches : patternless.Matches (typedefIn "") :=
    (patternless_matches_iff "").mpr (by decide)
  have hmatches' : patternless.Matches (typedefIn "\n") :=
    hr.isSome_capture_iff.mp (hiff.mp (hr.isSome_capture_iff.mpr hmatches))
  exact (patternless_matches_iff "\n").mp hmatches' (by decide)

/-- A line feed in the name of the scope keeps a typedef from a rule for all typedefs. -/
theorem leavesOut_agree_iff_typedefIn : ∃ c, Ruleset.anyTypedef.compile = .ok c ∧
    Option.map Match.rule <$> (c.resolve (typedefIn "")).1 ≠
      Option.map Match.rule <$> (c.resolve (typedefIn "\n")).1 := by
  obtain ⟨c, hc⟩ := Ruleset.exists_compile_anyTypedef
  have hbuild : Ruleset.anyTypedef.build .typedef =
      [patternless.withOrigin Ruleset.anyTypedef.name] := rfl
  have hall : ∀ e ∈ Ruleset.anyTypedef.build .typedef, e.LeavesOut .container := by
    intro e he
    cases List.mem_singleton.mp (hbuild ▸ he)
    exact leavesOut_patternless
  have hmatches : patternless.Matches (typedefIn "") :=
    (patternless_matches_iff "").mpr (by decide)
  have hbesides : ∃ e ∈ Ruleset.anyTypedef.build .typedef,
      e.MatchesBesides .container (typedefIn "") :=
    ⟨_, List.mem_singleton_self _, ((leavesOut_patternless.matches_iff (by decide)).mp hmatches).1⟩
  have hiff := (leavesOut_agree_iff (d := typedefIn "") (by decide)
    (agreeBesides_typedefIn "" "\n")).2 _ c hc hall
  refine ⟨c, hc, fun heq => ?_⟩
  exact absurd ((hiff.mp heq hbesides).mpr (by decide)) (by decide)

end Scope

end DeclRules
