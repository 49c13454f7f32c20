import DeclRules.Proofs.Command.Stages

/-! # A ruleset that passes the check

What compiles is in order for good (`Compiled.Valid`): it has the rules in force of every kind,
finds the rule for any declaration among the counted rules of its kind, and fails for no other
reason than an edit. This outlasts look-ups and passes, as these only count
(`Compiled.valid_of_compile`). So an application of rules that passed the check fails on the
declarations or on an edit, never on the rules, as long as the files of the rules are kept
(`Command.exitCode_ne_three_of_check`). -/

namespace DeclRules

theorem Table.index_lt_of_firstMatch {k : Kind} {t : Table k} {d : Declaration} {m : Match}
    (h : t.firstMatch d = some m) : m.index < t.size := by
  obtain ⟨r, hr, -⟩ := exists_rule_of_firstMatch h
  exact (List.getElem?_eq_some_iff.mp hr).1

/-- The ruleset is compiled from `R`, whatever was counted since, and nothing can go wrong with it
but an edit. -/
structure Compiled.Valid (R : Ruleset) (c : Compiled) : Prop where
  /-- There is a database for every kind, with the rules in force. -/
  database : ∀ k, Table.compile k (R.build k) = .ok (c.database k).table
  kind : ∀ k, ∀ e ∈ R.build k, e.kind = k
  /-- No declaration comes before the rules of another kind. -/
  resolve : ∀ d, ∃ m, (c.resolve d).1 = .ok m
  index : ∀ d m, (c.resolve d).1 = .ok (some m) → m.index < (c.database d.kind).hits.length
  pass : ∀ ds f, Pass.Fails c ds f → ∃ d e, Pass.FirstFailing c.table ds d e ∧ f = .action e

theorem Compiled.valid_of_compile {R : Ruleset} {c c' : Compiled} (h : R.compile = .ok c)
    (hrules : c'.SameRules c) : c'.Valid R where
  database k := by
    rw [Ruleset.compile_table h k]
    exact congrArg Except.ok (hrules.table k).symm
  kind k e he := (Ruleset.exists_compile_iff.mp ⟨c, h⟩ k e he).kind
  resolve d := ⟨_, c'.resolve_fst d⟩
  index d m hm := by
    rw [(c'.database d.kind).length_hits]
    rw [resolve_fst] at hm
    exact Table.index_lt_of_firstMatch (Except.ok.inj hm)
  pass ds f hf := Pass.fails_iff.mp hf

namespace Command

variable {w : World} {words : List String} {rules : Path} {colours : Colours}

theorem perform_check : perform w ⟨.check rules, colours⟩ =
    ((w.rules rules).mapError .config).map fun c => Report.joinLines (description c) := rfl

theorem respond_check {c : Compiled} (h : parse words = .ok ⟨.check rules, colours⟩)
    (hc : w.rules rules = .ok c) :
    respond w words = { exitCode := 0, output := Report.joinLines (description c) } := by
  refine respond_of_perform_ok h ?_
  rw [perform_check, hc]
  rfl

/-- The check passes if and only if the rules load and compile. -/
theorem exitCode_check_eq_zero_iff (h : parse words = .ok ⟨.check rules, colours⟩) :
    (respond w words).exitCode = 0 ↔
      ∃ R c, Loader.loadFresh w.files rules = .ok R ∧ R.compile = .ok c := by
  constructor
  · intro hexit
    cases hrules : w.rules rules with
    | error e =>
      have hperform : perform w ⟨.check rules, colours⟩ = .error (.config e) := by
        rw [perform_check, hrules]
        rfl
      rw [respond_of_perform_error h hperform] at hexit
      exact absurd hexit (Failure.exitCode_ne_zero _)
    | ok c =>
      obtain ⟨R, hR, hc⟩ := rules_eq_ok_iff.mp hrules
      exact ⟨R, c, hR, hc⟩
  · rintro ⟨R, c, hR, hc⟩
    rw [respond_check h (rules_eq_ok_iff.mpr ⟨R, hR, hc⟩)]

/-- **Rules that pass the check cannot fail as rules.** If the check of a rule file exits with
zero, nothing is wrong with the ruleset that it loads to, and no application of the rules exits
with three, whatever the declarations are and whatever is chosen, while the rule files are kept. -/
theorem exitCode_ne_three_of_check (h : parse words = .ok ⟨.check rules, colours⟩)
    (hexit : (respond w words).exitCode = 0) :
    (∃ R c, Loader.loadFresh w.files rules = .ok R ∧ R.compile = .ok c ∧
      ∀ c' : Compiled, c'.SameRules c → c'.Valid R) ∧
    ∀ w' words' input, w.files.Keeps w'.files rules → Asks words' rules input →
      (respond w' words').exitCode ≠ 3 := by
  obtain ⟨R, c, hR, hc⟩ := (exitCode_check_eq_zero_iff h).mp hexit
  have hvalid (c' : Compiled) (hrules : c'.SameRules c) : c'.Valid R :=
    Compiled.valid_of_compile hc hrules
  refine ⟨⟨R, c, hR, hc, hvalid⟩, fun w' words' input hk hasks => ?_⟩
  have hR' : Loader.loadFresh w'.files rules = .ok R := Loader.loadFresh_of_keeps hR hk
  obtain ⟨c', ds, hs⟩ | ⟨f, n, hf⟩ := succeeds_or_failsAs w' rules input
  · rw [hs.exitCode_respond hasks]
    exact Nat.zero_ne_add_one 2
  · have hn : n ≠ 3 := by
      cases hf with
      | reading h | loading h => cases hR'.symm.trans h
      | compiling hR'' h =>
        cases hR'.symm.trans hR''
        cases hc.symm.trans h
      | opening | input | action => decide
    rw [hf.respond hasks]
    exact hn

section Typedefs

open Json
open Ruleset (anyTypedef)

def checkTypedefs : List String := ["check", "--rules", "/r"]

def applyTypedefs : List String := ["apply", "--rules", "/r", "--format=jsonl", "--report-unused"]

def plainFunction : Declaration := { kind := .function, name := "f" }

def functionLine : Bytes := Bytes.ofText "[\"function\",\"\",\"f\"]"

/-- A line with a typedef, which the rule is for, and one with a function, which no rule is for. -/
def twoLines : Bytes := Declaration.openLine ++ 0x0A :: functionLine

def twoDeclarations : List Declaration := [Declaration.openTypedef, plainFunction]

theorem holds_twoLines : Declaration.Holds twoLines twoDeclarations := by
  have hnormal : plainFunction.normalize = plainFunction := rfl
  have hread : decodeText Declaration.decode "[\"function\",\"\",\"f\"]" = .ok plainFunction := by
    cbv
  have hfunction : Declaration.Says functionLine (some plainFunction) :=
    hnormal ▸ .record (Declaration.decodeText_eq_ok_iff.mp hread)
  have hsplits : Bytes.Splits twoLines [Declaration.openLine.dropReturn, functionLine] :=
    .line (by decide) (.last (by decide) (by decide))
  exact ⟨rfl, _, _, .whole hsplits,
    .cons Declaration.says_openLine.dropReturn (.cons hfunction .nil), rfl⟩

theorem succeeds_twoLines {c : Compiled} (hc : anyTypedef.compile = .ok c) :
    Succeeds (typedefWorld twoLines) "/r" "-" c twoDeclarations := by
  let d := Declaration.openTypedef
  let f := plainFunction
  obtain ⟨context, htypedef⟩ : ∃ context, (c.table d.kind).firstMatch d = some ⟨0, _, _, context⟩ :=
    Ruleset.firstMatch_anyTypedef hc (by decide) (by decide)
  have hfunction : (c.table f.kind).firstMatch f = none :=
    Ruleset.firstMatch_anyTypedef_of_ne hc (by decide)
  have hitems : twoDeclarations.mapM (Pass.itemUnder c.table) = .ok _ :=
    Except.mapM_eq_ok_iff.mpr (.cons (Pass.itemUnder_of_discard htypedef rfl)
      (.cons (Pass.itemUnder_of_unmatched hfunction) .nil))
  exact ⟨⟨_, loadFresh_typedefFiles, hc⟩, ⟨_, .standard, holds_twoLines⟩,
    Pass.exists_mapM_itemUnder_iff.mp ⟨_, hitems⟩⟩

/-- The check passes. The ruleset is then in order with both declarations counted, and it is not for
the rules that an application to them could fail. -/
theorem exitCode_ne_three_of_check_typedefs : ∃ c, anyTypedef.compile = .ok c ∧
    (respond (typedefWorld []) checkTypedefs).exitCode = 0 ∧
    Succeeds (typedefWorld twoLines) "/r" "-" c twoDeclarations ∧
    (c.askedAll (twoDeclarations.map Declaration.query)).Valid anyTypedef ∧
    (respond (typedefWorld twoLines) applyTypedefs).exitCode ≠ 3 := by
  have hcheck : parse checkTypedefs = .ok ⟨.check "/r", .auto⟩ := by rfl
  have happly : Asks applyTypedefs "/r" "-" := ⟨.jsonl, false, true, false, .auto, by rfl⟩
  obtain ⟨c, hc⟩ := Ruleset.exists_compile_anyTypedef
  have hexit : (respond (typedefWorld []) checkTypedefs).exitCode = 0 :=
    (exitCode_check_eq_zero_iff hcheck).mpr ⟨_, c, loadFresh_typedefFiles, hc⟩
  obtain ⟨⟨R, c', hR, hc', hvalid⟩, hne⟩ := exitCode_ne_three_of_check hcheck hexit
  cases loadFresh_typedefFiles.symm.trans hR
  cases hc.symm.trans hc'
  exact ⟨c, hc, hexit, succeeds_twoLines hc, hvalid _ (c.sameRules_askedAll _),
    hne _ _ "-" (.refl typedefFiles "/r") happly⟩

end Typedefs

end Command

end DeclRules
