import DeclRules.Proofs.Command.Checked
import DeclRules.Proofs.Report.Rows
import DeclRules.Proofs.RuleFile.Conversion

/-! # What a listing says of applications

The rules of files have standard actions only (`Loader.UnfoldsAll.actions`). The rows that a listing
prints for a compiled ruleset are thus all it takes to know which rule a declaration falls to, where
that rule comes from and whether it discards, at any time and without the ruleset
(`Compiled.Tabulates`). The main statement is `Command.listing_foretells`, on a listing and a check
of the same rules: what is put out has a line for each of the rows and nothing else. -/

namespace DeclRules

/-- All actions in the ruleset are actions that rule files can name. -/
def Ruleset.StandardActions (r : Ruleset) : Prop :=
  ∀ k, ∀ e ∈ r.build k, ∃ a : StandardAction, e.action = a.action

theorem RuleFile.Describes.actions {f : RuleFile} {parents : List Ruleset} {r : Ruleset}
    (h : f.Describes parents r) {k : Kind} {e : Entry} (he : e ∈ r.localEntries k) :
    ∃ a : StandardAction, e.action = a.action := by
  rw [h.localEntries] at he
  obtain ⟨row, -, rfl⟩ := List.mem_map.mp he
  exact ⟨row.action, rfl⟩

namespace Loader

theorem UnfoldsAll.actions {v : FileView} {ps : List Path} {rs : List Ruleset}
    (h : UnfoldsAll v ps rs) : ∀ r ∈ rs, r.StandardActions := by
  induction h with
  | nil => simp
  | cons _ _ _ hr _ ihparents ih =>
    refine List.forall_mem_cons.mpr ⟨fun k e he => ?_, ih⟩
    rw [Ruleset.build_eq, hr.parents] at he
    rcases List.mem_append.mp he with he | he
    · exact hr.actions he
    · obtain ⟨P, hP, he⟩ := List.mem_flatMap.mp he
      exact ihparents P hP k e he

end Loader

namespace Compiled

/-- The rows that a listing has for a kind. -/
def rows (c : Compiled) (k : Kind) : List Usage := (c.database k).usage

/-- The rows of every kind say what becomes of declarations of the kind. -/
structure Tabulates (c : Compiled) : Prop where
  kind : ∀ k, ∀ u ∈ c.rows k, u.kind = k
  /-- Rows are numbered from zero without gaps. -/
  index : ∀ k, (c.rows k).map (·.index) = List.range (c.rows k).length
  /-- A row compiles anew, wherever it is put and whatever it is to do, to the patterns of the rule
  it is about. -/
  recompiles : ∀ (k : Kind) (n : Nat) u, (c.rows k)[n]? = some u → ∀ index a, ∃ r r' : Rule k,
    u.recompile k index a = .ok r ∧ (c.table k).rules[n]? = some r' ∧ r.patterns = r'.patterns
  /-- Whatever was done before, the item of a declaration is as the rows foretell. -/
  process : ∀ ops d it c', (Pass.process d).run (c.afterAll ops) = (.ok it, c') →
    Usage.Foretells (c.rows d.kind) d it
  completes : ∀ ops ds items c', Pass.Completes (c.afterAll ops) ds items c' →
    List.Forall₂ (fun d it => Usage.Foretells (c.rows d.kind) d it) ds items

end Compiled

namespace Ruleset

variable {R : Ruleset} {c : Compiled}

theorem rows_eq (h : R.compile = .ok c) (k : Kind) : ∃ hits, c.rows k =
    Usage.rows k (R.build k) hits :=
  ⟨fun i => UInt64.ofNat ((sinceReset k []).countP (c.finds k i)), usage_afterAll h [] k⟩

theorem tabulates_of_compile (h : R.compile = .ok c) (hactions : R.StandardActions) :
    c.Tabulates := by
  have hentries (k : Kind) := Table.compile_eq_ok_iff.mp (compile_table h k)
  have hforetells {ops : List Operation} {d : Declaration} {it : Item}
      (hit : Pass.itemUnder (c.afterAll ops).table d = .ok it) :
      Usage.Foretells (c.rows d.kind) d it := by
    rw [show (c.afterAll ops).table = c.table from funext (c.sameRules_afterAll ops).table] at hit
    obtain ⟨hits, hrows⟩ := rows_eq h d.kind
    rw [hrows]
    exact Usage.foretells_of_itemUnder (hentries d.kind) (hactions d.kind) hit
  refine ⟨fun k u hu => ?_, fun k => ?_, fun k n u hu index a => ?_,
    fun ops d it c' hrun => ?_, fun ops ds items c' hrun => ?_⟩
  · obtain ⟨hits, hrows⟩ := rows_eq h k
    rw [hrows] at hu
    obtain ⟨w, -, rfl⟩ := List.mem_map.mp hu
    rfl
  · obtain ⟨hits, hrows⟩ := rows_eq h k
    rw [hrows, Usage.map_index_rows]
  · obtain ⟨hits, hrows⟩ := rows_eq h k
    rw [hrows, Usage.getElem?_rows] at hu
    obtain ⟨e, he, rfl⟩ := Option.map_eq_some_iff.mp hu
    obtain ⟨hn, rfl⟩ := List.getElem?_eq_some_iff.mp he
    have hn' : n < (c.table k).rules.length := (hentries k).length_eq ▸ hn
    obtain ⟨r, hr, hpatterns⟩ :=
      Usage.exists_recompile ((hentries k).get hn hn') n (hits n) index a
    exact ⟨r, _, hr, List.getElem?_eq_getElem hn', hpatterns⟩
  · rw [Pass.process_eq] at hrun
    exact hforetells (congrArg Prod.fst hrun)
  · exact (Except.mapM_eq_ok_iff.mp hrun.eq.1).imp fun d it hit => hforetells hit

end Ruleset

namespace Command

variable {w : World} {words words' : List String} {rules : Path} {kind? : Option Kind}
  {colours colours' : Colours} {c : Compiled}

/-- The kinds that are listed. -/
def shown : Option Kind → List Kind
  | some k => [k]
  | none => Kind.all

theorem rulesOf_eq (c : Compiled) (kind? : Option Kind) :
    rulesOf c kind? = (shown kind?).flatMap c.rows := by
  cases kind? with
  | none => rfl
  | some k => simp [rulesOf, shown, Compiled.rows]

/-- What a check says before it comes to the rules. -/
def heading (c : Compiled) : List String :=
  ["Ruleset " ++ c.name.text ++ " is valid"]
    ++ (c.description.map ("  Description: " ++ ·)).toList
    ++ ["  Lineage: " ++ " -> ".intercalate (c.lineage.map (·.text))]

/-- What a check says of a kind with some number of rules. -/
def countLine (k : Kind) (n : Nat) : String := "  " ++ k.text ++ ": " ++ toString n ++ " rules"

theorem description_eq (c : Compiled) :
    description c = heading c ++ Kind.all.map fun k => countLine k (c.rows k).length := by
  have hsize (k : Kind) : (c.rows k).length = (c.database k).size := Database.length_usage _
  simp only [hsize]
  rfl

theorem respond_list (h : parse words = .ok ⟨.list rules kind? .jsonl, colours⟩)
    (hc : w.rules rules = .ok c) : respond w words = {
      exitCode := 0
      output := Report.joinLines (Report.jsonRuleLines "rule" (rulesOf c kind?)) } := by
  refine respond_of_perform_ok h ?_
  simp only [perform, hc]
  rfl

/-- **The listing foretells applications.** For rules that load and compile, the listing is a line
for each row of the kinds it shows, and the check tells the number of rows of every kind. Of every
kind, the rows are numbered in order, compile anew, and say of each declaration that is processed, at
whatever time, which rule it falls to, where that rule comes from and whether it discards. -/
theorem listing_foretells (hlist : parse words = .ok ⟨.list rules kind? .jsonl, colours⟩)
    (hcheck : parse words' = .ok ⟨.check rules, colours'⟩) (hc : w.rules rules = .ok c) :
    c.Tabulates ∧
    (∃ output, respond w words = { exitCode := 0, output } ∧
      Report.Lists "rule" output ((shown kind?).flatMap c.rows)) ∧
    respond w words' = {
      exitCode := 0
      output := Text.ended (heading c ++ Kind.all.map fun k => countLine k (c.rows k).length) } := by
  obtain ⟨R, hR, hcompile⟩ := rules_eq_ok_iff.mp hc
  have hactions : R.StandardActions :=
    (Loader.loadFresh_eq_ok_iff.mp hR).actions R (List.mem_singleton_self R)
  refine ⟨Ruleset.tabulates_of_compile hcompile hactions, ⟨_, respond_list hlist hc, ?_⟩, ?_⟩
  · rw [rulesOf_eq]
    exact Report.lists_jsonRuleLines "rule" _
  · rw [respond_check hcheck hc, description_eq]
    rfl

section Typedefs

open Ruleset (anyTypedef typedefCalled)

/-- The row of the rule, before anything is counted. -/
def typedefUsage : Usage := ⟨.typedef, 0, some anyTypedef.name, [".*", ".*"], "discard", 0⟩

theorem rows_anyTypedef {c : Compiled} (h : anyTypedef.compile = .ok c) (k : Kind) :
    c.rows k = if k = .typedef then [typedefUsage] else [] := by
  have hrows : c.rows k = _ := Ruleset.usage_afterAll h [] k
  rw [hrows]
  cases k <;> rfl

/-- Of a rule of which the file says no more than the action a row is listed, which is the first to
match a typedef. -/
theorem listing_foretells_typedef : ∃ c output, (typedefWorld []).rules "/r" = .ok c ∧
    respond (typedefWorld []) ["list", "--rules", "/r", "-ktypedef", "--format=jsonl"] =
      { exitCode := 0, output } ∧
    Report.Lists "rule" output [typedefUsage] ∧
    (respond (typedefWorld []) ["check", "-r/r"]).output =
      Text.ended (heading c ++ ["  function: 0 rules", "  container: 0 rules",
        "  typedef: 1 rules", "  forward_declaration: 0 rules"]) ∧
    Usage.FirstMatch [typedefUsage] .typedef (typedefCalled "a") 0 := by
  obtain ⟨c, hcompile⟩ := Ruleset.exists_compile_anyTypedef
  have hc : (typedefWorld []).rules "/r" = .ok c :=
    rules_eq_ok_iff.mpr ⟨anyTypedef, loadFresh_typedefFiles, hcompile⟩
  have hlist : parse ["list", "--rules", "/r", "-ktypedef", "--format=jsonl"] =
      .ok ⟨.list "/r" (some .typedef) .jsonl, .auto⟩ := by rfl
  have hcheck : parse ["check", "-r/r"] = .ok ⟨.check "/r", .auto⟩ := by rfl
  obtain ⟨htable, ⟨output, hlisted, hlists⟩, hcounted⟩ := listing_foretells hlist hcheck hc
  have hitem : Pass.itemUnder c.table (typedefCalled "a") = .ok {
      kind := .typedef, container := "", name := "a", disposition := .discarded 0,
      origin := some anyTypedef.name, changed := [], emitted := none } := by
    obtain ⟨context, hm⟩ := Ruleset.firstMatch_anyTypedef hcompile (d := typedefCalled "a")
      (by decide) (by decide)
    change Item.ofMatch _ (.ok ((c.database .typedef).table.firstMatch (typedefCalled "a"))) = _
    rw [hm]
    rfl
  have hforetells := htable.process [] (typedefCalled "a") _ _
    ((Pass.process_eq _ c).trans (Prod.ext hitem rfl))
  rw [show (typedefCalled "a").kind = .typedef from rfl, rows_anyTypedef hcompile] at hforetells
  refine ⟨c, output, hc, hlisted, ?_, ?_, (hforetells.rule_iff 0).mp rfl⟩
  · rwa [shown, List.flatMap_singleton, rows_anyTypedef hcompile] at hlists
  · rw [hcounted]
    simp only [rows_anyTypedef hcompile]
    rfl

end Typedefs

end Command

end DeclRules
