import DeclRules.Command.Run
import DeclRules.Files.View
import DeclRules.Proofs.Declaration.Input
import DeclRules.Proofs.Loader.Unchanged
import DeclRules.Proofs.Pass.Failing
import DeclRules.Proofs.Pass.Usage
import DeclRules.Proofs.Rule.Refusal
import DeclRules.Proofs.RuleFile.ShortForm

/-! # All of an application or nothing

An application loads a ruleset, compiles it, reads declarations and takes them through a pass. It
succeeds if all stages do (`Command.Succeeds`), and else fails with the first that does not, which
also decides the exit code (`Command.FailsAs`). Declarations are read from what is opened
(`Command.Opens`), or cannot be read because nothing is (`Command.CannotOpen`), or because of what
the input holds (`Command.declarations_eq_error_iff`). Neither outcome depends on the choices for
the report or on the order of the pass. The main statement is `Command.allOrNothing_respond`: only
an application that succeeds puts out anything. -/

namespace DeclRules

/-- A rule file cannot be reached or not be read. -/
inductive ConfigError.OfReading : ConfigError → Prop
  | unreachable (path : Path) (fault : Fault) : OfReading (.unreachable path fault)
  | unreadable (fault : Fault) : OfReading (.unreadable fault)

namespace Failure

variable {e : ConfigError}

theorem exitCode_ne_zero (f : Failure) : f.exitCode ≠ 0 := by
  unfold exitCode
  split <;> exact Nat.succ_ne_zero _

theorem exitCode_of_ofReading (h : e.OfReading) : (config e).exitCode = 2 := by
  cases h <;> rfl

theorem exitCode_of_not_ofReading (h : ¬ e.OfReading) : (config e).exitCode = 3 := by
  cases e with
  | unreachable path fault => exact absurd (.unreachable path fault) h
  | unreadable fault => exact absurd (.unreadable fault) h
  | _ => rfl

end Failure

/-- What a rule is refused for is no matter of reading files. -/
theorem Rule.Refused.not_ofReading {k : Kind} {index : Nat} {e : Entry} {c : ConfigError}
    (h : Rule.Refused k index e c) : ¬ c.OfReading := by
  intro hc
  cases h <;> cases hc

namespace Report

end Report

namespace Command

/-- What declarations are to be read from, standard input or a file. -/
inductive Opens (w : World) : Path → Input → Prop
  | standard : Opens w "-" w.input
  | file {path c : Path} {source : Input} (hpath : path ≠ "-")
    (hc : w.files.canonical path = .ok c) (h : w.files.opened c = .ok source) : Opens w path source

/-- There is nothing to read from, as the path leads nowhere or to what cannot be opened. -/
inductive CannotOpen (w : World) (path : Path) : Fault → Prop
  | unreachable {fault : Fault} (hpath : path ≠ "-") (h : w.files.canonical path = .error fault) :
    CannotOpen w path fault
  | unopened {c : Path} {fault : Fault} (hpath : path ≠ "-") (hc : w.files.canonical path = .ok c)
    (h : w.files.opened c = .error fault) : CannotOpen w path fault

/-- All stages of an application succeed: there is a ruleset `c`, there are declarations, and of
none of them the rewrite fails. -/
structure Succeeds (w : World) (rules input : Path) (c : Compiled) (ds : List Declaration) :
    Prop where
  compiles : ∃ R, Loader.loadFresh w.files rules = .ok R ∧ R.compile = .ok c
  declarations : ∃ source, Opens w input source ∧ Declaration.Holds source ds
  rewrites : ∀ d ∈ ds, ∀ e, ¬ RewriteFails c.table d e

/-- The first stage of an application that fails, by the failure and the exit code. -/
inductive FailsAs (w : World) (rules input : Path) : Failure → Nat → Prop
  | reading {e : ConfigError} (h : Loader.loadFresh w.files rules = .error e) (he : e.OfReading) :
    FailsAs w rules input (.config e) 2
  | loading {e : ConfigError} (h : Loader.loadFresh w.files rules = .error e) (he : ¬ e.OfReading) :
    FailsAs w rules input (.config e) 3
  | compiling {R : Ruleset} {e : ConfigError} (hR : Loader.loadFresh w.files rules = .ok R)
    (h : R.compile = .error e) : FailsAs w rules input (.config e) 3
  | opening {R : Ruleset} {c : Compiled} {fault : Fault}
    (hR : Loader.loadFresh w.files rules = .ok R) (hc : R.compile = .ok c)
    (h : CannotOpen w input fault) : FailsAs w rules input (.unopened fault) 2
  | input {R : Ruleset} {c : Compiled} {source : Input} {e : InputError}
    (hR : Loader.loadFresh w.files rules = .ok R) (hc : R.compile = .ok c)
    (hsource : Opens w input source) (h : Declaration.Fails source e) :
    FailsAs w rules input (.input e) 2
  | action {R : Ruleset} {c : Compiled} {source : Input} {ds : List Declaration} {d : Declaration}
    {e : ActionError} (hR : Loader.loadFresh w.files rules = .ok R) (hc : R.compile = .ok c)
    (hsource : Opens w input source) (hds : Declaration.Holds source ds)
    (h : Pass.FirstFailing c.table ds d e) : FailsAs w rules input (.action e) 4

section Stages

variable {w : World} {words : List String} {i : Invocation} {rules input : Path} {format : Format}
  {parallel reportUnused hideUnmatched : Bool} {colours : Colours}

theorem respond_of_perform_ok {output : String} (h : parse words = .ok i)
    (hi : perform w i = .ok output) : respond w words = { exitCode := 0, output } := by
  simp only [respond, h, hi]

theorem respond_of_perform_error {f : Failure} (h : parse words = .ok i)
    (hi : perform w i = .error f) :
    respond w words = { exitCode := f.exitCode, failure := some f } := by
  simp only [respond, h, hi]

theorem rules_eq_ok_iff {c : Compiled} : w.rules rules = .ok c ↔
    ∃ R, Loader.loadFresh w.files rules = .ok R ∧ R.compile = .ok c := Except.bind_eq_ok_iff

theorem rules_eq_error_iff {e : ConfigError} : w.rules rules = .error e ↔
    Loader.loadFresh w.files rules = .error e ∨
      ∃ R, Loader.loadFresh w.files rules = .ok R ∧ R.compile = .error e :=
  Except.bind_eq_error_iff

theorem opened_eq_ok_iff {source : Input} : w.opened input = .ok source ↔ Opens w input source := by
  unfold World.opened
  constructor
  · intro h
    split at h
    · rename_i hpath
      cases h
      exact hpath ▸ .standard
    · rename_i hpath
      obtain ⟨c, hc, h⟩ := Except.bind_eq_ok_iff.mp h
      exact .file hpath hc h
  · intro h
    cases h with
    | standard => exact if_pos rfl
    | file hpath hc h =>
      rw [if_neg hpath]
      exact Except.bind_eq_ok_iff.mpr ⟨_, hc, h⟩

theorem opened_eq_error_iff {fault : Fault} :
    w.opened input = .error fault ↔ CannotOpen w input fault := by
  unfold World.opened
  constructor
  · intro h
    split at h
    · cases h
    · rename_i hpath
      obtain h | ⟨c, hc, h⟩ := Except.bind_eq_error_iff.mp h
      · exact .unreachable hpath h
      · exact .unopened hpath hc h
  · intro h
    cases h with
    | unreachable hpath h =>
      rw [if_neg hpath]
      exact Except.bind_eq_error_iff.mpr (.inl h)
    | unopened hpath hc h =>
      rw [if_neg hpath]
      exact Except.bind_eq_error_iff.mpr (.inr ⟨_, hc, h⟩)

/-- The declarations are those that what is opened holds. -/
theorem declarations_eq_ok_iff {ds : List Declaration} : w.declarations input = .ok ds ↔
    ∃ source, Opens w input source ∧ Declaration.Holds source ds := by
  simp only [World.declarations, Except.bind_eq_ok_iff, Except.mapError_eq_ok_iff,
    opened_eq_ok_iff, Declaration.readInput_eq_ok_iff]

/-- There are no declarations if nothing can be opened, or if what is opened cannot be read. -/
theorem declarations_eq_error_iff {f : Failure} : w.declarations input = .error f ↔
    (∃ fault, CannotOpen w input fault ∧ .unopened fault = f) ∨
      ∃ source e, Opens w input source ∧ Declaration.Fails source e ∧ .input e = f := by
  simp only [World.declarations, Except.bind_eq_error_iff, Except.mapError_eq_error_iff,
    Except.mapError_eq_ok_iff, opened_eq_ok_iff, opened_eq_error_iff,
    Declaration.readInput_eq_error_iff, exists_and_left]

/-- How the declarations are taken does not show in what a pass gives. -/
theorem pass_eq (parallel : Bool) (c : Compiled) (ds : List Declaration) : pass parallel c ds =
    (ds.mapM (Pass.itemUnder c.table), c.askedAll (ds.map Declaration.query)) := by
  cases parallel with
  | false => exact Pass.run_eq ds c
  | true => exact Pass.runScheduled_eq ds _ c

/-- What is reported on: the items of a pass and the ruleset after it. -/
def applied (w : World) (rules input : Path) : Except Failure (List Item × Compiled) := do
  let c ← (w.rules rules).mapError .config
  let ds ← w.declarations input
  let items ← ds.mapM (Pass.itemUnder c.table)
  return (items, c.askedAll (ds.map Declaration.query))

theorem perform_apply : perform w
    ⟨.apply rules input format parallel reportUnused hideUnmatched, colours⟩ =
      (applied w rules input).map fun p =>
        passReport format (w.colours colours) reportUnused hideUnmatched p.1 p.2 := by
  unfold perform applied
  simp only [pass_eq]
  cases (w.rules rules).mapError Failure.config with
  | error f => rfl
  | ok c =>
    cases w.declarations input with
    | error f => rfl
    | ok ds =>
      change (ds.mapM (Pass.itemUnder c.table) >>= _) =
        (ds.mapM (Pass.itemUnder c.table) >>= _ : Except _ _).map _
      cases ds.mapM (Pass.itemUnder c.table) <;> rfl

theorem Succeeds.applied {c : Compiled} {ds : List Declaration} (h : Succeeds w rules input c ds) :
    ∃ items c', Pass.Completes c ds items c' ∧
      Command.applied w rules input = .ok (items, c') := by
  obtain ⟨items, hitems⟩ := Pass.exists_mapM_itemUnder_iff.mpr h.rewrites
  have hrules : (w.rules rules).mapError Failure.config = .ok c :=
    Except.mapError_eq_ok_iff.mpr (rules_eq_ok_iff.mpr h.compiles)
  refine ⟨items, _, .inl ((Pass.run_eq ds c).trans (Prod.ext hitems rfl)), ?_⟩
  exact Except.bind_eq_ok_iff.mpr ⟨c, hrules, Except.bind_eq_ok_iff.mpr
    ⟨ds, declarations_eq_ok_iff.mpr h.declarations,
      Except.bind_eq_ok_iff.mpr ⟨items, hitems, rfl⟩⟩⟩

theorem FailsAs.applied {f : Failure} {n : Nat} (h : FailsAs w rules input f n) :
    Command.applied w rules input = .error f := by
  have hrules {R : Ruleset} {c : Compiled} (hR : Loader.loadFresh w.files rules = .ok R)
      (hc : R.compile = .ok c) : (w.rules rules).mapError Failure.config = .ok c :=
    Except.mapError_eq_ok_iff.mpr (rules_eq_ok_iff.mpr ⟨R, hR, hc⟩)
  refine Except.bind_eq_error_iff.mpr ?_
  cases h with
  | reading h | loading h =>
    exact .inl (Except.mapError_eq_error_iff.mpr ⟨_, rules_eq_error_iff.mpr (.inl h), rfl⟩)
  | compiling hR h =>
    exact .inl (Except.mapError_eq_error_iff.mpr
      ⟨_, rules_eq_error_iff.mpr (.inr ⟨_, hR, h⟩), rfl⟩)
  | opening hR hc h =>
    refine .inr ⟨_, hrules hR hc, Except.bind_eq_error_iff.mpr (.inl ?_)⟩
    exact declarations_eq_error_iff.mpr (.inl ⟨_, h, rfl⟩)
  | input hR hc hsource h =>
    refine .inr ⟨_, hrules hR hc, Except.bind_eq_error_iff.mpr (.inl ?_)⟩
    exact declarations_eq_error_iff.mpr (.inr ⟨_, _, hsource, h, rfl⟩)
  | action hR hc hsource hds h =>
    refine .inr ⟨_, hrules hR hc, Except.bind_eq_error_iff.mpr (.inr
      ⟨_, declarations_eq_ok_iff.mpr ⟨_, hsource, hds⟩, ?_⟩)⟩
    exact Except.bind_eq_error_iff.mpr (.inl (Pass.mapM_itemUnder_eq_error_iff.mpr ⟨_, _, h, rfl⟩))

theorem FailsAs.exitCode_eq {f : Failure} {n : Nat} (h : FailsAs w rules input f n) :
    f.exitCode = n := by
  cases h with
  | reading _ he => exact Failure.exitCode_of_ofReading he
  | loading _ he => exact Failure.exitCode_of_not_ofReading he
  | compiling _ h =>
    obtain ⟨_, _, _, -, hrefused⟩ := Ruleset.exists_of_compile_eq_error h
    exact Failure.exitCode_of_not_ofReading hrefused.not_ofReading
  | opening | input | action => rfl

/-- The stages are gone through up to the first that fails. -/
theorem succeeds_or_failsAs (w : World) (rules input : Path) :
    (∃ c ds, Succeeds w rules input c ds) ∨ ∃ f n, FailsAs w rules input f n := by
  cases hR : Loader.loadFresh w.files rules with
  | error e =>
    by_cases he : e.OfReading
    · exact .inr ⟨_, _, .reading hR he⟩
    · exact .inr ⟨_, _, .loading hR he⟩
  | ok R =>
    cases hc : R.compile with
    | error e => exact .inr ⟨_, _, .compiling hR hc⟩
    | ok c =>
      cases hds : w.declarations input with
      | error f =>
        obtain ⟨fault, h, -⟩ | ⟨source, e, hsource, h, -⟩ := declarations_eq_error_iff.mp hds
        · exact .inr ⟨_, _, .opening hR hc h⟩
        · exact .inr ⟨_, _, .input hR hc hsource h⟩
      | ok ds =>
        obtain ⟨source, hsource, hheld⟩ := declarations_eq_ok_iff.mp hds
        cases hitems : ds.mapM (Pass.itemUnder c.table) with
        | error f =>
          obtain ⟨d, e, hd, rfl⟩ := Pass.mapM_itemUnder_eq_error_iff.mp hitems
          exact .inr ⟨_, _, .action hR hc hsource hheld hd⟩
        | ok items =>
          exact .inl ⟨c, ds, ⟨R, hR, hc⟩, ⟨source, hsource, hheld⟩,
            Pass.exists_mapM_itemUnder_iff.mp ⟨items, hitems⟩⟩

theorem FailsAs.unique {f f' : Failure} {n n' : Nat} (h : FailsAs w rules input f n)
    (h' : FailsAs w rules input f' n') : f = f' ∧ n = n' := by
  have hf : f = f' := Except.error.inj (h.applied.symm.trans h'.applied)
  exact ⟨hf, by rw [← h.exitCode_eq, ← h'.exitCode_eq, hf]⟩

end Stages

section Respond

variable {w : World} {words : List String} {rules input : Path} {format : Format}
  {parallel reportUnused hideUnmatched : Bool} {colours : Colours}

/-- The words ask for an application of the rules to the input, with whatever choices. -/
def Asks (words : List String) (rules input : Path) : Prop :=
  ∃ format parallel reportUnused hideUnmatched colours, parse words =
    .ok ⟨.apply rules input format parallel reportUnused hideUnmatched, colours⟩

section

variable (h : parse words =
  .ok ⟨.apply rules input format parallel reportUnused hideUnmatched, colours⟩)
include h

theorem respond_of_applied_ok {items : List Item} {c : Compiled}
    (ha : applied w rules input = .ok (items, c)) : respond w words = {
      exitCode := 0
      output := passReport format (w.colours colours) reportUnused hideUnmatched items c } := by
  refine respond_of_perform_ok h ?_
  rw [perform_apply, ha]
  rfl

theorem respond_of_applied_error {f : Failure} (ha : applied w rules input = .error f) :
    respond w words = { exitCode := f.exitCode, failure := some f } := by
  refine respond_of_perform_error h ?_
  rw [perform_apply, ha]
  rfl

end

theorem Succeeds.exitCode_respond {c : Compiled} {ds : List Declaration}
    (hs : Succeeds w rules input c ds) (h : Asks words rules input) :
    (respond w words).exitCode = 0 := by
  obtain ⟨_, _, _, _, _, h⟩ := h
  obtain ⟨_, _, -, ha⟩ := hs.applied
  rw [respond_of_applied_ok h ha]

theorem FailsAs.respond {f : Failure} {n : Nat} (hf : FailsAs w rules input f n)
    (h : Asks words rules input) :
    Command.respond w words = { exitCode := n, failure := some f } := by
  obtain ⟨_, _, _, _, _, h⟩ := h
  rw [respond_of_applied_error h hf.applied, hf.exitCode_eq]

section Typedefs

open Ruleset (anyTypedef)

def typedefText : String := "ruleset = [\"_\"]\n[[typedef]]\naction = \"discard\""

def typedefMembers : List (String × Toml.Value) := [
  ("ruleset", .array [.string "_"]),
  ("typedef", .array [.table [("action", .string "discard")]])]

/-- A rule without patterns. -/
def typedefRow : RuleFile.Row where
  named f := List.lookup f []
  positional := none
  action := .discard

def typedefFile : RuleFile where
  name := anyTypedef.name
  parents := []
  description := none
  rows k := ([(Kind.typedef, [typedefRow])].lookup k).getD []

theorem read_typedefText : Toml.read typedefText = some typedefMembers := by decide +kernel

theorem decode_typedefMembers : RuleFile.decode typedefMembers = .ok typedefFile :=
  RuleFile.decode_short (f := typedefFile) rfl rfl fun _ => rfl

def typedefFiles : FileView := Snapshot.view {
  paths := [("/r", .ok "/r")]
  contents := [("/r", .ok typedefText.toUTF8.data.toList)] }

theorem loadFresh_typedefFiles : Loader.loadFresh typedefFiles "/r" = .ok anyTypedef := by
  have htext : typedefFiles.text "/r" = .ok typedefText := by decide +kernel
  have hload := RuleFile.load_eq_ok htext read_typedefText decode_typedefMembers
  have hdescribes : typedefFile.Describes [] anyTypedef :=
    ⟨rfl, rfl, rfl, fun k => by cases k <;> rfl⟩
  exact Loader.loadFresh_eq_ok_iff.mpr (.cons rfl hload .nil hdescribes .nil)

/-- The rule file, and some standard input. -/
def typedefWorld (input : Bytes) : World := { files := typedefFiles, input }

end Typedefs

end Respond

end Command

end DeclRules
