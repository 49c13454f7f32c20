import DeclRules.Files.Tree
import DeclRules.Proofs.Loader.Cycles
import DeclRules.Proofs.Loader.Growth

/-! # One version of every file

A loader answers requests one after the other, and files may be written and removed between them,
so that every request comes with the files as they are at that time (`Request`). A file is loaded
in one request at most (`LoadedIn`), the first in which its loading completes, and what is kept of
it is what it said then, on top of what is kept of the files that it extended
(`supported_of_loadedIn`).

So wherever a file occurs in an answer (`Occurs`) it does so with the one ruleset that is kept of
it. The main statement is `oneVersion`. -/

namespace DeclRules.Loader

open Relation

variable {c : Path}

/-- A request for the ruleset of a path, with the files as they are at that time. -/
structure Request where
  files : FileView
  path : Path

namespace Request

/-- The load that a request asks for. -/
def call (q : Request) (cache : Cache) : Call := ⟨[], q.path, cache⟩

/-- The request is answered with a ruleset, that of the file `c`. -/
def Answers (q : Request) (cache : Cache) (c : Path) (r : Ruleset) : Prop :=
  q.files.canonical q.path = .ok c ∧ ((q.call cache).run q.files).1 = .ok r

/-- During the request the file `c` is loaded completely, for itself or for a file that extends
it, whatever becomes of that one. -/
def Completes (q : Request) (cache : Cache) (c : Path) (r : Ruleset) : Prop :=
  ∃ y, ReflTransGen (Calls q.files) (q.call cache) y ∧ q.files.canonical y.path = .ok c ∧
    (y.run q.files).1 = .ok r

theorem Completes.kept {q : Request} {cache : Cache} {r : Ruleset} (h : q.Completes cache c r) :
    ((q.call cache).run q.files).2.lookup c = some r := by
  obtain ⟨y, hcalls, hc, hy⟩ := h
  obtain ⟨b, hb, hr⟩ := lookup_of_load (Prod.ext hy rfl : y.run q.files = (.ok r, _))
  cases hc.symm.trans hb
  exact kept_of_calls hcalls hr

theorem Answers.completes {q : Request} {cache : Cache} {r : Ruleset} (h : q.Answers cache c r) :
    q.Completes cache c r := ⟨_, .refl, h⟩

end Request

/-- What a loader keeps after requests one after the other. -/
def keptAfter (qs : List Request) : Cache :=
  qs.foldl (fun cache q => ((q.call cache).run q.files).2) []

section Session

variable {qs : List Request} {q : Request} {r r' : Ruleset} {b : Path}

theorem keptAfter_concat (qs : List Request) (q : Request) :
    keptAfter (qs ++ [q]) = ((q.call (keptAfter qs)).run q.files).2 := List.foldl_concat ..

theorem keptAfter_append (h : (keptAfter qs).lookup c = some r) (qs' : List Request) :
    (keptAfter (qs ++ qs')).lookup c = some r := by
  induction qs' using List.reverseRecOn with
  | nil => rwa [List.append_nil]
  | append_singleton qs' q ih =>
    rw [← List.append_assoc, keptAfter_concat]
    exact (load_grows q.files [] q.path _).kept c r ih

/-- The request is the one in which the file was loaded: it was not kept before, but since. -/
def LoadedIn (qs : List Request) (c : Path) (q : Request) : Prop :=
  ∃ before after, qs = before ++ q :: after ∧ (keptAfter before).lookup c = none ∧
    ∃ r, (keptAfter (before ++ [q])).lookup c = some r

theorem exists_loadedIn (h : (keptAfter qs).lookup c = some r) : ∃ q, LoadedIn qs c q := by
  induction qs using List.reverseRecOn generalizing r with
  | nil => cases h
  | append_singleton qs q ih =>
    rcases hc : (keptAfter qs).lookup c with _ | r'
    · exact ⟨q, qs, [], rfl, hc, r, h⟩
    · obtain ⟨q', before, after, rfl, hloaded⟩ := ih hc
      exact ⟨q', before, after ++ [q], by simp, hloaded⟩

/-- What is kept of a file is what the file said when it was loaded, on top of what is kept of the
files that it extended then. -/
theorem supported_of_loadedIn (h : (keptAfter qs).lookup c = some r) (hq : LoadedIn qs c q) :
    Supported q.files (keptAfter qs) c r := by
  obtain ⟨before, after, rfl, hnone, r', hr'⟩ := hq
  have hsplit : before ++ q :: after = (before ++ [q]) ++ after := by simp
  rw [hsplit] at h ⊢
  cases (keptAfter_append hr' after).symm.trans h
  rw [keptAfter_concat] at hr'
  obtain ⟨y, hcalls, hc, hnone', hs, hy⟩ := exists_calls_of_kept hnone hr'
  refine (supported_of_run hc hs hnone' hy).mono fun d P hP => keptAfter_append ?_ after
  rw [keptAfter_concat]
  exact kept_of_calls hcalls hP

/-- In the ruleset of a file, the second of the two pairs, the file `c` occurs with the ruleset
`r`: it is the file itself, or it occurs in the ruleset of a file that was extended by the file when
the file was loaded. -/
inductive Occurs (qs : List Request) (c : Path) (r : Ruleset) : Path → Ruleset → Prop where
  | self : Occurs qs c r c r
  | extended {b : Path} {r' : Ruleset} {q : Request} {f : RuleFile} {p d : Path} {P : Ruleset} :
    LoadedIn qs b q → RuleFile.load q.files b = .ok f → (p, P) ∈ (f.references b).zip r'.parents →
    q.files.canonical p = .ok d → Occurs qs c r d P → Occurs qs c r b r'

/-- Wherever a file occurs, it does so with what is kept of it. -/
theorem Occurs.kept (h : Occurs qs c r b r') (hb : (keptAfter qs).lookup b = some r') :
    (keptAfter qs).lookup c = some r := by
  induction h with
  | self => exact hb
  | extended hq hf hmem hd _ ih =>
    obtain ⟨f', hf', -, hparents⟩ := supported_of_loadedIn hb hq
    cases hf.symm.trans hf'
    obtain ⟨d', hd', hP⟩ := (List.forall₂_iff_zip.mp hparents).2 hmem
    cases hd.symm.trans hd'
    exact ih hP

/-- One gets from the ruleset to the other by going from rulesets to those they extend. -/
abbrev Extends : Ruleset → Ruleset → Prop := ReflTransGen fun r P => P ∈ r.parents

/-- All that what is kept is made of occurs in it as some file. -/
theorem exists_occurs (h : Extends r' r) (hb : (keptAfter qs).lookup b = some r') :
    ∃ c, Occurs qs c r b r' := by
  induction h using ReflTransGen.head_induction_on generalizing b with
  | refl => exact ⟨b, .self⟩
  | head hparent _ ih =>
    obtain ⟨q, hq⟩ := exists_loadedIn hb
    obtain ⟨f, hf, -, hparents⟩ := supported_of_loadedIn hb hq
    obtain ⟨i, hi, rfl⟩ := List.mem_iff_getElem.mp hparent
    have hi' : i < (f.references b).length := hparents.length_eq ▸ hi
    obtain ⟨d, hd, hP⟩ := hparents.get hi' hi
    obtain ⟨c, hc⟩ := ih hP
    have hzip : i < ((f.references b).zip _).length := List.length_zip ▸ Nat.lt_min.mpr ⟨hi', hi⟩
    exact ⟨c, .extended hq hf (List.mem_iff_getElem.mpr ⟨i, hzip, List.getElem_zip⟩) hd hc⟩

/-- What holds of a loader through all its requests. -/
structure OneVersion (qs : List Request) : Prop where
  /-- Once a file was loaded completely, every answer has it with that ruleset wherever the file
  occurs, at the top or among what is extended. -/
  uses : ∀ i j (q q' : Request) (c b : Path) (r₀ r r' : Ruleset), i ≤ j → qs[i]? = some q →
    qs[j]? = some q' → q.Completes (keptAfter (qs.take i)) c r₀ →
    q'.Answers (keptAfter (qs.take j)) b r → Occurs (qs.take (j + 1)) c r' b r → r' = r₀
  /-- An answer is made of rulesets that each occur in it as some file. -/
  occurs : ∀ j (q : Request) (b : Path) (r r' : Ruleset), qs[j]? = some q →
    q.Answers (keptAfter (qs.take j)) b r → Extends r r' →
    ∃ c, Occurs (qs.take (j + 1)) c r' b r
  /-- A request, be it one that fails, changes and removes nothing that was kept. -/
  stays : ∀ i (c : Path) (r : Ruleset), (keptAfter (qs.take i)).lookup c = some r →
    (keptAfter (qs.take (i + 1))).lookup c = some r
  /-- Nor does it add anything but what was loaded completely. -/
  adds : ∀ i (q : Request) (c : Path) (r : Ruleset), qs[i]? = some q →
    (keptAfter (qs.take (i + 1))).lookup c = some r →
    (keptAfter (qs.take i)).lookup c = some r ∨ q.Completes (keptAfter (qs.take i)) c r

/-- **A loader knows one version of every file**, whatever happens to the files between its
requests. -/
theorem oneVersion (qs : List Request) : OneVersion qs := by
  have hnext {i : Nat} {q : Request} (hq : qs[i]? = some q) :
      keptAfter (qs.take (i + 1)) = ((q.call (keptAfter (qs.take i))).run q.files).2 := by
    rw [List.take_add_one, hq]
    exact keptAfter_concat _ q
  have hkept {i : Nat} {q : Request} (hq : qs[i]? = some q) {c : Path} {r : Ruleset}
      (h : q.Completes (keptAfter (qs.take i)) c r) :
      (keptAfter (qs.take (i + 1))).lookup c = some r := hnext hq ▸ h.kept
  have hstays {i j : Nat} (hle : i ≤ j) {c : Path} {r : Ruleset}
      (h : (keptAfter (qs.take i)).lookup c = some r) :
      (keptAfter (qs.take j)).lookup c = some r := by
    rw [← List.take_append_drop i (qs.take j), List.take_take, Nat.min_eq_left hle]
    exact keptAfter_append h _
  refine ⟨?_, ?_, fun i c r h => hstays (Nat.le_succ i) h, ?_⟩
  · intro i j q q' c b r₀ r r' hle hq hq' hcompletes hanswers hoccurs
    have hc := hstays (Nat.succ_le_succ hle) (hkept hq hcompletes)
    exact Option.some.inj ((hoccurs.kept (hkept hq' hanswers.completes)).symm.trans hc)
  · intro j q b r r' hq hanswers hextends
    exact exists_occurs hextends (hkept hq hanswers.completes)
  · intro i q c r hq h
    rcases hnone : (keptAfter (qs.take i)).lookup c with _ | r'
    · rw [hnext hq] at h
      obtain ⟨y, hcalls, hc, -, -, hy⟩ := exists_calls_of_kept hnone h
      exact .inr ⟨y, hcalls, hc, hy⟩
    · cases (hstays (Nat.le_succ i) hnone).symm.trans h
      exact .inl rfl

end Session

section Rewritten

def bareText : String := "ruleset = [\"__\"]"

/-- A rule file without rules. -/
def bareFile : RuleFile where
  name := ⟨"__", by simp [isRulesetName, isNameChar]⟩
  parents := []
  description := none
  rows _ := []

/-- Its ruleset. -/
def bareRuleset : Ruleset where
  name := bareFile.name
  description := none
  parents := []
  rules _ := []

theorem read_bareText : Toml.read bareText = some [("ruleset", .array [.string "__"])] := by
  decide +kernel

theorem decode_bareText : RuleFile.decode [("ruleset", .array [.string "__"])] = .ok bareFile :=
  RuleFile.decode_short (f := bareFile) rfl rfl fun _ => rfl

/-- The file stands by itself. -/
def written : FileTree where
  top := "/r"
  entries := [(["b"], some bareText.toUTF8.data.toList)]

/-- The file now extends itself, and there is a new file that extends it too. -/
def rewritten : FileTree :=
  (written.write "b" endlessText.toUTF8.data.toList).write "a" endlessText.toUTF8.data.toList

theorem load_written :
    load written.view [] "/r/b" [] = (.ok bareRuleset, [("/r/b", bareRuleset)]) := by
  have hc : written.view.canonical "/r/b" = .ok "/r/b" := by cbv
  have htext : written.view.text "/r/b" = .ok bareText := by cbv
  have hf : RuleFile.load written.view "/r/b" = .ok bareFile :=
    RuleFile.load_eq_ok htext read_bareText decode_bareText
  have hall : loadAll written.view ["/r/b"] (bareFile.references "/r/b") [] = (.ok [], []) := by
    rw [show bareFile.references "/r/b" = [] from rfl, loadAll]
  have hr : bareFile.toRuleset [] = .ok bareRuleset :=
    RuleFile.toRuleset_eq_ok_iff.mpr ⟨rfl, rfl, rfl, fun k => rfl⟩
  simp only [load_of_notMem hc List.not_mem_nil, List.lookup_nil, hf, hall, hr]

/-- The ruleset of the new file. -/
def overRewritten : Ruleset where
  name := endlessFile.name
  description := none
  parents := [bareRuleset]
  rules _ := []

theorem canonical_rewritten : rewritten.view.canonical "/r/a" = .ok "/r/a" ∧
    rewritten.view.canonical "/r/b" = .ok "/r/b" := by
  constructor <;> cbv

theorem read_rewritten : RuleFile.load rewritten.view "/r/a" = .ok endlessFile := by
  have htext : rewritten.view.text "/r/a" = .ok endlessText := by cbv
  exact RuleFile.load_eq_ok htext read_endlessText decode_endlessText

theorem references_rewritten : endlessFile.references "/r/a" = ["/r/b"] := by decide

/-- The file that was rewritten is not read again. -/
theorem loadAll_rewritten : loadAll rewritten.view ["/r/a"] ["/r/b"] [("/r/b", bareRuleset)] =
    (.ok [bareRuleset], [("/r/b", bareRuleset)]) := by
  have hload : load rewritten.view ["/r/a"] "/r/b" [("/r/b", bareRuleset)] =
      (.ok bareRuleset, [("/r/b", bareRuleset)]) := by
    rw [load_of_notMem canonical_rewritten.2 (by decide)]
    rfl
  rw [loadAll_cons_of_ok hload, loadAll]
  rfl

theorem load_rewritten : (load rewritten.view [] "/r/a" [("/r/b", bareRuleset)]).1 =
    .ok overRewritten := by
  have hr : endlessFile.toRuleset [bareRuleset] = .ok overRewritten :=
    RuleFile.toRuleset_eq_ok_iff.mpr ⟨rfl, rfl, rfl, fun k => rfl⟩
  have hnone : List.lookup "/r/a" [("/r/b", bareRuleset)] = none := rfl
  simp only [load_of_notMem canonical_rewritten.1 List.not_mem_nil, hnone, read_rewritten,
    references_rewritten, loadAll_rewritten, hr]

/-- The new file is loaded, and the one that was rewritten occurs in it as it was at first. -/
theorem oneVersion_rewritten : ∃ first second : Request,
    first.files = written.view ∧ first.Answers [] "/r/b" bareRuleset ∧
    second.files = rewritten.view ∧ second.Answers (keptAfter [first]) "/r/a" overRewritten ∧
    (∃ r, Occurs [first, second] "/r/b" r "/r/a" overRewritten) ∧
    ∀ r, Occurs [first, second] "/r/b" r "/r/a" overRewritten → r = bareRuleset := by
  let first : Request := ⟨written.view, "/r/b"⟩
  let second : Request := ⟨rewritten.view, "/r/a"⟩
  have hkept : keptAfter [first] = [("/r/b", bareRuleset)] := congrArg Prod.snd load_written
  have hfirst : first.Answers [] "/r/b" bareRuleset :=
    ⟨by cbv, congrArg Prod.fst load_written⟩
  have hsecond : second.Answers (keptAfter [first]) "/r/a" overRewritten :=
    ⟨canonical_rewritten.1, hkept ▸ load_rewritten⟩
  have hnone : (keptAfter [first]).lookup "/r/a" = none := by
    rw [hkept]
    rfl
  have hloaded : LoadedIn [first, second] "/r/a" second :=
    ⟨[first], [], rfl, hnone, overRewritten, hsecond.completes.kept⟩
  have hmem : ("/r/b", bareRuleset) ∈ (endlessFile.references "/r/a").zip overRewritten.parents := by
    rw [references_rewritten]
    exact List.mem_cons_self
  refine ⟨first, second, rfl, hfirst, rfl, hsecond, ⟨bareRuleset, ?_⟩, fun r hr => ?_⟩
  · exact .extended hloaded read_rewritten hmem canonical_rewritten.2 .self
  · exact (oneVersion [first, second]).uses 0 1 first second _ _ _ _ r (Nat.zero_le 1) rfl rfl
      hfirst.completes hsecond hr

end Rewritten

end DeclRules.Loader
