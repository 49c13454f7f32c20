import DeclRules.Files.View
import DeclRules.Proofs.Loader.Cache
import DeclRules.Proofs.Loader.Lineage
import DeclRules.Proofs.RuleFile.ShortForm

/-! # Only a circle keeps usable files from loading

A file is usable if it can be read, has valid rules only and extends paths that lead somewhere
(`FileView.Usable`). When all files that are reached from a file are usable, the loader can fail in
one way only: the trail of files that are being loaded comes back to a file on it
(`exists_trail_of_plain_error`). What it then reports is a circle (`Trail.circle`), so a file loads
exactly when it reaches no file that reaches itself. -/

namespace DeclRules

open Relation

/-- A file that does not fail by itself. -/
def FileView.Usable (v : FileView) (b : Path) : Prop :=
  ∃ f, RuleFile.load v b = .ok f ∧ (∀ k, ∃ es, f.entries k = .ok es) ∧
    ∀ q ∈ f.references b, ∃ d, v.canonical q = .ok d

/-- Files that lead back to the first of them, each extending the next. -/
structure FileView.Circle (v : FileView) (chain : List Path) : Prop where
  long : 2 ≤ chain.length
  closed : chain.head? = chain.getLast?
  nodup : chain.dropLast.Nodup
  refers : chain.IsChain v.Refers

namespace Loader

variable {v : FileView} {stack : List Path} {p c : Path}

/-- The way back is the part of the stack above the file, from the bottom to the top. -/
theorem circle_append {l rest : List Path} (hl : c ∉ l) :
    circle (l ++ c :: rest) c = c :: (l.reverse ++ [c]) := by
  unfold circle
  rw [List.takeWhile_append_of_pos fun a ha => by simpa using ne_of_mem_of_not_mem ha hl,
    List.takeWhile_cons_of_neg (by simp), List.append_nil]

/-- What is reported when a trail comes back to a file on it is a circle. -/
theorem Trail.circle (h : Trail v stack p) (hc : v.canonical p = .ok c) (hs : c ∈ stack) :
    v.Circle (Loader.circle stack c) := by
  obtain ⟨l, rest, rfl, hl⟩ := List.eq_append_cons_of_mem hs
  rw [circle_append hl]
  have hchain : (c :: (l ++ [c])).IsChain fun b a => v.Refers a b := by
    have hstack : c :: (l ++ c :: rest) = (c :: (l ++ [c])) ++ rest := by simp
    exact (hstack ▸ h.refers c hc).left_of_append
  have hlnodup : l.Nodup := (List.nodup_append.mp h.nodup).1
  constructor
  · simp
  · rw [← List.cons_append, List.getLast?_concat, List.head?_append]
    rfl
  · rw [← List.cons_append, List.dropLast_concat]
    exact List.nodup_cons.mpr ⟨by simpa using hl, l.reverse_perm.nodup_iff.mpr hlnodup⟩
  · have hrev : c :: (l.reverse ++ [c]) = (c :: (l ++ [c])).reverse := by simp
    rw [hrev, List.isChain_reverse]
    exact hchain

/-- Where all files are usable, loading fails only when a trail comes back to a file on it. -/
theorem exists_trail_of_plain_error {a : Path} (hu : ∀ b, v.Reaches a b → v.Usable b)
    (h : Trail v stack p) (hc : v.canonical p = .ok c) (hreach : v.Reaches a c) {e : ConfigError}
    (he : plain v stack p = .error e) : ∃ stack' q b, Trail v stack' q ∧ v.canonical q = .ok b ∧
      b ∈ stack' ∧ v.Reaches a b ∧ e = .cycle (circle stack' b) := by
  induction stack, p using plain.induct v generalizing c with
  | case1 stack p fault hfault => cases hc.symm.trans hfault
  | case2 stack p b hb hmem =>
    cases hc.symm.trans hb
    rw [plain_of_mem hc hmem] at he
    cases he
    exact ⟨stack, p, b, h, hc, hmem, hreach, rfl⟩
  | case3 stack p b hb hmem ih =>
    cases hc.symm.trans hb
    obtain ⟨f, hf, hentries, hrefs⟩ := hu b hreach
    rw [plain_of_notMem hc hmem, hf] at he
    replace he : (f.references b).mapM (plain v (b :: stack)) >>= f.toRuleset = .error e := he
    rcases Except.bind_eq_error_iff.mp he with he | ⟨parents, -, he⟩
    · obtain ⟨q, hq, he⟩ := Except.exists_of_mapM_eq_error he
      obtain ⟨d, hd⟩ := hrefs q hq
      exact ih q (h.push hc hmem hf hq) hd (hreach.tail ⟨f, q, hf, hq, hd⟩) he
    · obtain ⟨r, hr⟩ : ∃ r, f.toRuleset parents = .ok r :=
        RuleFile.exists_toRuleset_iff.mpr hentries
      cases he.symm.trans hr

/-- Suppose that all files that a path leads to and that are reached from there are usable.
A fresh loader loads the path if and only if none of them reaches itself. What it loads is the
unfolding of the file, whose lineage lists the files in which the walks from it end; and when it
fails, it reports a circle among those files. -/
theorem loadFresh_ok_iff_acyclic (hc : v.canonical p = .ok c)
    (hu : ∀ b, v.Reaches c b → v.Usable b) :
    ((∃ r, loadFresh v p = .ok r) ↔ ∀ b, v.Reaches c b → ¬ TransGen v.Refers b b) ∧
    (∀ r, loadFresh v p = .ok r → Unfolds v c r ∧ Preorder v (v.Walk c) r.lineage) ∧
    ∀ e, loadFresh v p = .error e →
      ∃ chain, e = .cycle chain ∧ v.Circle chain ∧ ∀ b ∈ chain, v.Reaches c b := by
  have hplain : loadFresh v p = plain v [] p := (load_eq_plain .nil _ .nil).1
  have hok : ∀ r, loadFresh v p = .ok r → Unfolds v c r := fun r hr => by
    obtain ⟨b, hb, hunfolds⟩ := unfolds_of_plain (hplain.symm.trans hr)
    cases hc.symm.trans hb
    exact hunfolds
  have herr : ∀ e, loadFresh v p = .error e → ∃ stack q b, Trail v stack q ∧
      v.canonical q = .ok b ∧ b ∈ stack ∧ v.Reaches c b ∧ e = .cycle (circle stack b) := fun e he =>
    exists_trail_of_plain_error hu .nil hc .refl (hplain.symm.trans he)
  refine ⟨⟨?_, fun hacyclic => ?_⟩, fun r hr => ⟨hok r hr, (hok r hr).preorder⟩, fun e he => ?_⟩
  · rintro ⟨r, hr⟩ b hb
    exact not_transGen_of_acc (hok r hr).acc hb
  · rcases hload : loadFresh v p with e | r
    · obtain ⟨stack, q, b, htrail, hb, hs, hreach, -⟩ := herr e hload
      exact absurd (htrail.transGen hb hs) (hacyclic b hreach)
    · exact ⟨r, rfl⟩
  · obtain ⟨stack, q, b, htrail, hb, hs, hreach, rfl⟩ := herr e he
    have hcircle := htrail.circle hb hs
    refine ⟨_, rfl, hcircle, fun d hd => ?_⟩
    rcases List.mem_cons.mp hd with rfl | hd
    · exact hreach
    · exact hreach.trans (transGen_of_isChain hcircle.refers hd).to_reflTransGen

section Endless

def endlessText : String := "ruleset = [\".\", [\"b\"]]"

/-- What both files say, in the short form in which a head has no keys. -/
def endlessFile : RuleFile where
  name := ⟨".", by simp [isRulesetName, isNameChar]⟩
  parents := ["b"]
  description := none
  rows _ := []

/-- A file that extends itself, and a file beside it that extends it too. -/
def endless : FileView := Snapshot.view {
  paths := [("/a", .ok "/a"), ("/b", .ok "/b")]
  contents := [("/a", .ok endlessText.toUTF8.data.toList),
    ("/b", .ok endlessText.toUTF8.data.toList)] }

theorem read_endlessText :
    Toml.read endlessText = some [("ruleset", .array [.string ".", .array [.string "b"]])] := by
  decide +kernel

theorem decode_endlessText :
    RuleFile.decode [("ruleset", .array [.string ".", .array [.string "b"]])] =
      .ok endlessFile :=
  RuleFile.decode_short (f := endlessFile) rfl rfl fun _ => rfl

theorem load_endless {b : Path} (hb : b = "/a" ∨ b = "/b") :
    RuleFile.load endless b = .ok endlessFile := by
  have htext : endless.text b = .ok endlessText := by
    rcases hb with rfl | rfl <;> decide +kernel
  exact RuleFile.load_eq_ok htext read_endlessText decode_endlessText

theorem references_endless {b : Path} (hb : b = "/a" ∨ b = "/b") :
    endlessFile.references b = ["/b"] := by
  rcases hb with rfl | rfl <;> decide

theorem reaches_endless {b : Path} (h : endless.Reaches "/a" b) : b = "/a" ∨ b = "/b" := by
  induction h with
  | refl => exact .inl rfl
  | tail _ hrefers ih =>
    obtain ⟨f, q, hf, hq, hd⟩ := hrefers
    cases (load_endless ih).symm.trans hf
    rw [references_endless ih] at hq
    cases List.mem_singleton.mp hq
    cases hd
    exact .inr rfl

theorem usable_endless {b : Path} (hb : b = "/a" ∨ b = "/b") : endless.Usable b := by
  refine ⟨endlessFile, load_endless hb, fun k => ⟨[], rfl⟩, fun q hq => ?_⟩
  rw [references_endless hb] at hq
  cases List.mem_singleton.mp hq
  exact ⟨"/b", rfl⟩

/-- The circle does not go through the file that is asked for. -/
theorem loadFresh_ok_iff_acyclic_endless : (∀ b, endless.Reaches "/a" b → endless.Usable b) ∧
    ∃ chain, loadFresh endless "/a" = .error (.cycle chain) ∧ endless.Circle chain := by
  have husable : ∀ b, endless.Reaches "/a" b → endless.Usable b := fun b hb =>
    usable_endless (reaches_endless hb)
  have hrefers {b : Path} (hb : b = "/a" ∨ b = "/b") : endless.Refers b "/b" :=
    ⟨endlessFile, "/b", load_endless hb, by simp [references_endless hb], rfl⟩
  obtain ⟨hiff, -, herr⟩ := loadFresh_ok_iff_acyclic (p := "/a") (c := "/a") rfl husable
  refine ⟨husable, ?_⟩
  rcases hload : loadFresh endless "/a" with e | r
  · obtain ⟨chain, rfl, hcircle, -⟩ := herr e hload
    exact ⟨chain, rfl, hcircle⟩
  · exact absurd (.single (hrefers (.inr rfl)))
      (hiff.mp ⟨r, hload⟩ "/b" (.single (hrefers (.inl rfl))))

end Endless

end Loader

end DeclRules
