import DeclRules.Proofs.Loader.Cache

/-! # What a ruleset is loaded from

A file that loads is loaded from what it says itself, from the files it reaches and from where the
paths lead that these extend. In a view that keeps all this (`FileView.Keeps`) it loads to the same
ruleset, whatever else there is (`Loader.loadFresh_of_keeps`). -/

namespace DeclRules

/-- The file of a path, and all that it reaches, are in `v'` as they are in `v`. -/
structure FileView.Keeps (v v' : FileView) (p : Path) : Prop where
  canonical : v'.canonical p = v.canonical p
  bytes : ∀ c b, v.canonical p = .ok c → v.Reaches c b → v'.bytes b = v.bytes b
  references : ∀ c b f q, v.canonical p = .ok c → v.Reaches c b → RuleFile.load v b = .ok f →
    q ∈ f.references b → v'.canonical q = v.canonical q

namespace FileView.Keeps

variable {v v' : FileView} {p c : Path}

theorem refl (v : FileView) (p : Path) : v.Keeps v p :=
  ⟨rfl, fun _ _ _ _ => rfl, fun _ _ _ _ _ _ _ _ => rfl⟩

/-- The file says what it said. -/
theorem load (h : v.Keeps v' p) (hc : v.canonical p = .ok c) :
    RuleFile.load v' c = RuleFile.load v c := by
  unfold RuleFile.load FileView.text
  rw [h.bytes c c hc .refl]

/-- The paths that a file extends are kept where the file is. -/
theorem extended (h : v.Keeps v' p) (hc : v.canonical p = .ok c) {f : RuleFile}
    (hf : RuleFile.load v c = .ok f) {q : Path} (hq : q ∈ f.references c) : v.Keeps v' q where
  canonical := h.references c c f q hc .refl hf hq
  bytes _ b' hb hreach := h.bytes c b' hc (.head ⟨f, q, hf, hq, hb⟩ hreach)
  references _ b' f' q' hb hreach :=
    h.references c b' f' q' hc (.head ⟨f, q, hf, hq, hb⟩ hreach)

end FileView.Keeps

namespace Loader

variable {v v' : FileView} {p : Path} {r : Ruleset}

theorem UnfoldsAll.keeps {ps : List Path} {rs : List Ruleset} (h : UnfoldsAll v ps rs)
    (hk : ∀ p ∈ ps, v.Keeps v' p) : UnfoldsAll v' ps rs := by
  induction h with
  | nil => exact .nil
  | @cons p c f parents r ps rs hc hf hparents hr hrest ihparents ih =>
    have hp := hk p List.mem_cons_self
    refine .cons (hp.canonical.trans hc) ((hp.load hc).trans hf) ?_ hr ?_
    · exact ihparents fun q hq => hp.extended hc hf hq
    · exact ih fun q hq => hk q (List.mem_cons_of_mem p hq)

theorem loadFresh_eq_ok_iff : loadFresh v p = .ok r ↔ UnfoldsAll v [p] [r] := by
  have hplain : loadFresh v p = plain v [] p := (load_eq_plain .nil _ .nil).1
  rw [hplain, unfoldsAll_iff, List.forall₂_cons, and_iff_left .nil]
  constructor
  · exact unfolds_of_plain
  · rintro ⟨c, hc, hr⟩
    exact plain_of_unfolds .nil hc hr

/-- What loads goes on to load to the same ruleset where its files are kept. -/
theorem loadFresh_of_keeps (h : loadFresh v p = .ok r) (hk : v.Keeps v' p) :
    loadFresh v' p = .ok r := by
  refine loadFresh_eq_ok_iff.mpr ((loadFresh_eq_ok_iff.mp h).keeps fun q hq => ?_)
  cases List.mem_singleton.mp hq
  exact hk

end Loader

end DeclRules
