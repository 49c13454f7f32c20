import DeclRules.Proofs.Loader.Cache

/-! # What loading adds to what is kept

What is kept only grows (`load_grows`): nothing that is kept is replaced, and nothing is kept of
the files on the stack before they are loaded. A load calls others, for the files that are extended
(`Calls`). A file that one of them loads completely is kept, also if the calling load fails in the
end (`kept_of_calls`), and no file is kept for any other reason (`exists_calls_of_kept`). What is
kept of a file stands on what is kept of the files it extends (`supported_of_run`). -/

namespace DeclRules.Loader

open Relation

variable {v : FileView} {stack : List Path} {p c : Path}

/-- Keeping one more file replaces nothing. -/
theorem lookup_cons_of_none {cache : Cache} (hnone : cache.lookup c = none) (r : Ruleset) {b : Path}
    {r' : Ruleset} (hb : cache.lookup b = some r') : List.lookup b ((c, r) :: cache) = some r' := by
  have hne : b ≠ c := by
    rintro rfl
    cases hb.symm.trans hnone
  rw [List.lookup_cons, beq_false_of_ne hne]
  exact hb

/-- What was kept is kept as it was, and nothing more is kept of the files on the stack. -/
structure Grows (stack : List Path) (cache cache' : Cache) : Prop where
  kept : ∀ c r, cache.lookup c = some r → cache'.lookup c = some r
  stack : ∀ c ∈ stack, cache'.lookup c = cache.lookup c

namespace Grows

variable {cache cache₁ cache₂ : Cache}

theorem refl (stack : List Path) (cache : Cache) : Grows stack cache cache :=
  ⟨fun _ _ h => h, fun _ _ => rfl⟩

theorem trans (h₁ : Grows stack cache cache₁) (h₂ : Grows stack cache₁ cache₂) :
    Grows stack cache cache₂ where
  kept c r h := h₂.kept c r (h₁.kept c r h)
  stack c hc := (h₂.stack c hc).trans (h₁.stack c hc)

theorem pop (h : Grows (c :: stack) cache cache₁) : Grows stack cache cache₁ where
  kept := h.kept
  stack b hb := h.stack b (List.mem_cons_of_mem c hb)

/-- The file on top of the stack can be kept once it is taken off. -/
theorem complete (h : Grows (c :: stack) cache cache₁) (hs : c ∉ stack)
    (hnone : cache.lookup c = none) (r : Ruleset) : Grows stack cache ((c, r) :: cache₁) where
  kept b r' hb :=
    lookup_cons_of_none ((h.stack c List.mem_cons_self).trans hnone) r (h.kept b r' hb)
  stack b hb := by
    rw [List.lookup_cons, beq_false_of_ne (ne_of_mem_of_not_mem hb hs)]
    exact h.pop.stack b hb

end Grows

section LoadAll

variable {cache cache₁ : Cache} {ps : List Path}

theorem loadAll_cons_of_error {e : ConfigError} (h : load v stack p cache = (.error e, cache₁)) :
    loadAll v stack (p :: ps) cache = (.error e, cache₁) := by
  rw [loadAll, h]

theorem loadAll_cons_of_ok {r : Ruleset} (h : load v stack p cache = (.ok r, cache₁)) :
    loadAll v stack (p :: ps) cache =
      ((loadAll v stack ps cache₁).1.map (r :: ·), (loadAll v stack ps cache₁).2) := by
  rw [loadAll, h]
  rcases hrest : loadAll v stack ps cache₁ with ⟨e | rs, cache₂⟩ <;> simp only [hrest] <;> rfl

theorem loadAll_grows_of (h : ∀ p ∈ ps, ∀ cache, Grows stack cache (load v stack p cache).2)
    (cache : Cache) : Grows stack cache (loadAll v stack ps cache).2 := by
  induction ps generalizing cache with
  | nil =>
    rw [loadAll]
    exact .refl stack cache
  | cons p ps ih =>
    have hp := h p List.mem_cons_self cache
    have hps := ih fun q hq => h q (List.mem_cons_of_mem p hq)
    rcases hload : load v stack p cache with ⟨e | r, cache₁⟩ <;> rw [hload] at hp
    · rw [loadAll_cons_of_error hload]
      exact hp
    · rw [loadAll_cons_of_ok hload]
      exact hp.trans (hps cache₁)

end LoadAll

/-- A file that can be read is loaded once the files that it extends are, or not at all. -/
theorem load_of_read {cache cache₁ : Cache} {f : RuleFile} {out : Except ConfigError (List Ruleset)}
    (hc : v.canonical p = .ok c) (hs : c ∉ stack) (hkept : cache.lookup c = none)
    (hf : RuleFile.load v c = .ok f)
    (hall : loadAll v (c :: stack) (f.references c) cache = (out, cache₁)) :
    (∃ e, load v stack p cache = (.error e, cache₁)) ∨
      ∃ parents r, out = .ok parents ∧ f.Describes parents r ∧
        load v stack p cache = (.ok r, (c, r) :: cache₁) := by
  simp only [load_of_notMem hc hs, hkept, hf, hall]
  rcases out with e | parents
  · exact .inl ⟨e, rfl⟩
  · rcases hr : f.toRuleset parents with e | r
    · exact .inl ⟨e, by simp only [hr]⟩
    · exact .inr ⟨parents, r, rfl, RuleFile.toRuleset_eq_ok_iff.mp hr, by simp only [hr]⟩

/-- Loading keeps what is kept. -/
theorem load_grows (v : FileView) (stack : List Path) (p : Path) (cache : Cache) :
    Grows stack cache (load v stack p cache).2 := by
  induction stack, p using plain.induct v generalizing cache with
  | case1 stack p fault hc =>
    rw [load_of_error hc]
    exact .refl stack cache
  | case2 stack p c hc hmem =>
    rw [load_of_mem hc hmem]
    exact .refl stack cache
  | case3 stack p c hc hmem ih =>
    rcases hkept : cache.lookup c with _ | r
    · rcases hf : RuleFile.load v c with e | f
      · rw [load_of_notMem hc hmem, hkept, hf]
        exact .refl stack cache
      · have hgrows : Grows (c :: stack) cache (loadAll v (c :: stack) (f.references c) cache).2 :=
          loadAll_grows_of (fun q _ => ih q) cache
        obtain ⟨e, hload⟩ | ⟨parents, r, -, -, hload⟩ := load_of_read hc hmem hkept hf rfl
        · rw [hload]
          exact hgrows.pop
        · rw [hload]
          exact hgrows.complete hmem hkept r
    · rw [load_of_notMem hc hmem, hkept]
      exact .refl stack cache

theorem loadAll_grows (v : FileView) (stack ps : List Path) (cache : Cache) :
    Grows stack cache (loadAll v stack ps cache).2 :=
  loadAll_grows_of (fun p _ => load_grows v stack p) cache

/-- What a path was loaded to is kept of its file. -/
theorem lookup_of_load {cache cache₁ : Cache} {r : Ruleset}
    (h : load v stack p cache = (.ok r, cache₁)) :
    ∃ c, v.canonical p = .ok c ∧ cache₁.lookup c = some r := by
  rcases hc : v.canonical p with fault | c
  · cases (load_of_error hc cache).symm.trans h
  refine ⟨c, rfl, ?_⟩
  by_cases hmem : c ∈ stack
  · cases (load_of_mem hc hmem cache).symm.trans h
  rcases hkept : cache.lookup c with _ | r'
  · rcases hf : RuleFile.load v c with e | f
    · rw [load_of_notMem hc hmem, hkept, hf] at h
      cases h
    · obtain ⟨e, hload⟩ | ⟨parents, r', -, -, hload⟩ := load_of_read hc hmem hkept hf rfl
      · cases hload.symm.trans h
      · cases hload.symm.trans h
        exact List.lookup_cons_self
  · rw [load_of_notMem hc hmem, hkept] at h
    cases h
    exact hkept

/-- A load that is under way: what is being loaded, the path, and what is kept. -/
structure Call where
  stack : List Path
  path : Path
  cache : Cache

/-- What the load comes to, and what is kept then. -/
def Call.run (v : FileView) (x : Call) : Except ConfigError Ruleset × Cache :=
  load v x.stack x.path x.cache

/-- The load `x` comes to a path that its file extends, once those before it are loaded. -/
inductive Calls (v : FileView) (x : Call) : Call → Prop where
  | extended {c : Path} {f : RuleFile} {before after : List Path} {q : Path} {rs : List Ruleset}
    {cache : Cache} : v.canonical x.path = .ok c → c ∉ x.stack → x.cache.lookup c = none →
    RuleFile.load v c = .ok f → f.references c = before ++ q :: after →
    loadAll v (c :: x.stack) before x.cache = (.ok rs, cache) → Calls v x ⟨c :: x.stack, q, cache⟩

section Calls

variable {x y : Call} {cache cache₁ : Cache} {ps before after : List Path} {q : Path}
  {rs : List Ruleset}

/-- What is kept once one of several files is loaded is kept in the end. -/
theorem loadAll_grows_from (h : loadAll v stack before cache = (.ok rs, cache₁)) :
    Grows stack (load v stack q cache₁).2 (loadAll v stack (before ++ q :: after) cache).2 := by
  induction before generalizing cache rs with
  | nil =>
    rw [loadAll] at h
    cases h
    rw [List.nil_append]
    rcases hload : load v stack q cache₁ with ⟨e | r, cache₂⟩
    · rw [loadAll_cons_of_error hload]
      exact .refl stack cache₂
    · rw [loadAll_cons_of_ok hload]
      exact loadAll_grows v stack after cache₂
  | cons p before ih =>
    rcases hload : load v stack p cache with ⟨e | r, cache₂⟩
    · cases (loadAll_cons_of_error hload).symm.trans h
    · rw [loadAll_cons_of_ok hload] at h
      rcases hrest : loadAll v stack before cache₂ with ⟨e | rs', cache₃⟩ <;> rw [hrest] at h
      · cases h
      · cases h
        rw [List.cons_append, loadAll_cons_of_ok hload]
        exact ih hrest

/-- What is kept after a load is kept after the load that called it, even if that one fails. -/
theorem Calls.kept (h : Calls v x y) {b : Path} {r : Ruleset}
    (hy : (y.run v).2.lookup b = some r) : (x.run v).2.lookup b = some r := by
  obtain @⟨c, f, before, after, q, rs, cache, hc, hs, hnone, hf, hrefs, hbefore⟩ := h
  have hall := loadAll_grows v (c :: x.stack) (f.references c) x.cache
  have hb : (loadAll v (c :: x.stack) (f.references c) x.cache).2.lookup b = some r := by
    rw [hrefs]
    exact (loadAll_grows_from hbefore).kept b r hy
  unfold Call.run
  obtain ⟨e, hload⟩ | ⟨parents, r', -, -, hload⟩ := load_of_read hc hs hnone hf rfl <;> rw [hload]
  · exact hb
  · exact lookup_cons_of_none ((hall.stack c List.mem_cons_self).trans hnone) r' hb

theorem kept_of_calls (h : ReflTransGen (Calls v) x y) {b : Path} {r : Ruleset}
    (hy : (y.run v).2.lookup b = some r) : (x.run v).2.lookup b = some r := by
  induction h using ReflTransGen.head_induction_on with
  | refl => exact hy
  | head hcall _ ih => exact hcall.kept ih

/-- What is new after several files is new after one of them. -/
theorem exists_of_loadAll_kept {b : Path} {r : Ruleset} (hnone : cache.lookup b = none)
    (h : (loadAll v stack ps cache).2.lookup b = some r) :
    ∃ before q after rs cache₁, ps = before ++ q :: after ∧
      loadAll v stack before cache = (.ok rs, cache₁) ∧ cache₁.lookup b = none ∧
      (load v stack q cache₁).2.lookup b = some r := by
  induction ps generalizing cache with
  | nil =>
    rw [loadAll] at h
    cases hnone.symm.trans h
  | cons p ps ih =>
    have hnil : loadAll v stack [] cache = (.ok [], cache) := by rw [loadAll]
    rcases hload : load v stack p cache with ⟨e | r', cache₁⟩
    · rw [loadAll_cons_of_error hload] at h
      exact ⟨[], p, ps, [], cache, rfl, hnil, hnone, by rwa [hload]⟩
    · rw [loadAll_cons_of_ok hload] at h
      rcases hb : cache₁.lookup b with _ | r₁
      · obtain ⟨before, q, after, rs, cache₂, rfl, hbefore, hnone', hq⟩ := ih hb h
        refine ⟨p :: before, q, after, r' :: rs, cache₂, rfl, ?_, hnone', hq⟩
        rw [loadAll_cons_of_ok hload, hbefore]
        rfl
      · -- the first file brought it in, and it stays
        have hstays := (loadAll_grows v stack ps cache₁).kept b r₁ hb
        cases hstays.symm.trans h
        exact ⟨[], p, ps, [], cache, rfl, hnil, hnone, by rwa [hload]⟩

/-- What is new after a load was loaded completely, by itself or for a file that extends it. -/
theorem exists_calls_of_kept {b : Path} {r : Ruleset} (hnone : x.cache.lookup b = none)
    (h : (x.run v).2.lookup b = some r) : ∃ y, ReflTransGen (Calls v) x y ∧
      v.canonical y.path = .ok b ∧ y.cache.lookup b = none ∧ b ∉ y.stack ∧ (y.run v).1 = .ok r := by
  obtain ⟨stack, p, cache⟩ := x
  unfold Call.run at h
  dsimp only at hnone h
  induction stack, p using plain.induct v generalizing cache with
  | case1 stack p fault hc =>
    rw [load_of_error hc] at h
    cases hnone.symm.trans h
  | case2 stack p c hc hmem =>
    rw [load_of_mem hc hmem] at h
    cases hnone.symm.trans h
  | case3 stack p c hc hmem ih =>
    rcases hkept : cache.lookup c with _ | r'
    · rcases hf : RuleFile.load v c with e | f
      · rw [load_of_notMem hc hmem, hkept, hf] at h
        cases hnone.symm.trans h
      · have hextended (hb : (loadAll v (c :: stack) (f.references c) cache).2.lookup b = some r) :
            ∃ y, ReflTransGen (Calls v) ⟨stack, p, cache⟩ y ∧ v.canonical y.path = .ok b ∧
              y.cache.lookup b = none ∧ b ∉ y.stack ∧ (y.run v).1 = .ok r := by
          obtain ⟨before, q, after, rs, cache₁, hrefs, hbefore, hnone', hq⟩ :=
            exists_of_loadAll_kept hnone hb
          obtain ⟨y, hy, hrest⟩ := ih q cache₁ hnone' hq
          exact ⟨y, .head (.extended hc hmem hkept hf hrefs hbefore) hy, hrest⟩
        obtain ⟨e, hload⟩ | ⟨parents, r', -, -, hload⟩ := load_of_read hc hmem hkept hf rfl
        · rw [hload] at h
          exact hextended h
        · by_cases hbc : b = c
          · subst hbc
            rw [hload, List.lookup_cons_self] at h
            cases h
            exact ⟨⟨stack, p, cache⟩, .refl, hc, hkept, hmem, congrArg Prod.fst hload⟩
          · rw [hload, List.lookup_cons, beq_false_of_ne hbc] at h
            exact hextended h
    · rw [load_of_notMem hc hmem, hkept] at h
      cases hnone.symm.trans h

end Calls

/-- The ruleset says what the file says, on top of what is kept of the files that it extends. -/
def Supported (v : FileView) (cache : Cache) (c : Path) (r : Ruleset) : Prop :=
  ∃ f, RuleFile.load v c = .ok f ∧ f.Describes r.parents r ∧
    List.Forall₂ (fun q P => ∃ d, v.canonical q = .ok d ∧ cache.lookup d = some P)
      (f.references c) r.parents

theorem Supported.mono {cache cache₁ : Cache} {r : Ruleset} (h : Supported v cache c r)
    (hle : ∀ d P, cache.lookup d = some P → cache₁.lookup d = some P) :
    Supported v cache₁ c r := by
  obtain ⟨f, hf, hr, hparents⟩ := h
  exact ⟨f, hf, hr, hparents.imp fun q P ⟨d, hd, hP⟩ => ⟨d, hd, hle d P hP⟩⟩

theorem forall₂_of_loadAll {cache cache₁ : Cache} {ps : List Path} {rs : List Ruleset}
    (h : loadAll v stack ps cache = (.ok rs, cache₁)) :
    List.Forall₂ (fun q P => ∃ d, v.canonical q = .ok d ∧ cache₁.lookup d = some P) ps rs := by
  induction ps generalizing cache rs with
  | nil =>
    rw [loadAll] at h
    cases h
    exact .nil
  | cons p ps ih =>
    rcases hload : load v stack p cache with ⟨e | r, cache₂⟩
    · cases (loadAll_cons_of_error hload).symm.trans h
    · obtain ⟨c, hc, hr⟩ := lookup_of_load hload
      have hgrows := loadAll_grows v stack ps cache₂
      rw [loadAll_cons_of_ok hload] at h
      rcases hrest : loadAll v stack ps cache₂ with ⟨e | rs', cache₃⟩ <;> rw [hrest] at h hgrows
      · cases h
      · cases h
        exact .cons ⟨c, hc, hgrows.kept c r hr⟩ (ih hrest)

/-- A file that was read and loaded is supported by what is kept then. -/
theorem supported_of_run {x : Call} {r : Ruleset} (hc : v.canonical x.path = .ok c)
    (hs : c ∉ x.stack) (hnone : x.cache.lookup c = none) (h : (x.run v).1 = .ok r) :
    Supported v (x.run v).2 c r := by
  unfold Call.run at h ⊢
  rcases hf : RuleFile.load v c with e | f
  · rw [load_of_notMem hc hs, hnone, hf] at h
    cases h
  have hgrows := loadAll_grows v (c :: x.stack) (f.references c) x.cache
  rcases hall : loadAll v (c :: x.stack) (f.references c) x.cache with ⟨out, cache₁⟩
  rw [hall] at hgrows
  obtain ⟨e, hload⟩ | ⟨parents, r', rfl, hr', hload⟩ := load_of_read hc hs hnone hf hall
  · rw [hload] at h
    cases h
  · rw [hload] at h ⊢
    cases h
    cases hr'.parents
    refine ⟨f, hf, hr', (forall₂_of_loadAll hall).imp fun q P ⟨d, hd, hP⟩ => ⟨d, hd, ?_⟩⟩
    exact lookup_cons_of_none ((hgrows.stack c List.mem_cons_self).trans hnone) r hP

end DeclRules.Loader
