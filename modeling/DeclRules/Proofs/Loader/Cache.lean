import DeclRules.Proofs.Loader.Unfolding

/-! # Keeping what has been loaded changes no answer

`plain` loads like `load`, but keeps nothing. The two agree (`load_eq_plain`) as long as every
ruleset that is kept is the unfolding of its file (`Sound`) and the files on the stack form a trail
of references that leads to the path in question (`Trail`). The stack matters to `plain` only by
the circles it detects, and a file that is kept reaches no file on the stack: it would reach itself.

Loading keeps `Sound`, whether it succeeds or fails, so a loader answers every path as a fresh one
does (`load_kept_eq_loadFresh`). -/

namespace DeclRules.Loader

open Relation

variable {v : FileView} {stack : List Path} {p c : Path}

/-- Loads the file that a path leads to and all that it extends, from the files alone. -/
def plain (v : FileView) (stack : List Path) (p : Path) : Except ConfigError Ruleset :=
  match _hc : v.canonical p with
  | .error fault => .error (.unreachable p fault)
  | .ok c =>
    if _hs : c ∈ stack then .error (.cycle (circle stack c))
    else do
      let f ← RuleFile.load v c
      f.toRuleset (← (f.references c).mapM fun q => plain v (c :: stack) q)
termination_by (free v stack).length
decreasing_by exact length_free_cons (v.mem_places _hc) _hs

/-- A chain leads from its first member to all others. -/
theorem transGen_of_isChain {R : Path → Path → Prop} {a b : Path} {l : List Path}
    (h : (a :: l).IsChain R) (hb : b ∈ l) : TransGen R a b :=
  List.rel_of_pairwise_cons (List.isChain_iff_pairwise.mp (h.imp fun _ _ => TransGen.single)) hb

/-- The files on the stack differ from each other, each extends the one above it, and the one on
top extends the file that the path leads to. -/
structure Trail (v : FileView) (stack : List Path) (p : Path) : Prop where
  nodup : stack.Nodup
  refers : ∀ c, v.canonical p = .ok c → (c :: stack).IsChain fun b a => v.Refers a b

namespace Trail

theorem nil : Trail v [] p := ⟨.nil, fun _ _ => .singleton _⟩

/-- The trail to a path that the file extends, once the file itself is on the stack. -/
theorem push (h : Trail v stack p) (hc : v.canonical p = .ok c) (hs : c ∉ stack) {f : RuleFile}
    (hf : RuleFile.load v c = .ok f) {q : Path} (hq : q ∈ f.references c) :
    Trail v (c :: stack) q where
  nodup := List.nodup_cons.mpr ⟨hs, h.nodup⟩
  refers _ hb := .cons_cons ⟨f, q, hf, hq, hb⟩ (h.refers c hc)

theorem transGen (h : Trail v stack p) (hc : v.canonical p = .ok c) {s : Path} (hs : s ∈ stack) :
    TransGen v.Refers s c :=
  transGen_swap.mp (transGen_of_isChain (h.refers c hc) hs)

end Trail

section Plain

theorem plain_of_error {fault : Fault} (hc : v.canonical p = .error fault) :
    plain v stack p = .error (.unreachable p fault) := by
  rw [plain]
  split <;> simp_all

theorem plain_of_mem (hc : v.canonical p = .ok c) (hs : c ∈ stack) :
    plain v stack p = .error (.cycle (circle stack c)) := by
  rw [plain]
  split <;> simp_all

theorem plain_of_notMem (hc : v.canonical p = .ok c) (hs : c ∉ stack) :
    plain v stack p = RuleFile.load v c >>= fun f =>
      (f.references c).mapM (plain v (c :: stack)) >>= f.toRuleset := by
  rw [plain]
  split <;> simp_all

/-- What is loaded is the unfolding of the file. -/
theorem unfolds_of_plain {r : Ruleset} (h : plain v stack p = .ok r) :
    ∃ c, v.canonical p = .ok c ∧ Unfolds v c r := by
  induction stack, p using plain.induct v generalizing r with
  | case1 stack p fault hc => simp [plain_of_error hc] at h
  | case2 stack p c hc hs => simp [plain_of_mem hc hs] at h
  | case3 stack p c hc hs ih =>
    rw [plain_of_notMem hc hs] at h
    obtain ⟨f, hf, h⟩ := Except.bind_eq_ok_iff.mp h
    obtain ⟨parents, hparents, hr⟩ := Except.bind_eq_ok_iff.mp h
    refine ⟨c, hc, f, parents, hf, unfoldsAll_iff.mpr ?_, RuleFile.toRuleset_eq_ok_iff.mp hr⟩
    exact (Except.mapM_eq_ok_iff.mp hparents).imp fun q r hq => ih q hq

/-- Files with an unfolding load, whatever is on the stack that they do not reach. -/
theorem mapM_plain_of_unfoldsAll {ps : List Path} {rs : List Ruleset} (h : UnfoldsAll v ps rs)
    (hs : ∀ p ∈ ps, ∀ c, v.canonical p = .ok c → ∀ s ∈ stack, ¬ v.Reaches c s) :
    ps.mapM (plain v stack) = .ok rs := by
  induction h generalizing stack with
  | nil => rfl
  | @cons p c f parents r ps rs hc hf hparents hr _ ihparents ih =>
    have hacc : Acc (fun b a => v.Refers a b) c := Unfolds.acc ⟨f, parents, hf, hparents, hr⟩
    have hself := hs p List.mem_cons_self c hc
    have hmem : c ∉ stack := fun hmem => hself c hmem .refl
    have hload : plain v stack p = .ok r := by
      rw [plain_of_notMem hc hmem, Except.bind_eq_ok_iff]
      refine ⟨f, hf, Except.bind_eq_ok_iff.mpr ⟨parents, ihparents fun q hq b hb s hmem => ?_,
        RuleFile.toRuleset_eq_ok_iff.mpr hr⟩⟩
      have hedge : v.Refers c b := ⟨f, q, hf, hq, hb⟩
      intro hreach
      rcases List.mem_cons.mp hmem with rfl | hmem
      · exact not_transGen_of_acc hacc .refl (TransGen.head' hedge hreach)
      · exact hself s hmem (.head hedge hreach)
    rw [List.mapM_cons, hload, ih fun q hq => hs q (List.mem_cons_of_mem _ hq)]
    rfl

/-- On a trail, a file with an unfolding loads: a file on the stack that it reaches would lead
back to it. -/
theorem plain_of_unfolds (h : Trail v stack p) (hc : v.canonical p = .ok c) {r : Ruleset}
    (hr : Unfolds v c r) : plain v stack p = .ok r := by
  have hall : UnfoldsAll v [p] [r] := unfoldsAll_iff.mpr (.cons ⟨c, hc, hr⟩ .nil)
  have hload : [p].mapM (plain v stack) = .ok [r] :=
    mapM_plain_of_unfoldsAll hall fun q hq b hb s hs hreach => by
    cases List.mem_singleton.mp hq
    cases hb.symm.trans hc
    exact not_transGen_of_acc hr.acc hreach (TransGen.trans_left (h.transGen hc hs) hreach)
  obtain ⟨r', rs', hr', -, heq⟩ := List.forall₂_cons_left_iff.mp (Except.mapM_eq_ok_iff.mp hload)
  cases heq
  exact hr'

end Plain

/-- Every ruleset that is kept is the unfolding of its file. -/
def Sound (v : FileView) (cache : Cache) : Prop :=
  ∀ c r, cache.lookup c = some r → Unfolds v c r

theorem Sound.nil : Sound v [] := fun _ _ h => by simp at h

theorem Sound.cons {cache : Cache} {r : Ruleset} (h : Sound v cache) (hr : Unfolds v c r) :
    Sound v ((c, r) :: cache) := by
  intro b r' hb
  rw [List.lookup_cons] at hb
  split at hb
  · rename_i heq
    cases hb
    exact eq_of_beq heq ▸ hr
  · exact h b r' hb

/-- The load of a path agrees with `plain`, and goes on with a sound cache. -/
def Agrees (v : FileView) (stack : List Path) (p : Path) : Prop :=
  ∀ cache, Sound v cache →
    (load v stack p cache).1 = plain v stack p ∧ Sound v (load v stack p cache).2

/-- Loading one file after the other, with what each load keeps at hand for the next. -/
theorem loadAll_eq_mapM_plain {ps : List Path} (h : ∀ p ∈ ps, Agrees v stack p) {cache : Cache}
    (hs : Sound v cache) : (loadAll v stack ps cache).1 = ps.mapM (plain v stack) ∧
      Sound v (loadAll v stack ps cache).2 := by
  induction ps generalizing cache with
  | nil =>
    rw [loadAll]
    exact ⟨rfl, hs⟩
  | cons p ps ih =>
    obtain ⟨hp, hkeep⟩ := h p List.mem_cons_self cache hs
    obtain ⟨hps, hkeep'⟩ := ih (fun q hq => h q (List.mem_cons_of_mem _ hq)) hkeep
    rw [List.mapM_cons, ← hp, ← hps, loadAll]
    rcases hload : load v stack p cache with ⟨e | r, cache₁⟩
    · rw [hload] at hkeep
      exact ⟨rfl, hkeep⟩
    · rw [hload] at hkeep'
      rcases hloadAll : loadAll v stack ps cache₁ with ⟨e | rs, cache₂⟩
      · rw [hloadAll] at hkeep'
        simp only [hloadAll]
        exact ⟨rfl, hkeep'⟩
      · rw [hloadAll] at hkeep'
        simp only [hloadAll]
        exact ⟨rfl, hkeep'⟩

theorem load_of_error {fault : Fault} (hc : v.canonical p = .error fault) (cache : Cache) :
    load v stack p cache = (.error (.unreachable p fault), cache) := by
  rw [load]
  split <;> simp_all

theorem load_of_mem (hc : v.canonical p = .ok c) (hs : c ∈ stack) (cache : Cache) :
    load v stack p cache = (.error (.cycle (circle stack c)), cache) := by
  rw [load]
  split <;> simp_all

theorem load_of_notMem (hc : v.canonical p = .ok c) (hs : c ∉ stack) (cache : Cache) :
    load v stack p cache = match cache.lookup c with
      | some r => (.ok r, cache)
      | none => match RuleFile.load v c with
        | .error e => (.error e, cache)
        | .ok f => match loadAll v (c :: stack) (f.references c) cache with
          | (.error e, cache) => (.error e, cache)
          | (.ok parents, cache) => match f.toRuleset parents with
            | .error e => (.error e, cache)
            | .ok r => (.ok r, (c, r) :: cache) := by
  rw [load]
  split
  · simp_all
  · rename_i heq
    cases heq.symm.trans hc
    exact dif_neg hs

/-- On a trail, what is kept makes no difference, and what is kept next is sound again. -/
theorem load_eq_plain (h : Trail v stack p) : Agrees v stack p := by
  induction stack, p using plain.induct v with
  | case1 stack p fault hc =>
    intro cache hs
    rw [load_of_error hc, plain_of_error hc]
    exact ⟨rfl, hs⟩
  | case2 stack p c hc hmem =>
    intro cache hs
    rw [load_of_mem hc hmem, plain_of_mem hc hmem]
    exact ⟨rfl, hs⟩
  | case3 stack p c hc hmem ih =>
    intro cache hs
    rw [load_of_notMem hc hmem]
    rcases hkept : cache.lookup c with _ | r
    · rcases hf : RuleFile.load v c with e | f
      · rw [plain_of_notMem hc hmem, hf]
        exact ⟨rfl, hs⟩
      obtain ⟨hall, hkeep⟩ := loadAll_eq_mapM_plain
        (fun q hq => ih q (h.push hc hmem hf hq)) hs
      have hplain : plain v stack p =
          (loadAll v (c :: stack) (f.references c) cache).1 >>= f.toRuleset := by
        rw [plain_of_notMem hc hmem, hf, hall]
        rfl
      dsimp only
      generalize loadAll v (c :: stack) (f.references c) cache = out at hkeep hplain ⊢
      rcases out with ⟨e | parents, cache'⟩
      · exact ⟨hplain.symm, hkeep⟩
      · replace hplain : plain v stack p = f.toRuleset parents := hplain
        rcases hr : f.toRuleset parents with e | r
        · exact ⟨by simp only [hr, hplain], by simpa only [hr] using hkeep⟩
        · obtain ⟨b, hb, hunfolds⟩ := unfolds_of_plain (hplain.trans hr)
          cases hc.symm.trans hb
          exact ⟨by simp only [hr, hplain], by simpa only [hr] using hkeep.cons hunfolds⟩
    · exact ⟨(plain_of_unfolds h hc (hs c r hkept)).symm, hs⟩

/-- What is kept once some paths have been asked for, one after the other, whether or not each of
them could be loaded. -/
def kept (v : FileView) (ps : List Path) : Cache :=
  ps.foldl (fun cache p => (load v [] p cache).2) []

theorem Sound.kept (ps : List Path) : Sound v (kept v ps) :=
  List.foldlRecOn ps _ .nil fun cache hs p _ => (load_eq_plain (p := p) .nil cache hs).2

/-- Whatever has been asked for before, and however it went, a path is answered as by a loader that
keeps nothing yet: with the same ruleset or with the same error. -/
theorem load_kept_eq_loadFresh (v : FileView) (ps : List Path) (p : Path) :
    (load v [] p (kept v ps)).1 = loadFresh v p :=
  calc (load v [] p (kept v ps)).1
      = plain v [] p := (load_eq_plain .nil _ (.kept ps)).1
    _ = loadFresh v p := (load_eq_plain .nil _ .nil).1.symm

end DeclRules.Loader
