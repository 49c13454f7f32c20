import DeclRules.Proofs.Loader.Growth
import Mathlib.Data.Set.Card

/-! # How deep loading goes

The files on the stack differ from each other and are files that can be read (`Standing`), so that
there are no more of them than there are files (`Standing.length_le`). `loadWithin` loads like
`load`, but only with so many loads inside each other, and has no answer where more are needed. One
more than there are files are always enough, whatever the files say and whatever is kept. The main
statement is `bounded`. -/

namespace DeclRules

/-- The files that there are, by their canonical paths. -/
def FileView.files (v : FileView) : Set Path :=
  {c | (∃ p, v.canonical p = .ok c) ∧ ∃ b, v.bytes c = .ok b}

theorem FileView.finite_files (v : FileView) : v.files.Finite := by
  refine v.places.finite_toSet.subset fun c hc => ?_
  obtain ⟨⟨p, hp⟩, -⟩ := hc
  exact v.mem_places hp

theorem FileView.exists_bytes_of_load {v : FileView} {c : Path} {f : RuleFile}
    (h : RuleFile.load v c = .ok f) : ∃ b, v.bytes c = .ok b := by
  obtain ⟨text, htext, -⟩ := Except.bind_eq_ok_iff.mp h
  obtain ⟨b, hb, -⟩ := Except.bind_eq_ok_iff.mp (Except.mapError_eq_ok_iff.mp htext)
  exact ⟨b, hb⟩

namespace Loader

open Relation

variable {v : FileView} {stack : List Path} {p c : Path}

/-- The files on the stack are different ones, and there are such files. -/
structure Standing (v : FileView) (stack : List Path) : Prop where
  nodup : stack.Nodup
  exist : ∀ c ∈ stack, c ∈ v.files

namespace Standing

theorem nil : Standing v [] := ⟨.nil, by simp⟩

/-- A file that is read in goes onto the stack. -/
theorem push (h : Standing v stack) (hc : v.canonical p = .ok c) (hs : c ∉ stack) {f : RuleFile}
    (hf : RuleFile.load v c = .ok f) : Standing v (c :: stack) where
  nodup := List.nodup_cons.mpr ⟨hs, h.nodup⟩
  exist := List.forall_mem_cons.mpr ⟨⟨⟨p, hc⟩, FileView.exists_bytes_of_load hf⟩, h.exist⟩

theorem length_le (h : Standing v stack) : stack.length ≤ v.files.ncard := by
  have hsubset : (stack.toFinset : Set Path) ⊆ v.files := fun c hc =>
    h.exist c (List.mem_toFinset.mp hc)
  have hle := Set.ncard_le_ncard hsubset v.finite_files
  rwa [Set.ncard_coe_finset, List.toFinset_card_of_nodup h.nodup] at hle

/-- Where there is room for all files, there is room for one more load. -/
theorem exists_eq_succ (h : Standing v stack) {n : Nat} (hn : v.files.ncard < n + stack.length) :
    ∃ m, n = m + 1 := by
  have hle := h.length_le
  exact Nat.exists_eq_add_one_of_ne_zero (by omega)

/-- A load that is called stands on one more file than the load that calls it. -/
theorem calls {x y : Call} (h : Standing v x.stack) (hxy : Calls v x y) : Standing v y.stack := by
  obtain ⟨hc, hs, -, hf, -, -⟩ := hxy
  exact h.push hc hs hf

theorem of_reflTransGen {x y : Call} (h : Standing v x.stack)
    (hxy : ReflTransGen (Calls v) x y) : Standing v y.stack := by
  induction hxy with
  | refl => exact h
  | tail _ hcall ih => exact ih.calls hcall

end Standing

/-- Loads one file after the other by `one`, as long as that has an answer. -/
def loadAllBy (one : Path → Cache → Option (Except ConfigError Ruleset × Cache)) :
    List Path → Cache → Option (Except ConfigError (List Ruleset) × Cache)
  | [], cache => some (.ok [], cache)
  | p :: ps, cache =>
    match one p cache with
    | none => none
    | some (.error e, cache) => some (.error e, cache)
    | some (.ok r, cache) =>
      match loadAllBy one ps cache with
      | none => none
      | some (.error e, cache) => some (.error e, cache)
      | some (.ok rs, cache) => some (.ok (r :: rs), cache)

/-- Loads the file that a path leads to, with at most `n` loads inside each other; there is no
answer if more are needed. -/
def loadWithin (v : FileView) : Nat → List Path → Path → Cache →
    Option (Except ConfigError Ruleset × Cache)
  | 0, _, _, _ => none
  | n + 1, stack, p, cache =>
    match v.canonical p with
    | .error fault => some (.error (.unreachable p fault), cache)
    | .ok c =>
      if c ∈ stack then some (.error (.cycle (circle stack c)), cache)
      else match cache.lookup c with
        | some r => some (.ok r, cache)
        | none =>
          match RuleFile.load v c with
          | .error e => some (.error e, cache)
          | .ok f =>
            match loadAllBy (loadWithin v n (c :: stack)) (f.references c) cache with
            | none => none
            | some (.error e, cache) => some (.error e, cache)
            | some (.ok parents, cache) =>
              match f.toRuleset parents with
              | .error e => some (.error e, cache)
              | .ok r => some (.ok r, (c, r) :: cache)

theorem loadAllBy_eq {one : Path → Cache → Option (Except ConfigError Ruleset × Cache)}
    (h : ∀ p cache, one p cache = some (load v stack p cache)) (ps : List Path) (cache : Cache) :
    loadAllBy one ps cache = some (loadAll v stack ps cache) := by
  induction ps generalizing cache with
  | nil => rw [loadAllBy, loadAll]
  | cons p ps ih =>
    rw [loadAllBy, h]
    rcases hload : load v stack p cache with ⟨e | r, cache₁⟩
    · rw [loadAll_cons_of_error hload]
    · rw [loadAll_cons_of_ok hload]
      simp only [ih]
      rcases loadAll v stack ps cache₁ with ⟨e | rs, cache₂⟩ <;> rfl

/-- What is missing of the files on the stack is room enough, and one more. -/
theorem loadWithin_eq (h : Standing v stack) {n : Nat} (hn : v.files.ncard < n + stack.length)
    (p : Path) (cache : Cache) :
    loadWithin v n stack p cache = some (load v stack p cache) := by
  induction stack, p using plain.induct v generalizing n cache with
  | case1 stack p fault hc =>
    obtain ⟨n, rfl⟩ := h.exists_eq_succ hn
    rw [loadWithin, load_of_error hc, hc]
  | case2 stack p c hc hs =>
    obtain ⟨n, rfl⟩ := h.exists_eq_succ hn
    simp only [loadWithin, load_of_mem hc hs, hc, if_pos hs]
  | case3 stack p c hc hs ih =>
    obtain ⟨n, rfl⟩ := h.exists_eq_succ hn
    simp only [loadWithin, load_of_notMem hc hs, hc, if_neg hs]
    rcases cache.lookup c with _ | r
    · rcases hf : RuleFile.load v c with e | f
      · rfl
      · have hroom : v.files.ncard < n + (c :: stack).length := by
          rw [List.length_cons]
          omega
        have hall := loadAllBy_eq (ih · (h.push hc hs hf) hroom ·) (f.references c) cache
        simp only [hall]
        rcases loadAll v (c :: stack) (f.references c) cache with ⟨e | parents, cache₁⟩
        · rfl
        · dsimp only
          rcases f.toRuleset parents with e | r <;> rfl
    · rfl

/-- The load of a path goes no deeper than one load for each file, and one more. -/
structure Bounded (v : FileView) (cache : Cache) (p : Path) : Prop where
  answers : ∀ n, v.files.ncard < n → loadWithin v n [] p cache = some (load v [] p cache)
  /-- Around every load that is called are the loads of files that differ from each other. -/
  depth : ∀ y, ReflTransGen (Calls v) ⟨[], p, cache⟩ y → Standing v y.stack ∧
    y.stack.length ≤ v.files.ncard

/-- **Loading ends**, whatever the finitely many files say and whatever is kept of them. -/
theorem bounded (v : FileView) (cache : Cache) (p : Path) : v.files.Finite ∧ Bounded v cache p := by
  refine ⟨v.finite_files, fun n hn => loadWithin_eq .nil hn p cache, fun y hy => ?_⟩
  have hstanding : Standing v y.stack := Standing.nil.of_reflTransGen hy
  exact ⟨hstanding, hstanding.length_le⟩

end Loader

end DeclRules
