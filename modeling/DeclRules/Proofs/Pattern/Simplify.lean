import DeclRules.Proofs.FirstFault
import DeclRules.Proofs.Pattern.Ways

/-! # Simplifying keeps the ways through a text

The constructors that simplify as they build have the ways that the plain ones would have: `concat`
those of its parts one after the other (`ways_concat`), `alternation` those of one of its branches
(`ways_alternation`), also where single characters are gathered in one set or a common start is
taken out, and `repetition` some of those of its body as often as the bounds allow
(`ways_repetition`), from which none is missing over a stretch of the text
(`ways_none_repetition_iff`). What they build of proper expressions is proper, and it has the same
groups but for those repeated zero times (`groups_concat`, `mem_groups_alternation`,
`groups_repetition`). -/

namespace DeclRules.Pattern

open Unicode Relation

namespace Expr

variable {κ : Type} {N : Notes κ} {e f : Expr} {l : List Expr} {p q : Spot κ}

/-- There is a way for the expressions one after the other. -/
def WaysAll {κ : Type} (N : Notes κ) : List Expr → Spot κ → Spot κ → Prop
  | [] => Eq
  | e :: l => Comp (e.Ways N) (WaysAll N l)

/-- There is a way for one of the expressions. -/
def WaysAny {κ : Type} (N : Notes κ) (l : List Expr) (s t : Spot κ) : Prop := ∃ e ∈ l, e.Ways N s t

/-- All of the expressions are proper. -/
def AllProper (l : List Expr) : Prop := ∀ e ∈ l, e.Proper

section Sequence

theorem waysAll_singleton : WaysAll N [e] = e.Ways N := comp_eq

theorem waysAll_append (l l' : List Expr) :
    WaysAll N (l ++ l') = Comp (WaysAll N l) (WaysAll N l') := by
  induction l with
  | nil => exact eq_comp.symm
  | cons e l ih => rw [List.cons_append, WaysAll, ih, WaysAll, comp_assoc]

theorem waysAll_items (e : Expr) : WaysAll N e.items = e.Ways N := by
  induction e with
  | seq e f _ ihf =>
    rw [items, WaysAll, ihf]
    rfl
  | empty => rfl
  | _ => exact waysAll_singleton

theorem ways_ofItems (l : List Expr) : (ofItems l).Ways N = WaysAll N l := by
  induction l with
  | nil => rfl
  | cons e l ih =>
    cases l with
    | nil => exact waysAll_singleton.symm
    | cons f l =>
      rw [ofItems, Ways, ih, ← WaysAll]
      simp

theorem waysAll_flatMap_items (l : List Expr) : WaysAll N (l.flatMap items) = WaysAll N l := by
  induction l with
  | nil => rfl
  | cons e l ih => rw [List.flatMap_cons, waysAll_append, waysAll_items, ih, WaysAll]

/-- Expressions after each other cover what they cover one by one. -/
theorem ways_concat (l : List Expr) : (concat l).Ways N = WaysAll N l := by
  rw [concat, ways_ofItems, waysAll_flatMap_items]

theorem waysAll_map_ofItems (l : List (List Expr)) :
    WaysAll N (l.map ofItems) = WaysAll N l.flatten := by
  induction l with
  | nil => rfl
  | cons w l ih =>
    rw [List.map_cons, WaysAll, ways_ofItems, ih, List.flatten_cons, waysAll_append]

theorem allProper_items (h : e.Proper) : AllProper e.items := by
  induction e with
  | seq e f _ ihf => exact List.forall_mem_cons.mpr ⟨h.1, ihf h.2⟩
  | empty => simp [AllProper, items]
  | _ => exact List.forall_mem_singleton.mpr h

theorem proper_ofItems (h : AllProper l) : (ofItems l).Proper := by
  induction l with
  | nil => trivial
  | cons e l ih =>
    obtain ⟨he, hl⟩ := List.forall_mem_cons.mp h
    cases l with
    | nil => exact he
    | cons f l => exact ⟨he, ih hl⟩

theorem proper_concat (h : AllProper l) : (concat l).Proper := by
  refine proper_ofItems fun f hf => ?_
  obtain ⟨e, he, hf⟩ := List.mem_flatMap.mp hf
  exact allProper_items (h e he) f hf

theorem flatMap_groups_items (e : Expr) : e.items.flatMap groups = e.groups := by
  induction e with
  | seq e f _ ihf => rw [items, List.flatMap_cons, ihf, groups]
  | empty => rfl
  | _ => exact List.flatMap_singleton _ _

theorem groups_ofItems (l : List Expr) : (ofItems l).groups = l.flatMap groups := by
  induction l with
  | nil => rfl
  | cons e l ih =>
    cases l with
    | nil => exact (List.flatMap_singleton _ _).symm
    | cons f l =>
      rw [ofItems, groups, ih, ← List.flatMap_cons]
      simp

theorem groups_concat (l : List Expr) : (concat l).groups = l.flatMap groups := by
  rw [concat, groups_ofItems, List.flatMap_assoc]
  exact List.flatMap_congr fun e _ => flatMap_groups_items e

end Sequence

section Branches

theorem waysAny_branches (e : Expr) : WaysAny N e.branches p q ↔ e.Ways N p q := by
  induction e with
  | alt e f _ ihf =>
    simp only [WaysAny, branches, List.exists_mem_cons_iff] at ihf ⊢
    rw [ihf, ways_alt_iff]
  | _ => simp [WaysAny, branches]

theorem waysAny_flatMap_branches (l : List Expr) :
    WaysAny N (l.flatMap branches) p q ↔ WaysAny N l p q := by
  simp only [WaysAny, List.mem_flatMap]
  constructor
  · rintro ⟨b, ⟨e, he, hb⟩, hpq⟩
    exact ⟨e, he, (waysAny_branches e).mp ⟨b, hb, hpq⟩⟩
  · rintro ⟨e, he, hpq⟩
    obtain ⟨b, hb, hpq⟩ := (waysAny_branches e).mpr hpq
    exact ⟨b, ⟨e, he, hb⟩, hpq⟩

theorem ways_ofBranches (l : List Expr) : (ofBranches l).Ways N p q ↔ WaysAny N l p q := by
  induction l with
  | nil => simp [ofBranches, Ways, Spot.Over, Takes, WaysAny]
  | cons e l ih =>
    cases l with
    | nil => simp [ofBranches, WaysAny]
    | cons f l =>
      rw [ofBranches, ways_alt_iff, ih]
      · simp [WaysAny]
      · simp

theorem allProper_branches (h : e.Proper) : AllProper e.branches := by
  induction e with
  | alt e f _ ihf => exact List.forall_mem_cons.mpr ⟨h.1, ihf h.2⟩
  | _ => exact List.forall_mem_singleton.mpr h

theorem allProper_flatMap_branches (h : AllProper l) : AllProper (l.flatMap branches) := by
  intro b hb
  obtain ⟨e, he, hb⟩ := List.mem_flatMap.mp hb
  exact allProper_branches (h e he) b hb

theorem proper_ofBranches (h : AllProper l) : (ofBranches l).Proper := by
  induction l with
  | nil => exact CharSet.proper_empty
  | cons e l ih =>
    obtain ⟨he, hl⟩ := List.forall_mem_cons.mp h
    cases l with
    | nil => exact he
    | cons f l => exact ⟨he, ih hl⟩

theorem flatMap_groups_branches (e : Expr) : e.branches.flatMap groups = e.groups := by
  induction e with
  | alt e f _ ihf => rw [branches, List.flatMap_cons, ihf, groups]
  | _ => exact List.flatMap_singleton _ _

theorem groups_ofBranches (l : List Expr) : (ofBranches l).groups = l.flatMap groups := by
  induction l with
  | nil => rfl
  | cons e l ih =>
    cases l with
    | nil => exact (List.flatMap_singleton _ _).symm
    | cons f l =>
      rw [ofBranches, groups, ih, ← List.flatMap_cons]
      simp

end Branches

section Merge

/-- A single character covers itself alone. -/
theorem ways_of_literal? (he : e.Proper) {c : Char} (hc : e.literal? = some c) :
    e.Ways N p q ↔ p.Over (Takes (.ofList [c])) q := by
  unfold literal? at hc
  split at hc
  · rename_i s
    have htakes : Takes s = Takes (.ofList [c]) := Takes.congr fun d => by
      rw [CharSet.contains_of_only? he hc, CharSet.contains_ofList, List.mem_singleton]
    rw [Ways, htakes]
  · cases hc

theorem eq_chars_of_class? {s : CharSet} (h : e.class? = some s) : e = chars s := by
  unfold class? at h
  split at h
  · split at h
    · cases h
    · cases h
      rfl
  · cases h

/-- Branches that are single characters, as one set. -/
theorem ways_ofList_of_literals {cs : List Char} (hl : AllProper l)
    (h : List.Forall₂ (fun e c => e.literal? = some c) l cs) :
    (chars (.ofList cs)).Ways N p q ↔ WaysAny N l p q := by
  have hset (c : Char) : (CharSet.ofList cs).contains c = true ↔
      ∃ d ∈ cs, (CharSet.ofList [d]).contains c = true := by
    simp [CharSet.contains_ofList]
  rw [Ways, over_takes_iff hset]
  clear hset
  induction h with
  | nil => simp [WaysAny]
  | cons hc _ ih =>
    obtain ⟨he, hl⟩ := List.forall_mem_cons.mp hl
    simp only [List.exists_mem_cons_iff, ih hl, ← ways_of_literal? (N := N) he hc, WaysAny]

/-- Branches that are sets of characters, as one set. -/
theorem ways_unions_of_classes {ss : List CharSet} (hl : AllProper l)
    (h : List.Forall₂ (fun e s => e.class? = some s) l ss) :
    (chars (.unions ss)).Ways N p q ↔ WaysAny N l p q := by
  have hl' : l = ss.map chars := by
    clear hl
    induction h with
    | nil => rfl
    | cons hs _ ih => rw [eq_chars_of_class? hs, ih, List.map_cons]
  have hproper : ∀ s ∈ ss, s.Proper := fun s hs =>
    hl (chars s) (hl' ▸ List.mem_map_of_mem hs)
  rw [Ways, over_takes_iff fun c => CharSet.contains_unions hproper, hl']
  simp [WaysAny, Ways]

theorem ways_mergeBranches (hl : AllProper l) :
    (mergeBranches l).Ways N p q ↔ WaysAny N l p q := by
  rw [← waysAny_flatMap_branches, mergeBranches]
  have hbs := allProper_flatMap_branches hl
  split
  · rename_i e hone
    simp [hone, WaysAny]
  · split
    · rename_i cs _ hcs
      exact ways_ofList_of_literals hbs (Option.mapM_eq_some_iff.mp hcs)
    · rename_i ss _ hss
      exact ways_unions_of_classes hbs (Option.mapM_eq_some_iff.mp hss)
    · exact ways_ofBranches _

theorem proper_mergeBranches (hl : AllProper l) : (mergeBranches l).Proper := by
  rw [mergeBranches]
  have hbs := allProper_flatMap_branches hl
  split
  · rename_i e hone
    exact hbs e (by simp [hone])
  · split
    · exact CharSet.proper_ofRanges _
    · exact CharSet.proper_unions _
    · exact proper_ofBranches hbs

theorem groups_of_literal? {c : Char} (h : e.literal? = some c) : e.groups = [] := by
  unfold literal? at h
  split at h
  · rfl
  · cases h

theorem flatMap_groups_eq_nil {β : Type} {g : Expr → Option β} {bs : List β}
    (hg : ∀ {e b}, g e = some b → e.groups = [])
    (h : List.Forall₂ (fun e b => g e = some b) l bs) : l.flatMap groups = [] := by
  induction h with
  | nil => rfl
  | cons hb _ ih => rw [List.flatMap_cons, hg hb, ih, List.nil_append]

theorem groups_mergeBranches (l : List Expr) : (mergeBranches l).groups = l.flatMap groups := by
  have hbranches : (l.flatMap branches).flatMap groups = l.flatMap groups := by
    rw [List.flatMap_assoc]
    exact List.flatMap_congr fun e _ => flatMap_groups_branches e
  rw [← hbranches, mergeBranches]
  split
  · rename_i e hone
    rw [hone]
    exact (List.flatMap_singleton _ _).symm
  · split
    · rename_i cs _ hcs
      exact (flatMap_groups_eq_nil groups_of_literal? (Option.mapM_eq_some_iff.mp hcs)).symm
    · rename_i ss _ hss
      refine (flatMap_groups_eq_nil (fun hb => ?_) (Option.mapM_eq_some_iff.mp hss)).symm
      rw [eq_chars_of_class? hb, groups]
    · exact groups_ofBranches _

end Merge

section CommonStart

theorem flatten_chunks (l : List Expr) : (chunks l).flatten = l := by
  induction l with
  | nil => rfl
  | cons e l ih =>
    rw [chunks]
    split
    · rename_i f w cs hcs
      split <;> rw [← ih, hcs] <;> rfl
    · rw [List.flatten_cons, ih]
      rfl

theorem commonPrefix_of_all {α : Type} [DecidableEq α] (w : List α) (ls : List (List α)) :
    commonPrefix w ls <+: w ∧ ∀ l ∈ ls, commonPrefix w ls <+: l := by
  induction w generalizing ls with
  | nil => simp [commonPrefix]
  | cons a w ih =>
    rw [commonPrefix]
    split
    · rename_i hall
      obtain ⟨hw, htails⟩ := ih (ls.map List.tail)
      refine ⟨(List.prefix_cons_inj a).mpr hw, fun l hl => ?_⟩
      have hhead : l.head? = some a := of_decide_eq_true (List.all_eq_true.mp hall l hl)
      rw [← List.cons_head?_tail hhead]
      exact (List.prefix_cons_inj a).mpr (htails _ (List.mem_map_of_mem hl))
    · exact ⟨List.nil_prefix, fun _ _ => List.nil_prefix⟩

/-- The start that all branches have in common, in front of what is left of each of them. -/
def factored (start : List (List Expr)) (bs : List (List (List Expr))) : Expr :=
  concat (start.map ofItems ++
    [mergeBranches (bs.map fun b => concat ((b.drop start.length).map ofItems))])

theorem ways_factored {start : List (List Expr)} {bs : List (List (List Expr))}
    (hproper : ∀ b ∈ bs, ∀ w ∈ b, AllProper w) (hstart : ∀ b ∈ bs, start <+: b) :
    (factored start bs).Ways N p q ↔ ∃ b ∈ bs, WaysAll N b.flatten p q := by
  have hrest : AllProper (bs.map fun b => concat ((b.drop start.length).map ofItems)) := by
    intro e he
    obtain ⟨b, hb, rfl⟩ := List.mem_map.mp he
    refine proper_concat fun e he => ?_
    obtain ⟨w, hw, rfl⟩ := List.mem_map.mp he
    exact proper_ofItems (hproper b hb w (List.mem_of_mem_drop hw))
  have hsplit (b : List (List Expr)) (hb : b ∈ bs) : WaysAll N b.flatten =
      Comp (WaysAll N (start.map ofItems)) (WaysAll N ((b.drop start.length).map ofItems)) := by
    rw [← waysAll_append, ← List.map_append, List.prefix_iff_eq_append.mp (hstart b hb),
      waysAll_map_ofItems]
  rw [factored, ways_concat, waysAll_append, waysAll_singleton]
  constructor
  · rintro ⟨r, hpr, hrq⟩
    obtain ⟨e, he, hrq⟩ := (ways_mergeBranches hrest).mp hrq
    obtain ⟨b, hb, rfl⟩ := List.mem_map.mp he
    rw [ways_concat] at hrq
    exact ⟨b, hb, by rw [hsplit b hb]; exact ⟨r, hpr, hrq⟩⟩
  · rintro ⟨b, hb, hpq⟩
    rw [hsplit b hb] at hpq
    obtain ⟨r, hpr, hrq⟩ := hpq
    refine ⟨r, hpr, (ways_mergeBranches hrest).mpr ⟨_, List.mem_map_of_mem hb, ?_⟩⟩
    rwa [ways_concat]

theorem proper_factored {start : List (List Expr)} {bs : List (List (List Expr))}
    (hstart : ∀ w ∈ start, AllProper w) (hbs : ∀ b ∈ bs, ∀ w ∈ b, AllProper w) :
    (factored start bs).Proper := by
  refine proper_concat fun e he => ?_
  rcases List.mem_append.mp he with he | he
  · obtain ⟨w, hw, rfl⟩ := List.mem_map.mp he
    exact proper_ofItems (hstart w hw)
  · cases List.mem_singleton.mp he
    refine proper_mergeBranches fun e he => ?_
    obtain ⟨b, hb, rfl⟩ := List.mem_map.mp he
    refine proper_concat fun e he => ?_
    obtain ⟨w, hw, rfl⟩ := List.mem_map.mp he
    exact proper_ofItems (hbs b hb w (List.mem_of_mem_drop hw))

/-- The branches of an alternative, each as a list of words and single items. -/
def branchChunks (e : Expr) : List (List (List Expr)) := e.branches.map fun b => chunks b.items

theorem exists_branchChunks_iff :
    (∃ b ∈ e.branchChunks, WaysAll N b.flatten p q) ↔ e.Ways N p q := by
  rw [← waysAny_branches e]
  simp [branchChunks, WaysAny, flatten_chunks, waysAll_items]

theorem branchChunks_ne_nil (e : Expr) : e.branchChunks ≠ [] := by
  cases e <;> exact List.cons_ne_nil _ _

theorem allProper_of_mem_branchChunks (h : e.Proper) {b : List (List Expr)}
    (hb : b ∈ e.branchChunks) {w : List Expr} (hw : w ∈ b) : AllProper w := by
  obtain ⟨c, hc, rfl⟩ := List.mem_map.mp hb
  intro f hf
  refine allProper_items (allProper_branches h c hc) f ?_
  rw [← flatten_chunks c.items]
  exact List.mem_flatten_of_mem hw hf

/-- An alternative is left as it is, or all its branches have a start in common that is taken
out. -/
theorem alternation_cases (l : List Expr) :
    alternation l = mergeBranches l ∨
      ∃ start, alternation l = factored start (mergeBranches l).branchChunks ∧
        ∀ b ∈ (mergeBranches l).branchChunks, start <+: b := by
  unfold alternation
  split
  · rename_i e f hmerge
    rw [hmerge]
    dsimp only
    split
    · exact .inl rfl
    · exact .inr ⟨_, rfl, (commonPrefix_of_all _ _).2⟩
  · exact .inl rfl

/-- Alternatives cover what one of them covers. -/
theorem ways_alternation (hl : AllProper l) :
    (alternation l).Ways N p q ↔ WaysAny N l p q := by
  rw [← ways_mergeBranches hl]
  have hproper := proper_mergeBranches hl
  obtain h | ⟨start, h, hstart⟩ := alternation_cases l
  · rw [h]
  · rw [h, ways_factored (fun b hb w hw => allProper_of_mem_branchChunks hproper hb hw) hstart,
      exists_branchChunks_iff]

theorem proper_alternation (hl : AllProper l) : (alternation l).Proper := by
  have hproper := proper_mergeBranches hl
  obtain h | ⟨start, h, hstart⟩ := alternation_cases l
  · rwa [h]
  · rw [h]
    have hbs := fun b hb w hw => allProper_of_mem_branchChunks (b := b) hproper hb (w := w) hw
    refine proper_factored (fun w hw => ?_) hbs
    obtain ⟨b, hb⟩ := List.exists_mem_of_ne_nil _ (branchChunks_ne_nil (mergeBranches l))
    exact hbs b hb w ((hstart b hb).mem hw)

theorem flatMap_groups_map_ofItems (ws : List (List Expr)) :
    (ws.map ofItems).flatMap groups = ws.flatten.flatMap groups := by
  rw [List.flatMap_map, ← List.flatMap_id (L := ws), List.flatMap_assoc]
  exact List.flatMap_congr fun w _ => groups_ofItems w

theorem mem_groups_factored {start : List (List Expr)} {bs : List (List (List Expr))}
    (hne : bs ≠ []) (hstart : ∀ b ∈ bs, start <+: b) {g : Nat × Option String} :
    g ∈ (factored start bs).groups ↔ ∃ b ∈ bs, g ∈ b.flatten.flatMap groups := by
  have hsplit (b : List (List Expr)) (hb : b ∈ bs) : b.flatten.flatMap groups =
      start.flatten.flatMap groups ++ (b.drop start.length).flatten.flatMap groups := by
    rw [← List.flatMap_append, ← List.flatten_append, List.prefix_iff_eq_append.mp (hstart b hb)]
  have hrests : (bs.map fun b => concat ((b.drop start.length).map ofItems)).flatMap groups =
      bs.flatMap fun b => (b.drop start.length).flatten.flatMap groups := by
    rw [List.flatMap_map]
    refine List.flatMap_congr fun b _ => ?_
    rw [groups_concat, flatMap_groups_map_ofItems]
  rw [factored, groups_concat, List.flatMap_append, flatMap_groups_map_ofItems,
    List.flatMap_singleton, groups_mergeBranches, hrests, List.mem_append]
  constructor
  · rintro (hg | hg)
    · obtain ⟨b, hb⟩ := List.exists_mem_of_ne_nil bs hne
      exact ⟨b, hb, hsplit b hb ▸ List.mem_append_left _ hg⟩
    · obtain ⟨b, hb, hg⟩ := List.mem_flatMap.mp hg
      exact ⟨b, hb, hsplit b hb ▸ List.mem_append_right _ hg⟩
  · rintro ⟨b, hb, hg⟩
    rw [hsplit b hb, List.mem_append] at hg
    exact hg.imp_right fun hg => List.mem_flatMap.mpr ⟨b, hb, hg⟩

/-- A common start is taken out with its groups: none of them is lost. -/
theorem mem_groups_alternation {g : Nat × Option String} :
    g ∈ (alternation l).groups ↔ g ∈ l.flatMap groups := by
  rw [← groups_mergeBranches]
  obtain h | ⟨start, h, hstart⟩ := alternation_cases l
  · rw [h]
  · rw [h, mem_groups_factored (branchChunks_ne_nil _) hstart, ← flatMap_groups_branches,
      List.mem_flatMap]
    simp only [branchChunks, List.mem_map, exists_exists_and_eq_and, flatten_chunks,
      flatMap_groups_items]

end CommonStart

section Repeats

variable {min : Nat} {max : Option Nat} {greedy : Bool}

/-- What is blank stays at its place. -/
theorem place_eq_of_isBlank (hb : e.isBlank = true) (h : e.Ways N p q) : p.place = q.place := by
  induction e generalizing p q with
  | empty => exact congrArg Spot.place h
  | chars set => cases hb
  | look l => exact h.1.1
  | «repeat» min max greedy e ih =>
    obtain ⟨n, -, hpq⟩ := h
    induction hpq with
    | zero => rfl
    | succ hpq _ hrest => exact (ih (Bool.and_eq_true_iff.mp hb).2 hpq).trans hrest
  | group i name e ih =>
    obtain ⟨u, hu, rfl⟩ := h
    have hplace := ih hb hu
    exact hplace
  | seq e f ihe ihf =>
    obtain ⟨he, hf⟩ := Bool.and_eq_true_iff.mp hb
    obtain ⟨u, hu, hq⟩ := h
    exact (ihe he hu).trans (ihf hf hq)
  | alt e f ihe ihf =>
    obtain ⟨he, hf⟩ := Bool.and_eq_true_iff.mp hb
    rcases h with h | h
    · exact ihe he h
    · exact ihf hf h

end Repeats

end Expr

/-- Going over what is blank once more changes nothing. -/
def Notes.Settled {κ : Type} (N : Notes κ) : Prop :=
  ∀ {e : Expr} {s t : Spot κ}, e.isBlank = true → e.Ways N s t → e.Ways N t t

theorem Notes.settled_none : Notes.none.Settled := fun {_ s t} hb h => by
  have hst : s = t := congrArg (Spot.mk · ()) (Expr.place_eq_of_isBlank hb h)
  exact hst ▸ h

namespace Expr

section Repeats

variable {α : Type} {R : α → α → Prop} {x y : α} {κ : Type} {N : Notes κ} {e : Expr}
  {s t : Spot κ} {min : Nat} {max : Option Nat} {greedy : Bool}

theorem once_bounds (hbounds : ∀ m ∈ max, min ≤ m) :
    ∀ m ∈ some ((max.map (Nat.min · 1)).getD 1), Nat.min min 1 ≤ m := by
  intro m hm
  cases Option.some.inj hm
  cases max with
  | none => exact Nat.min_le_right min 1
  | some m =>
    exact Nat.le_min.mpr
      ⟨Nat.le_trans (Nat.min_le_left min 1) (hbounds m rfl), Nat.min_le_right min 1⟩

/-- Under the bounds for what is blank it is left out or there once. -/
theorem within_once_iff {n : Nat} :
    Within (Nat.min min 1) (some ((max.map (Nat.min · 1)).getD 1)) n ↔
      n = 0 ∧ min = 0 ∨ n = 1 ∧ max ≠ some 0 := by
  have hmin (m : Nat) : Nat.min m 1 = if m = 0 then 0 else 1 := by
    change Min.min m 1 = _
    split <;> omega
  cases max with
  | none =>
    simp only [Within, hmin, Option.map_none, Option.getD_none, Option.mem_def, Option.some.injEq,
      forall_eq']
    split <;> simp <;> omega
  | some m =>
    simp only [Within, hmin, Option.map_some, Option.getD_some, Option.mem_def, Option.some.injEq,
      forall_eq', ne_eq]
    split <;> split <;> omega

/-- What keeps all that it leads to is there as often as wanted if it is there once. -/
theorem repeated_of_once (hR : ∀ {x y}, R x y → R y y) (hbounds : ∀ m ∈ max, min ≤ m)
    (h : Repeated R (Nat.min min 1) (some ((max.map (Nat.min · 1)).getD 1)) x y) :
    Repeated R min max x y := by
  obtain ⟨n, hn, hxy⟩ := h
  obtain ⟨rfl, rfl⟩ | ⟨rfl, hmax⟩ := within_once_iff.mp hn
  · exact ⟨0, ⟨Nat.le_refl 0, fun _ _ => Nat.zero_le _⟩, hxy⟩
  · refine ⟨min - 1 + 1, ⟨by omega, fun m hm => ?_⟩,
      Times.succ_of_settled (R := R) hR (Times.one_iff.mp hxy) (min - 1)⟩
    have hm0 : m ≠ 0 := fun h0 => hmax (h0 ▸ hm)
    have hle := hbounds m hm
    omega

/-- What changes nothing is there once if it is there more often. -/
theorem once_of_repeated (hR : ∀ {x y}, R x y → x = y) (h : Repeated R min max x y) :
    Repeated R (Nat.min min 1) (some ((max.map (Nat.min · 1)).getD 1)) x y := by
  obtain ⟨n, ⟨hmin, hmax⟩, hxy⟩ := h
  cases n with
  | zero => exact ⟨0, within_once_iff.mpr (.inl ⟨rfl, Nat.le_zero.mp hmin⟩), hxy⟩
  | succ n =>
    have hmax0 : max ≠ some 0 := fun h0 => Nat.not_succ_le_zero n (hmax 0 h0)
    exact ⟨1, within_once_iff.mpr (.inr ⟨rfl, hmax0⟩), Times.one_iff.mpr (Times.one_of_eq hR hxy)⟩

/-- The repetition under bounds that are final. -/
def repeatWithin (min : Nat) (max : Option Nat) (greedy : Bool) (e : Expr) : Expr :=
  if max = some 0 then empty
  else if min = 1 ∧ max = some 1 then e
  else .repeat min max greedy e

theorem ways_repeatWithin (hbounds : ∀ m ∈ max, min ≤ m) :
    (repeatWithin min max greedy e).Ways N s t ↔ Repeated (e.Ways N) min max s t := by
  unfold repeatWithin
  split
  · subst max
    cases Nat.le_zero.mp (hbounds 0 rfl)
    constructor
    · intro hst
      exact ⟨0, ⟨Nat.le_refl 0, fun _ _ => Nat.zero_le _⟩, Times.zero_iff.mpr hst⟩
    · rintro ⟨n, hn, hst⟩
      cases Nat.le_zero.mp (hn.2 0 rfl)
      exact Times.zero_iff.mp hst
  · split
    · obtain ⟨rfl, rfl⟩ := ‹min = 1 ∧ max = some 1›
      constructor
      · intro hst
        exact ⟨1, ⟨Nat.le_refl 1, fun _ hm => Nat.le_of_eq (Option.some.inj hm)⟩,
          Times.one_iff.mpr hst⟩
      · rintro ⟨n, hn, hst⟩
        cases Nat.le_antisymm (hn.2 1 rfl) hn.1
        exact Times.one_iff.mp hst
    · exact Iff.rfl

theorem proper_repeatWithin (hbounds : ∀ m ∈ max, min ≤ m) (he : e.Proper) :
    (repeatWithin min max greedy e).Proper := by
  unfold repeatWithin
  split
  · trivial
  · split
    · exact he
    · exact ⟨hbounds, he⟩

theorem repetition_eq : repetition min max greedy e =
    if e.isBlank then
      repeatWithin (Nat.min min 1) (some ((max.map (Nat.min · 1)).getD 1)) greedy e
    else repeatWithin min max greedy e := by
  unfold repetition
  cases e.isBlank <;> rfl

/-- The ways of a simplified repetition are ways of its body as often as the bounds allow, where
going over what is blank once more changes nothing. -/
theorem ways_repetition (hN : N.Settled) (hbounds : ∀ m ∈ max, min ≤ m)
    (h : (repetition min max greedy e).Ways N s t) : Repeated (e.Ways N) min max s t := by
  rw [repetition_eq] at h
  split at h
  · rename_i hb
    exact repeated_of_once (hN hb) hbounds ((ways_repeatWithin (once_bounds hbounds)).mp h)
  · exact (ways_repeatWithin hbounds).mp h

/-- Where nothing is kept, they are all there. -/
theorem ways_none_repetition_iff {s t : Spot Unit} (hbounds : ∀ m ∈ max, min ≤ m) :
    (repetition min max greedy e).Ways .none s t ↔ Repeated (e.Ways .none) min max s t := by
  refine ⟨ways_repetition Notes.settled_none hbounds, fun h => ?_⟩
  rw [repetition_eq]
  split
  · rename_i hb
    have hstill {s t : Spot Unit} (h : e.Ways .none s t) : s = t :=
      congrArg (Spot.mk · ()) (place_eq_of_isBlank hb h)
    exact (ways_repeatWithin (once_bounds hbounds)).mpr (once_of_repeated hstill h)
  · exact (ways_repeatWithin hbounds).mpr h

theorem proper_repetition (hbounds : ∀ m ∈ max, min ≤ m) (he : e.Proper) :
    (repetition min max greedy e).Proper := by
  rw [repetition_eq]
  split
  · exact proper_repeatWithin (once_bounds hbounds) he
  · exact proper_repeatWithin hbounds he

theorem groups_repeatWithin :
    (repeatWithin min max greedy e).groups = if max = some 0 then [] else e.groups := by
  unfold repeatWithin
  split
  · rfl
  · split <;> rfl

/-- What is repeated zero times is left out, with its groups. -/
theorem groups_repetition :
    (repetition min max greedy e).groups = if max = some 0 then [] else e.groups := by
  have honce : some ((max.map (Nat.min · 1)).getD 1) = some 0 ↔ max = some 0 := by
    have hmin (m : Nat) : Nat.min m 1 = 0 ↔ m = 0 := by
      change Min.min m 1 = 0 ↔ _
      omega
    cases max with
    | none => simp
    | some m => simp [hmin]
  rw [repetition_eq]
  split
  · simp only [groups_repeatWithin, honce]
  · exact groups_repeatWithin

end Repeats

end Expr

end DeclRules.Pattern
