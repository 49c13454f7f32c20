import DeclRules.Proofs.Pass.Effect
import DeclRules.Proofs.Pass.Usage

/-! # The accounts of a pass

The counts of a pass are taken from the dispositions of its items, and what it emits from the
declarations that they carry. The two agree on every item (`Item.TellsOf`), and so over a whole
pass: nothing but what was discarded is missing. The main statement is
`Pass.balanced_of_completes`. -/

namespace DeclRules

namespace Disposition

def isUnmatched : Disposition → Bool
  | unmatched => true
  | _ => false

def isRewritten : Disposition → Bool
  | rewritten _ => true
  | _ => false

def isDiscarded : Disposition → Bool
  | discarded _ => true
  | _ => false

/-- A disposition is one of the three. -/
theorem one_eq (d : Disposition) :
    1 = (if d.isUnmatched then 1 else 0) + (if d.isRewritten then 1 else 0) +
      if d.isDiscarded then 1 else 0 := by
  cases d <;> rfl

end Disposition

namespace Summary

theorem add_eq (s : Summary) (d : Disposition) : s.add d = {
    declarations := s.declarations
    unmatched := s.unmatched + if d.isUnmatched then 1 else 0
    rewritten := s.rewritten + if d.isRewritten then 1 else 0
    discarded := s.discarded + if d.isDiscarded then 1 else 0 } := by
  cases d <;> rfl

theorem foldl_add (s : Summary) (items : List Item) :
    items.foldl (fun s i => s.add i.disposition) s = {
      declarations := s.declarations
      unmatched := s.unmatched + items.countP (·.disposition.isUnmatched)
      rewritten := s.rewritten + items.countP (·.disposition.isRewritten)
      discarded := s.discarded + items.countP (·.disposition.isDiscarded) } := by
  induction items generalizing s with
  | nil => rfl
  | cons i items ih =>
    rw [List.foldl_cons, ih, add_eq]
    simp only [List.countP_cons, Nat.add_assoc, Nat.add_comm]

/-- What is counted of items. -/
theorem ofItems_eq (items : List Item) : ofItems items = {
    declarations := items.length
    unmatched := items.countP (·.disposition.isUnmatched)
    rewritten := items.countP (·.disposition.isRewritten)
    discarded := items.countP (·.disposition.isDiscarded) } := by
  rw [ofItems, foldl_add]
  simp

/-- Each item is counted in one way. -/
theorem sum_ofItems (items : List Item) :
    (ofItems items).unmatched + (ofItems items).rewritten + (ofItems items).discarded =
      (ofItems items).declarations := by
  rw [ofItems_eq]
  dsimp only
  induction items with
  | nil => rfl
  | cons i items ih =>
    rw [List.length_cons, ← ih, i.disposition.one_eq]
    simp only [List.countP_cons, Nat.add_assoc, Nat.add_comm, Nat.add_left_comm]

end Summary

/-- The item is about the declaration: it bears its kind, scope and name, and carries it unless it
was discarded. -/
structure Item.TellsOf (d : Declaration) (i : Item) : Prop where
  kind : i.kind = d.kind
  container : i.container = d.container
  name : i.name = d.name
  emitted_eq_none_iff : i.emitted = none ↔ i.disposition.isDiscarded
  /-- What no rule is for is carried as it is. -/
  unmatched : i.disposition.isUnmatched → i.emitted = some d
  /-- A rule has changed the form alone. -/
  emitted_form : ∀ d', i.emitted = some d' → d' = { d with form := d'.form }

namespace Pass

variable {c c' : Compiled} {ds : List Declaration} {items : List Item}

theorem tellsOf_of_itemUnder {d : Declaration} {i : Item} (h : itemUnder c.table d = .ok i) :
    i.TellsOf d := by
  have hhandled := handled_itemUnder c d
  rw [h] at hhandled
  cases hhandled with
  | unmatched =>
    refine ⟨rfl, rfl, rfl, by simp [Disposition.isDiscarded], fun _ => rfl, fun d' hd' => ?_⟩
    cases hd'
    rfl
  | discarded =>
    exact ⟨rfl, rfl, rfl, by simp [Disposition.isDiscarded],
      by simp [Disposition.isUnmatched], by simp⟩
  | rewritten =>
    refine ⟨rfl, rfl, rfl, by simp [Disposition.isDiscarded], by simp [Disposition.isUnmatched],
      fun d' hd' => ?_⟩
    cases hd'
    rfl

theorem Completes.tellsOf (h : Completes c ds items c') :
    List.Forall₂ (fun d i => i.TellsOf d) ds items :=
  (Except.mapM_eq_ok_iff.mp h.eq.1).imp fun _ _ => tellsOf_of_itemUnder

/-- The declarations that were not discarded, with their items. -/
def kept (ds : List Declaration) (items : List Item) : List (Declaration × Item) :=
  (ds.zip items).filter fun w => !w.2.disposition.isDiscarded

/-- The declaration is what an item has for the one that it was made for. -/
structure KeptAs (w : Declaration × Item) (d' : Declaration) : Prop where
  emitted : w.2.emitted = some d'
  form : d' = { w.1 with form := d'.form }
  kind : d'.kind = w.2.kind
  container : d'.container = w.2.container
  name : d'.name = w.2.name

/-- What is emitted, in order, is what was kept. -/
theorem forall₂_kept (h : List.Forall₂ (fun d i => i.TellsOf d) ds items) :
    List.Forall₂ KeptAs (kept ds items) (emittedOf items) := by
  unfold kept emittedOf
  induction h with
  | nil => exact .nil
  | @cons d i ds items hi _ ih =>
    cases he : i.emitted with
    | none =>
      have hdiscarded := hi.emitted_eq_none_iff.mp he
      simpa [he, hdiscarded] using ih
    | some d' =>
      have hkept : i.disposition.isDiscarded = false := by
        rw [← Bool.not_eq_true, ← hi.emitted_eq_none_iff, he]
        exact Option.some_ne_none d'
      have hform := hi.emitted_form d' he
      have hd' : KeptAs (d, i) d' := by
        refine ⟨he, hform, ?_, ?_, ?_⟩
        · exact (congrArg Declaration.kind hform).trans hi.kind.symm
        · exact (congrArg Declaration.container hform).trans hi.container.symm
        · exact (congrArg Declaration.name hform).trans hi.name.symm
      simpa [he, hkept] using List.Forall₂.cons hd' ih

/-- Each item is either discarded or emits a declaration. -/
theorem length_emittedOf (h : List.Forall₂ (fun d i => i.TellsOf d) ds items) :
    (emittedOf items).length + items.countP (·.disposition.isDiscarded) = items.length := by
  have hkept : (kept ds items).length = items.countP fun i => !i.disposition.isDiscarded := by
    rw [kept, ← List.countP_eq_length_filter]
    conv_rhs => rw [← List.map_snd_zip h.length_eq.ge, List.countP_map]
    rfl
  rw [← (forall₂_kept h).length_eq, hkept, Nat.add_comm]
  rw [List.length_eq_countP_add_countP (·.disposition.isDiscarded)]
  simp

/-- What the items of a pass, its counts and what it emits have to do with each other. -/
structure Balanced (ds : List Declaration) (items : List Item) : Prop where
  /-- There is one item for each declaration, in their order. -/
  tellsOf : List.Forall₂ (fun d i => i.TellsOf d) ds items
  counts : Summary.ofItems items = {
    declarations := ds.length
    unmatched := items.countP (·.disposition.isUnmatched)
    rewritten := items.countP (·.disposition.isRewritten)
    discarded := items.countP (·.disposition.isDiscarded) }
  sum : (Summary.ofItems items).unmatched + (Summary.ofItems items).rewritten +
    (Summary.ofItems items).discarded = (Summary.ofItems items).declarations
  /-- The number of emitted declarations is a proper difference. -/
  discarded_le : (Summary.ofItems items).discarded ≤ (Summary.ofItems items).declarations
  emitted : (Summary.ofItems items).emitted = (emittedOf items).length
  /-- What is emitted is the input, less what was discarded. -/
  kept : List.Forall₂ KeptAs (kept ds items) (emittedOf items)

/-- **A pass loses nothing but what it discards.** The items of a pass are one for each declaration,
and emit all but the discarded ones, in order; the counts add up to the number of declarations. -/
theorem balanced_of_completes (h : Completes c ds items c') : Balanced ds items := by
  have htells := h.tellsOf
  have hsum := Summary.sum_ofItems items
  have hlength := length_emittedOf htells
  refine ⟨htells, ?_, hsum, ?_, ?_, forall₂_kept htells⟩
  · rw [Summary.ofItems_eq, htells.length_eq]
  · omega
  · rw [Summary.emitted, Summary.ofItems_eq]
    exact Nat.sub_eq_of_eq_add hlength.symm

/-- The one declaration that no rule is for is the one that is emitted. -/
theorem balanced_of_completes_anyTypedef : ∃ c items c', Ruleset.anyTypedef.compile = .ok c ∧
    Completes c [Ruleset.typedefCalled "a", { kind := .function, name := "f" }] items c' ∧
    Balanced [Ruleset.typedefCalled "a", { kind := .function, name := "f" }] items ∧
    Summary.ofItems items = ⟨2, 1, 0, 1⟩ ∧
    emittedOf items = [{ kind := .function, name := "f" }] := by
  obtain ⟨c, hc⟩ := Ruleset.exists_compile_anyTypedef
  let f : Declaration := { kind := .function, name := "f" }
  let d := Ruleset.typedefCalled "a"
  obtain ⟨context, htypedef⟩ : ∃ context, (c.table d.kind).firstMatch d = some ⟨0, _, _, context⟩ :=
    Ruleset.firstMatch_anyTypedef hc (by decide) (by decide)
  have hfunction : (c.table f.kind).firstMatch f = none :=
    Ruleset.firstMatch_anyTypedef_of_ne hc (by decide)
  have hpass := completes_of_forall₂ (.cons (itemUnder_of_discard htypedef rfl)
    (.cons (itemUnder_of_unmatched hfunction) .nil))
  exact ⟨c, _, _, hc, hpass, balanced_of_completes hpass, rfl, rfl⟩

end Pass

end DeclRules
