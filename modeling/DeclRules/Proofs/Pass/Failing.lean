import DeclRules.Proofs.Pass.Order

/-! # How a pass fails

On a compiled ruleset nothing fails but a rewrite: a declaration is looked up among the rules of
its own kind, and to discard it runs no edit. `RewriteFails` says of which declarations the rewrite
fails, and with what error; a pass fails with the error of the first of them
(`Pass.mapM_itemUnder_eq_error_iff`), and succeeds if there is none
(`Pass.exists_mapM_itemUnder_iff`). -/

namespace DeclRules

/-- The rule that the declaration falls to rewrites it, and the edit fails. The error names the
declaration, the rule and the edit, and has the reason that the edit gave. -/
def RewriteFails (tables : (k : Kind) → Table k) (d : Declaration) (e : ActionError) : Prop :=
  ∃ (m : Match) (t : Transform) (reason : String) (form : Form),
    (tables d.kind).firstMatch d = some m ∧ m.action = .rewrite t ∧
    t.edit d.container d.name m.context d.form = .error reason form ∧
    e = {
      kind := d.kind, container := d.container, name := d.name, rule := m.index, action := t.label,
      reason }

/-- Only an edit that fails makes an action fail. -/
theorem Action.apply_eq_error_iff {a : Action} {d : Declaration} {context : Context} {rule : Nat}
    {e : ActionError} : a.apply d context rule = .error e ↔ ∃ t reason form, a = .rewrite t ∧
      t.edit d.container d.name context d.form = .error reason form ∧
      e = {
        kind := d.kind, container := d.container, name := d.name, rule, action := t.label,
        reason } := by
  constructor
  · intro h
    cases a with
    | discard => cases h
    | rewrite t =>
      unfold apply at h
      dsimp only at h
      split at h
      · cases h
      · rename_i reason form hedit
        cases h
        exact ⟨t, reason, form, rfl, hedit, rfl⟩
  · rintro ⟨t, reason, form, rfl, hedit, rfl⟩
    unfold apply
    dsimp only
    rw [hedit]

theorem applyMatch_eq_error_iff {d : Declaration} {m : Option Match} {e : ActionError} :
    applyMatch d m = .error e ↔ ∃ m', m = some m' ∧
      m'.action.apply d m'.context m'.index = .error e := by
  cases m with
  | none =>
    constructor
    · intro h
      cases h
    · rintro ⟨_, h, -⟩
      cases h
  | some m =>
    constructor
    · intro h
      obtain h | ⟨_, -, h⟩ := Except.bind_eq_error_iff.mp h
      · exact ⟨m, rfl, h⟩
      · cases h
    · rintro ⟨_, ⟨⟩, h⟩
      exact Except.bind_eq_error_iff.mpr (.inl h)

namespace Pass

variable {tables : (k : Kind) → Table k} {c : Compiled} {d : Declaration} {ds : List Declaration}
  {f : Failure}

theorem itemUnder_eq_error_iff :
    itemUnder tables d = .error f ↔ ∃ e, RewriteFails tables d e ∧ f = .action e := by
  constructor
  · intro h
    obtain h | ⟨m, hm, h⟩ := Except.bind_eq_error_iff.mp h
    · cases h
    · cases hm
      obtain h | ⟨_, -, h⟩ := Except.bind_eq_error_iff.mp h
      · obtain ⟨e, he, rfl⟩ := Except.mapError_eq_error_iff.mp h
        obtain ⟨m, hm, he⟩ := applyMatch_eq_error_iff.mp he
        obtain ⟨t, reason, form, ht, hedit, he⟩ := Action.apply_eq_error_iff.mp he
        exact ⟨e, ⟨m, t, reason, form, hm, ht, hedit, he⟩, rfl⟩
      · cases h
  · rintro ⟨e, ⟨m, t, reason, form, hm, ht, hedit, he⟩, rfl⟩
    have happly : applyMatch d ((tables d.kind).firstMatch d) = .error e :=
      applyMatch_eq_error_iff.mpr
        ⟨m, hm, Action.apply_eq_error_iff.mpr ⟨t, reason, form, ht, hedit, he⟩⟩
    refine Except.bind_eq_error_iff.mpr (.inr ⟨_, rfl, Except.bind_eq_error_iff.mpr (.inl ?_)⟩)
    exact Except.mapError_eq_error_iff.mpr ⟨e, happly, rfl⟩

theorem exists_itemUnder_iff :
    (∃ it, itemUnder tables d = .ok it) ↔ ∀ e, ¬ RewriteFails tables d e := by
  constructor
  · rintro ⟨it, hit⟩ e he
    cases hit.symm.trans (itemUnder_eq_error_iff.mpr ⟨e, he, rfl⟩)
  · intro h
    cases hitem : itemUnder tables d with
    | ok it => exact ⟨it, rfl⟩
    | error f =>
      obtain ⟨e, he, -⟩ := itemUnder_eq_error_iff.mp hitem
      exact absurd he (h e)

/-- Of the declarations, `d` is the first of which the rewrite fails. -/
structure FirstFailing (tables : (k : Kind) → Table k) (ds : List Declaration) (d : Declaration)
    (e : ActionError) : Prop where
  fails : RewriteFails tables d e
  first : ∃ before after, ds = before ++ d :: after ∧
    ∀ d' ∈ before, ∀ e', ¬ RewriteFails tables d' e'

theorem mapM_itemUnder_eq_error_iff : ds.mapM (itemUnder tables) = .error f ↔
    ∃ d e, FirstFailing tables ds d e ∧ f = .action e := by
  rw [Except.mapM_eq_error_iff]
  simp only [exists_itemUnder_iff, itemUnder_eq_error_iff]
  constructor
  · rintro ⟨before, d, after, hds, hbefore, e, he, rfl⟩
    exact ⟨d, e, ⟨he, before, after, hds, hbefore⟩, rfl⟩
  · rintro ⟨d, e, ⟨he, before, after, hds, hbefore⟩, rfl⟩
    exact ⟨before, d, after, hds, hbefore, e, he, rfl⟩

theorem exists_mapM_itemUnder_iff : (∃ items, ds.mapM (itemUnder tables) = .ok items) ↔
    ∀ d ∈ ds, ∀ e, ¬ RewriteFails tables d e := by
  simp only [← exists_itemUnder_iff, Except.mapM_eq_ok_iff]
  constructor
  · rintro ⟨items, h⟩ d hd
    obtain ⟨i, hi, rfl⟩ := List.mem_iff_getElem.mp hd
    exact ⟨_, h.get hi (h.length_eq ▸ hi)⟩
  · intro h
    exact List.exists_forall₂ h

/-- A pass over the declarations, in their order or in some other, fails. -/
def Fails (c : Compiled) (ds : List Declaration) (f : Failure) : Prop :=
  ((run ds).run c).1 = .error f ∨ ∃ s : Schedule ds.length, ((runScheduled ds s).run c).1 = .error f

theorem fails_iff : Fails c ds f ↔ ∃ d e, FirstFailing c.table ds d e ∧ f = .action e := by
  rw [← mapM_itemUnder_eq_error_iff]
  constructor
  · rintro (h | ⟨s, h⟩)
    · rwa [run_eq] at h
    · rwa [runScheduled_eq] at h
  · intro h
    left
    rwa [run_eq]

end Pass

end DeclRules
