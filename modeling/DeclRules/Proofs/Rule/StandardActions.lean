import DeclRules.Proofs.Declaration.Attributes
import DeclRules.Proofs.Pass.Effect
import DeclRules.Proofs.Pass.Usage
import DeclRules.Rule.StandardAction

/-! # What standard actions edit

A standard action is an edit of one attribute or of none (`StandardAction.oneEdit`), and it fails
only where it would mark what is not a list. The main statement is `StandardAction.edits_once`. -/

namespace DeclRules

namespace StandardAction

/-- The attribute that the action is about, if it is about one. -/
def target? : StandardAction → Option String
  | discard | noop => none
  | discardBase => some Form.baseSpecifiers
  | markExternal | markAbstract | annotate _ => some Form.annotations
  | rewriteDecl _ => some Form.decl
  | rewriteResult _ => some Form.result
  | remove key | set key _ => some key

/-- The action adds a mark to the annotations. -/
def marks : StandardAction → Bool
  | markExternal | markAbstract | annotate _ => true
  | _ => false

variable {a : StandardAction} {c : Context} {f g : Form}

theorem oneEdit (a : StandardAction) (c : Context) : Form.OneEdit a.target? (a.edit c ·) := by
  cases a with
  | discard | noop => exact .nothing
  | discardBase => exact .insert ..
  | markExternal | markAbstract | annotate => exact .push ..
  | rewriteDecl | rewriteResult => exact .insert ..
  | remove => exact .erase _
  | set => exact .insert ..

theorem edit_eq_error_iff {e : Form.NotAList} : a.edit c f = .error e ↔
    a.marks ∧ e.key = Form.annotations ∧ f.Unlisted Form.annotations e.value := by
  cases a with
  | markExternal | markAbstract | annotate =>
    simp only [edit, Form.pushUnique_eq_error_iff, marks, true_and]
  | _ => simp [edit, marks]

theorem action_of_ne_discard (h : a ≠ .discard) : a.action = .rewrite a.transform := by
  cases a with
  | discard => exact absurd rfl h
  | _ => rfl

theorem transform_edit_eq_ok_iff {container name : String} :
    a.transform.edit container name c f = .ok () g ↔ a.edit c f = .ok g := by
  rw [transform]
  cases h : a.edit c f <;> simp [h]

theorem transform_edit_eq_error_iff {container name reason : String} :
    a.transform.edit container name c f = .error reason g ↔
      g = f ∧ ∃ e, a.edit c f = .error e ∧ reason = e.message := by
  rw [transform]
  cases h : a.edit c f <;> simp [h, and_comm, eq_comm]

/-- What an edit has to be, to be that of the action in the context. -/
structure EditsOnce (a : StandardAction) (edit : EStateM String Form Unit) (f : Form) : Prop where
  /-- It fails where a mark should be added to annotations that are not a list. -/
  error_iff : ∀ reason g, edit f = .error reason g ↔ g = f ∧ a.marks ∧
    ∃ v, f.Unlisted Form.annotations v ∧ reason = Form.NotAList.message ⟨Form.annotations, v⟩
  exists_ok_iff : (∃ g, edit f = .ok () g) ↔ ¬ (a.marks ∧ ∃ v, f.Unlisted Form.annotations v)
  /-- No attribute changes but the one that the action is about. -/
  get?_of_ne : ∀ g, edit f = .ok () g → ∀ k, a.target? ≠ some k → g.get? k = f.get? k
  again : ∀ g, edit f = .ok () g → edit g = .ok () g

theorem editsOnce_transform (a : StandardAction) (container name : String) (c : Context)
    (f : Form) : EditsOnce a (a.transform.edit container name c) f where
  error_iff reason g := by
    rw [transform_edit_eq_error_iff]
    refine and_congr_right fun _ => ?_
    constructor
    · rintro ⟨⟨key, v⟩, he, rfl⟩
      obtain ⟨hmarks, rfl, hv⟩ := edit_eq_error_iff.mp he
      exact ⟨hmarks, v, hv, rfl⟩
    · rintro ⟨hmarks, v, hv, rfl⟩
      exact ⟨_, edit_eq_error_iff.mpr ⟨hmarks, rfl, hv⟩, rfl⟩
  exists_ok_iff := by
    simp only [transform_edit_eq_ok_iff]
    cases h : a.edit c f with
    | ok g =>
      refine iff_of_true ⟨g, rfl⟩ ?_
      rintro ⟨hmarks, v, hv⟩
      cases h.symm.trans (edit_eq_error_iff (e := ⟨_, v⟩).mpr ⟨hmarks, rfl, hv⟩)
    | error e =>
      obtain ⟨hmarks, -, hv⟩ := edit_eq_error_iff.mp h
      refine iff_of_false ?_ fun hnot => hnot ⟨hmarks, _, hv⟩
      rintro ⟨g, hg⟩
      cases hg
  get?_of_ne g h k hk := (a.oneEdit c).get?_of_ne (transform_edit_eq_ok_iff.mp h) hk
  again g h := transform_edit_eq_ok_iff.mpr ((a.oneEdit c).again (transform_edit_eq_ok_iff.mp h))

/-- What the item of a declaration lists as changed, if an edit of the action was made. -/
theorem changed_of_itemUnder {cs : Compiled} {d : Declaration} {it : Item} {m : Match}
    (h : Pass.itemUnder cs.table d = .ok it) (hfalls : cs.FallsTo d m)
    (hm : m.action = .rewrite a.transform) :
    it.changed = [] ∨ ∃ k, a.target? = some k ∧ it.changed = [k] := by
  have hfirst := Compiled.fallsTo_iff.mp hfalls
  cases hedit : a.transform.edit d.container d.name m.context d.form with
  | ok _ form =>
    rw [Pass.itemUnder_of_edit hfirst hm hedit] at h
    rw [← Except.ok.inj h]
    exact (a.oneEdit m.context).changedKeys_eq (transform_edit_eq_ok_iff.mp hedit)
  | error reason form => cases (Pass.itemUnder_of_failing hfirst hm hedit).symm.trans h

/-- **Standard actions edit one attribute, once.** Each but `discard` fails only where it would mark
what is not a list, leaves all attributes but one as they are, and changes nothing when it is
carried out once more. So a pass lists no more than that one as changed. -/
theorem edits_once (h : a ≠ .discard) :
    (∃ t, a.action = .rewrite t ∧
      ∀ container name c f, EditsOnce a (t.edit container name c) f) ∧
    ∀ (c c' : Compiled) (ds : List Declaration) (items : List Item) (i : Nat) (d : Declaration)
      (it : Item) (m : Match), Pass.Completes c ds items c' → ds[i]? = some d →
      items[i]? = some it → c.FallsTo d m → m.action = a.action →
      it.changed = [] ∨ ∃ k, a.target? = some k ∧ it.changed = [k] := by
  have haction := action_of_ne_discard h
  refine ⟨⟨_, haction, a.editsOnce_transform⟩, ?_⟩
  intro c c' ds items i d it m hpass hd hit hfalls hm
  have hitems := Except.mapM_eq_ok_iff.mp hpass.eq.1
  obtain ⟨hi, rfl⟩ := List.getElem?_eq_some_iff.mp hd
  obtain ⟨hi', rfl⟩ := List.getElem?_eq_some_iff.mp hit
  exact changed_of_itemUnder (hitems.get hi hi') hfalls (hm.trans haction)

/-- The one rule for typedefs matches each that has no line feed in its name. -/
theorem exists_firstMatch_typedefsEdited {t : Transform} {c : Compiled}
    (h : (Pass.typedefsEdited t).compile = .ok c) (name : String)
    (hname : '\n' ∉ name.toList) : ∃ context,
      (c.table (Ruleset.typedefCalled name).kind).firstMatch (Ruleset.typedefCalled name) =
        some ⟨0, .rewrite t, some (Pass.typedefsEdited t).name, context⟩ := by
  let e : Entry := ⟨.typedef, [RuleFile.wildcard, RuleFile.wildcard], .rewrite t,
    some (Pass.typedefsEdited t).name⟩
  have hwild (text : String) (ht : '\n' ∉ text.toList) :
      FieldPattern.Covers RuleFile.wildcard text := (FieldPattern.covers_wildcard_iff text).mpr ht
  have hfirst : Entry.FirstMatch ((Pass.typedefsEdited t).build .typedef)
      (Ruleset.typedefCalled name) 0 e :=
    ⟨rfl, .cons (hwild "" (by decide)) (.cons (hwild name hname) .nil),
      fun j _ hj => absurd hj (Nat.not_lt_zero j)⟩
  obtain ⟨context, -, hm⟩ := Table.firstMatch_eq_some
    (Table.compile_eq_ok_iff.mp (Ruleset.compile_table h .typedef)) hfirst
  exact ⟨context, hm⟩

/-- A form with another annotation already, and with another attribute. -/
def annotated : Form := .ofList [(Form.annotations, .array [.int 1]), (Form.decl, .null)]

/-- The mark is added to a list, once, and not to a text. -/
theorem edits_once_markExternal : ∃ c items c' t, markExternal.action = .rewrite t ∧
    (Pass.typedefsEdited t).compile = .ok c ∧
    Pass.Completes c [Ruleset.typedefCalled "a"] items c' ∧
    (∀ it ∈ items, it.changed = [] ∨ it.changed = [Form.annotations]) ∧
    (∃ reason g, t.edit "" "a" {} (.ofList [(Form.annotations, .string "x")]) = .error reason g) ∧
    ∃ g, t.edit "" "a" {} annotated = .ok () g ∧ g.get? Form.decl = some .null ∧
      t.edit "" "a" {} g = .ok () g := by
  obtain ⟨⟨t, ht, hedits⟩, hchanged⟩ := edits_once (a := markExternal) (by simp)
  obtain ⟨c, hc⟩ := Pass.exists_compile_typedefsEdited t
  obtain ⟨context, hm⟩ := exists_firstMatch_typedefsEdited hc "a" (by decide)
  have hannotated := hedits "" "a" {} annotated
  obtain ⟨g, hg⟩ := hannotated.exists_ok_iff.mpr fun ⟨_, v, hv, hlist⟩ => by
    cases hv
    exact hlist _ rfl
  have htext := hedits "" "a" {} (.ofList [(Form.annotations, .string "x")])
  have hfails := (htext.error_iff _ _).mpr ⟨rfl, rfl, _, ⟨rfl, by simp⟩, rfl⟩
  obtain ⟨form, hform⟩ := (hedits "" "a" context .empty).exists_ok_iff.mpr fun ⟨_, v, hv, _⟩ => by
    cases hv
  have hitem := Pass.itemUnder_of_edit hm rfl hform
  have hpass := Pass.completes_of_forall₂ (.cons hitem .nil)
  refine ⟨c, _, _, t, ht, hc, hpass, ?_, ⟨_, _, hfails⟩, g, hg,
    hannotated.get?_of_ne g hg Form.decl (by decide), hannotated.again g hg⟩
  rw [List.forall_mem_singleton]
  have hone := hchanged c _ _ _ 0 _ _ _ hpass rfl rfl (Compiled.fallsTo_iff.mpr hm) ht.symm
  refine hone.imp_right ?_
  rintro ⟨k, hk, hkeys⟩
  cases hk
  exact hkeys

end StandardAction

end DeclRules
