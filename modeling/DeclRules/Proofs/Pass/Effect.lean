import DeclRules.Proofs.Declaration.Changes
import DeclRules.Proofs.Pass.Failing

/-! # What a rule does to a declaration

The rule that a declaration falls to drops it or edits its form, and does nothing else to it:
`Pass.Handled` has one case for each answer that there can be about a declaration. No edit but that
of this rule has a part in the answer, and that one only by what it makes of the form of the
declaration (`Pass.itemUnder_withEdits`). The main statement is `Pass.process_handled`. -/

namespace DeclRules

/-- For each transform the edit that takes the place of its own. -/
abbrev Edits := Transform → (container name : String) → Context → EStateM String Form Unit

def Action.withEdits (g : Edits) : Action → Action
  | discard => discard
  | rewrite t => rewrite { t with edit := g t }

def Match.withEdits (g : Edits) (m : Match) : Match := { m with action := m.action.withEdits g }

namespace Table

variable {k : Kind}

def withEdits (g : Edits) (t : Table k) : Table k :=
  ⟨t.rules.map fun r => { r with action := r.action.withEdits g }⟩

/-- Edits have no part in which rule matches. -/
theorem firstMatch_withEdits (g : Edits) (t : Table k) (d : Declaration) :
    (t.withEdits g).firstMatch d = (t.firstMatch d).map (·.withEdits g) := by
  unfold firstMatch withEdits
  rw [List.zipIdx_map, List.findSome?_map, List.map_findSome?]
  congr 1
  funext w
  change (w.1.capture d).map _ = ((w.1.capture d).map _).map _
  rw [Option.map_map]
  rfl

end Table

def Database.withEdits {k : Kind} (g : Edits) (db : Database k) : Database k where
  table := db.table.withEdits g
  hits := db.hits
  length_hits := by rw [db.length_hits, Table.size, Table.size, Table.withEdits, List.length_map]

namespace Compiled

/-- The ruleset with other edits under the labels of its own. -/
def withEdits (g : Edits) (c : Compiled) : Compiled := { c with
  databases := {
    function := c.databases.function.withEdits g
    container := c.databases.container.withEdits g
    typedef := c.databases.typedef.withEdits g
    forwardDeclaration := c.databases.forwardDeclaration.withEdits g } }

theorem table_withEdits (g : Edits) (c : Compiled) (k : Kind) :
    (c.withEdits g).table k = (c.table k).withEdits g := by
  cases k <;> rfl

/-- The declaration falls to the rule of the match. -/
structure FallsTo (c : Compiled) (d : Declaration) (m : Match) : Prop where
  found : (c.resolve d).1 = .ok (some m)
  rule : ∃ r, (c.table d.kind).rules[m.index]? = some r ∧ r.capture d = some m.context ∧
    m.action = r.action ∧ m.origin = r.origin

theorem fallsTo_iff {c : Compiled} {d : Declaration} {m : Match} :
    c.FallsTo d m ↔ (c.table d.kind).firstMatch d = some m := by
  constructor
  · intro h
    exact Except.ok.inj ((c.resolve_fst d).symm.trans h.found)
  · intro h
    exact ⟨(c.resolve_fst d).trans (congrArg Except.ok h), Table.exists_rule_of_firstMatch h⟩

end Compiled

namespace Pass

variable {c : Compiled} {d : Declaration}

section Item

variable {tables : (k : Kind) → Table k} {m : Match} {t : Transform} {form : Form}

theorem itemUnder_of_unmatched (hm : (tables d.kind).firstMatch d = none) :
    itemUnder tables d = .ok {
      kind := d.kind, container := d.container, name := d.name, disposition := .unmatched,
      origin := none, changed := [], emitted := some d } := by
  unfold itemUnder
  rw [hm]
  rfl

theorem itemUnder_of_discard (hm : (tables d.kind).firstMatch d = some m)
    (h : m.action = .discard) : itemUnder tables d = .ok {
      kind := d.kind, container := d.container, name := d.name, disposition := .discarded m.index,
      origin := m.origin, changed := [], emitted := none } := by
  unfold itemUnder
  rw [hm]
  obtain ⟨index, action, origin, context⟩ := m
  cases h
  rfl

theorem itemUnder_of_edit (hm : (tables d.kind).firstMatch d = some m)
    (h : m.action = .rewrite t)
    (hedit : t.edit d.container d.name m.context d.form = .ok () form) :
    itemUnder tables d = .ok {
      kind := d.kind, container := d.container, name := d.name, disposition := .rewritten m.index,
      origin := m.origin, changed := d.form.changedKeys form, emitted := some { d with form } } := by
  have happly : m.action.apply d m.context m.index = .ok (.kept { d with form }) := by
    rw [h, Action.apply, hedit]
  have hmatch : applyMatch d (some m) = .ok (.kept { d with form }, .rewritten m.index) := by
    change (m.action.apply d m.context m.index >>= _) = _
    rw [happly]
    rfl
  unfold itemUnder
  rw [hm]
  change ((applyMatch d (some m)).mapError Failure.action >>= _) = _
  rw [hmatch]
  rfl

theorem itemUnder_of_failing {reason : String} (hm : (tables d.kind).firstMatch d = some m)
    (h : m.action = .rewrite t)
    (hedit : t.edit d.container d.name m.context d.form = .error reason form) :
    itemUnder tables d = .error (.action {
      kind := d.kind, container := d.container, name := d.name, rule := m.index, action := t.label,
      reason }) := by
  have hfails : RewriteFails tables d _ := ⟨m, t, reason, form, hm, h, hedit, rfl⟩
  exact itemUnder_eq_error_iff.mpr ⟨_, hfails, rfl⟩

end Item

/-- What a pass answers about the declaration, by the rule that it falls to. -/
inductive Handled (c : Compiled) (d : Declaration) : Except Failure Item → Prop
  /-- No rule matches, and the declaration is kept as it is. -/
  | unmatched (h : (c.resolve d).1 = .ok none) : Handled c d (.ok {
      kind := d.kind, container := d.container, name := d.name, disposition := .unmatched,
      origin := none, changed := [], emitted := some d })
  | discarded {m : Match} (h : c.FallsTo d m) (haction : m.action = .discard) : Handled c d (.ok {
      kind := d.kind, container := d.container, name := d.name, disposition := .discarded m.index,
      origin := m.origin, changed := [], emitted := none })
  /-- The form is what the edit made of it, and all else is kept. -/
  | rewritten {m : Match} {t : Transform} {form : Form} {changed : List String}
    (h : c.FallsTo d m) (haction : m.action = .rewrite t)
    (hedit : t.edit d.container d.name m.context d.form = .ok () form)
    (hchanged : ∀ k, k ∈ changed ↔ d.form.DiffersAt form k) : Handled c d (.ok {
      kind := d.kind, container := d.container, name := d.name, disposition := .rewritten m.index,
      origin := m.origin, changed, emitted := some { d with form } })
  /-- The edit fails, whatever it had made of the form by then. -/
  | failed {m : Match} {t : Transform} {reason : String} {form : Form}
    (h : c.FallsTo d m) (haction : m.action = .rewrite t)
    (hedit : t.edit d.container d.name m.context d.form = .error reason form) :
    Handled c d (.error (.action {
      kind := d.kind, container := d.container, name := d.name, rule := m.index,
      action := m.action.label, reason }))

theorem handled_itemUnder (c : Compiled) (d : Declaration) :
    Handled c d (itemUnder c.table d) := by
  cases hm : (c.table d.kind).firstMatch d with
  | none =>
    rw [itemUnder_of_unmatched hm]
    exact .unmatched ((c.resolve_fst d).trans (congrArg Except.ok hm))
  | some m =>
    have hfalls : c.FallsTo d m := Compiled.fallsTo_iff.mpr hm
    cases haction : m.action with
    | discard =>
      rw [itemUnder_of_discard hm haction]
      exact .discarded hfalls haction
    | rewrite t =>
      cases hedit : t.edit d.container d.name m.context d.form with
      | ok _ form =>
        rw [itemUnder_of_edit hm haction hedit]
        exact .rewritten hfalls haction hedit fun k => Form.mem_changedKeys_iff
      | error reason form =>
        have hlabel : m.action.label = t.label := congrArg Action.label haction
        rw [itemUnder_of_failing hm haction hedit, ← hlabel]
        exact .failed hfalls haction hedit

/-- The edits do to the form of the declaration what the edit does of the rule that it falls to. -/
def EditAlike (c : Compiled) (d : Declaration) (g : Edits) : Prop :=
  ∀ m t, c.FallsTo d m → m.action = .rewrite t →
    g t d.container d.name m.context d.form = t.edit d.container d.name m.context d.form

/-- What edits would do elsewhere, in other rules or to other forms, has no part in the answer. -/
theorem itemUnder_withEdits {g : Edits} (h : EditAlike c d g) :
    itemUnder (c.withEdits g).table d = itemUnder c.table d := by
  have hwith : ((c.withEdits g).table d.kind).firstMatch d =
      ((c.table d.kind).firstMatch d).map (·.withEdits g) := by
    rw [Compiled.table_withEdits, Table.firstMatch_withEdits]
  cases hm : (c.table d.kind).firstMatch d with
  | none =>
    rw [hm, Option.map_none] at hwith
    rw [itemUnder_of_unmatched hm, itemUnder_of_unmatched hwith]
  | some m =>
    rw [hm, Option.map_some] at hwith
    cases haction : m.action with
    | discard =>
      have haction' : (m.withEdits g).action = .discard :=
        congrArg (Action.withEdits g) haction
      rw [itemUnder_of_discard hm haction, itemUnder_of_discard hwith haction']
      rfl
    | rewrite t =>
      have haction' : (m.withEdits g).action = .rewrite { t with edit := g t } :=
        congrArg (Action.withEdits g) haction
      have halike := h m t (Compiled.fallsTo_iff.mpr hm) haction
      cases hedit : t.edit d.container d.name m.context d.form with
      | ok _ form =>
        rw [itemUnder_of_edit hm haction hedit,
          itemUnder_of_edit hwith haction' (halike.trans hedit)]
        rfl
      | error reason form =>
        rw [itemUnder_of_failing hm haction hedit,
          itemUnder_of_failing hwith haction' (halike.trans hedit)]
        rfl

/-- **A rule affects nothing but the form.** Each declaration is answered in one of four ways, by
the rule that it falls to alone; of all edits only that of this rule is made, at the form of the
declaration, and none if the rule drops the declaration or no rule matches. -/
theorem process_handled (c : Compiled) (d : Declaration) :
    Handled c d ((process d).run c).1 ∧
      ∀ g, EditAlike c d g → ((process d).run (c.withEdits g)).1 = ((process d).run c).1 := by
  refine ⟨?_, fun g hg => ?_⟩
  · rw [process_eq]
    exact handled_itemUnder c d
  · rw [process_eq, process_eq]
    exact itemUnder_withEdits hg

section HalfEdit

/-- Spoils the form before it fails. -/
def halfEdit : Transform where
  label := "half_edit"
  edit _ _ _ := fun f => .error "unsupported" (f.insert Form.decl (.string "garbage"))

/-- Edits every typedef. -/
def typedefsEdited (t : Transform) : Ruleset where
  name := ⟨"_-", by simp [isRulesetName, isNameChar]⟩
  description := none
  parents := []
  rules
    | .typedef => [⟨.typedef, [RuleFile.wildcard, RuleFile.wildcard], .rewrite t, none⟩]
    | _ => []

/-- The edits as they are on the declarations of a name; on all others they fail. -/
def Edits.onlyOn (name : String) : Edits := fun t container name' context =>
  if name' = name then t.edit container name' context else throw t.label

theorem exists_compile_typedefsEdited (t : Transform) : ∃ c, (typedefsEdited t).compile = .ok c := by
  refine Ruleset.exists_compile_iff_parents.mpr ⟨fun k e he => ?_, by simp [typedefsEdited]⟩
  cases k <;> simp [Ruleset.localEntries, typedefsEdited] at he
  subst he
  exact ⟨rfl, rfl, by simp [FieldPattern.compile_wildcard]⟩

/-- The edit fails on the typedef, and what it did to the form before is not to be seen. -/
theorem process_handled_halfEdit : ∃ c, (typedefsEdited halfEdit).compile = .ok c ∧
    Handled c (Ruleset.typedefCalled "a") ((process (Ruleset.typedefCalled "a")).run c).1 ∧
    ((process (Ruleset.typedefCalled "a")).run (c.withEdits (Edits.onlyOn "a"))).1 =
      .error (.action {
        kind := .typedef, container := "", name := "a", rule := 0, action := "half_edit",
        reason := "unsupported" }) := by
  obtain ⟨c, hc⟩ := exists_compile_typedefsEdited halfEdit
  let d := Ruleset.typedefCalled "a"
  let e : Entry := ⟨.typedef, [RuleFile.wildcard, RuleFile.wildcard], .rewrite halfEdit,
    some (typedefsEdited halfEdit).name⟩
  have hwild (text : String) (ht : '\n' ∉ text.toList) :
      FieldPattern.Covers RuleFile.wildcard text := (FieldPattern.covers_wildcard_iff text).mpr ht
  have hfirst : Entry.FirstMatch ((typedefsEdited halfEdit).build .typedef) d 0 e :=
    ⟨rfl, .cons (hwild "" (by decide)) (.cons (hwild "a" (by decide)) .nil),
      fun j _ hj => absurd hj (Nat.not_lt_zero j)⟩
  obtain ⟨context, -, hm⟩ := Table.firstMatch_eq_some
    (Table.compile_eq_ok_iff.mp (Ruleset.compile_table hc .typedef)) hfirst
  have hitem : ((process d).run c).1 = .error (.action {
      kind := .typedef, container := "", name := "a", rule := 0, action := "half_edit",
      reason := "unsupported" }) := by
    rw [process_eq]
    change Item.ofMatch d (.ok ((c.database .typedef).table.firstMatch d)) = _
    rw [hm]
    rfl
  obtain ⟨hhandled, hedits⟩ := process_handled c d
  refine ⟨c, hc, hhandled, (hedits (Edits.onlyOn "a") ?_).trans hitem⟩
  intro m t _ _
  rfl

end HalfEdit

end Pass

end DeclRules
