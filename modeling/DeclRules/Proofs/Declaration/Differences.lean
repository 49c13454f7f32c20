import DeclRules.Proofs.Declaration.Attributes

/-! # Lists of changes

Two forms are equal if the objects that they are are (`Form.Equal`), which is to say that they
differ at no attribute (`Form.equal_iff`). A list of changes has the attributes at which two forms
differ and nothing else, so that it is what one expects of a distance: none between equal forms, the
same both ways, and none that is not met on a way round. Edits lead to no differences but at the
attributes they name (`Form.get?_edited`). The main statement is `Form.exactChanges`. -/

namespace DeclRules.Form

open Json

variable {f g : Form} {k : String}

section Equal

/-- The forms are equal as objects. -/
def Equal (f g : Form) : Prop := (Value.object f.entries).agrees (.object g.entries) = true

/-- The form with the signs taken off all zeros in it. -/
def unsignZeros (f : Form) : Form where
  entries := f.entries.map fun e => (e.1, e.2.unsignZeros)
  ordered := by
    rw [Keyed.Ordered, List.pairwise_map]
    exact f.ordered

theorem get?_unsignZeros (f : Form) (k : String) :
    f.unsignZeros.get? k = (f.get? k).map Value.unsignZeros := by
  obtain ⟨l, hl⟩ := f
  unfold Keyed.get? unsignZeros
  dsimp only
  clear hl
  induction l with
  | nil => rfl
  | cons e l ih =>
    rw [List.map_cons, Keyed.lookup, Keyed.lookup, ih]
    split <;> rfl

theorem equal_iff : Equal f g ↔ ∀ k, ¬ DiffersAt f g k := by
  have hunsigned : Equal f g ↔ f.unsignZeros = g.unsignZeros := by
    rw [Equal, Value.agrees_iff, Value.unsignZeros, Value.unsignZeros, Value.object.injEq,
      Value.unsignMembers_eq, Value.unsignMembers_eq]
    exact ⟨fun h => Keyed.eq_of_entries h, fun h => congrArg Keyed.entries h⟩
  simp only [hunsigned, differsAt_iff, not_not, ← get?_unsignZeros]
  exact ⟨fun h k => h ▸ rfl, Keyed.ext_get?⟩

end Equal

section Edits

/-- An edit of one attribute. -/
inductive Edit where
  | set (k : String) (v : Value)
  | remove (k : String)
  | push (k item : String)

/-- The attribute that the edit names. -/
def Edit.key : Edit → String
  | set k _ | remove k | push k _ => k

/-- The form after an edit. A string that cannot be pushed leaves the form as it is. -/
def edit (f : Form) : Edit → Form
  | .set k v => f.insert k v
  | .remove k => f.erase k
  | .push k item =>
    match f.pushUnique k item with
    | .ok g => g
    | .error _ => f

/-- The form after edits, one after the other. -/
def edited (f : Form) (es : List Edit) : Form := es.foldl edit f

/-- An edit leaves alone what it does not name. -/
theorem get?_edit (f : Form) {e : Edit} (h : k ≠ e.key) : (f.edit e).get? k = f.get? k := by
  cases e with
  | set k' v => exact Keyed.get?_insert_of_ne h f v
  | remove k' => exact Keyed.get?_erase_of_ne h f
  | push k' item =>
    rw [edit]
    cases hpush : f.pushUnique k' item with
    | error e => rfl
    | ok g =>
      obtain ⟨items, -, -, hother⟩ := pushed_of_pushUnique hpush
      exact hother k h

theorem get?_edited (f : Form) {es : List Edit} (h : ∀ e ∈ es, k ≠ e.key) :
    (f.edited es).get? k = f.get? k := by
  induction es generalizing f with
  | nil => rfl
  | cons e es ih =>
    obtain ⟨he, hes⟩ := List.forall_mem_cons.mp h
    exact (ih (f.edit e) hes).trans (get?_edit f he)

end Edits

/-- The list of changes from one form to another. -/
structure ExactChanges (f g : Form) : Prop where
  /-- The list is in the order of code points, and nothing is in it twice. -/
  increasing : (changedKeys f g).Pairwise (· < ·)
  mem_iff : ∀ k, k ∈ changedKeys f g ↔ DiffersAt f g k
  eq_nil_iff : changedKeys f g = [] ↔ Equal f g
  symm : changedKeys f g = changedKeys g f
  /-- Whatever differs in the end differs on one of the two parts of the way. -/
  through : ∀ h : Form, changedKeys f g ⊆ changedKeys f h ++ changedKeys h g
  /-- Edits change nothing but what they name. -/
  edited : ∀ es : List Edit, changedKeys f (f.edited es) ⊆ es.map Edit.key

/-- **Lists of changes are exact.** Values are equal if they are the same up to the signs of zeros;
so no integer is equal to a float, and floats are equal if they stand for the same number. -/
theorem exactChanges (f g : Form) :
    (∀ v w : Value, v.agrees w = true ↔ v.unsignZeros = w.unsignZeros) ∧
    (∀ n x, (Value.number (.int n)).agrees (.number (.real x)) = false) ∧
    (∀ x y, (Value.number (.real x)).agrees (.number (.real y)) = true ↔ x.scaled = y.scaled) ∧
    ExactChanges f g := by
  refine ⟨Value.agrees_iff, fun n x => rfl, fun x y => x.agrees_iff_scaled, ?_⟩
  refine ⟨pairwise_changedKeys f g, fun k => mem_changedKeys_iff, ?_, ?_, ?_, ?_⟩
  · rw [equal_iff, List.eq_nil_iff_forall_not_mem]
    simp only [mem_changedKeys_iff]
  · refine (pairwise_changedKeys f g).eq_of_mem_iff (pairwise_changedKeys g f) fun k => ?_
    rw [mem_changedKeys_iff, mem_changedKeys_iff, differsAt_iff, differsAt_iff, ne_comm]
  · intro h k hk
    rw [List.mem_append, mem_changedKeys_iff, mem_changedKeys_iff]
    rw [mem_changedKeys_iff] at hk
    by_contra hnot
    simp only [differsAt_iff, not_or, not_not] at hk hnot
    exact hk (hnot.1.trans hnot.2)
  · intro es k hk
    by_contra hnot
    have hother : ∀ e ∈ es, k ≠ e.key := fun e he heq => hnot (List.mem_map.mpr ⟨e, he, heq.symm⟩)
    exact not_differsAt_of_get?_eq (get?_edited f hother).symm (mem_changedKeys_iff.mp hk)

end DeclRules.Form
