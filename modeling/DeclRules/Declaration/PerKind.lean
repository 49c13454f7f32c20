import DeclRules.Declaration.Kind

/-! One thing for each kind of declaration. -/

namespace DeclRules

structure PerKind (α : Kind → Type) where
  function : α .function
  container : α .container
  typedef : α .typedef
  forwardDeclaration : α .forwardDeclaration

namespace PerKind

variable {α : Kind → Type}

def get (m : PerKind α) : (k : Kind) → α k
  | .function => m.function
  | .container => m.container
  | .typedef => m.typedef
  | .forwardDeclaration => m.forwardDeclaration

def set (m : PerKind α) (k : Kind) (a : α k) : PerKind α :=
  match k with
  | .function => { m with function := a }
  | .container => { m with container := a }
  | .typedef => { m with typedef := a }
  | .forwardDeclaration => { m with forwardDeclaration := a }

/-- Fills every place, in the order of the kinds, or fails where the first filling fails. -/
def ofExcept {ε : Type} (f : (k : Kind) → Except ε (α k)) : Except ε (PerKind α) := do
  return {
    function := ← f .function
    container := ← f .container
    typedef := ← f .typedef
    forwardDeclaration := ← f .forwardDeclaration }

/-- The contents in the order of the kinds. -/
def toList {β : Type} (m : PerKind α) (f : (k : Kind) → α k → β) : List β :=
  Kind.all.map fun k => f k (m.get k)

@[simp] theorem get_set_self (m : PerKind α) (k : Kind) (a : α k) : (m.set k a).get k = a := by
  cases k <;> rfl

@[simp] theorem get_set_of_ne (m : PerKind α) {k k' : Kind} (a : α k) (h : k' ≠ k) :
    (m.set k a).get k' = m.get k' := by
  cases k <;> cases k' <;> first | rfl | exact absurd rfl h

theorem get_ofExcept {ε : Type} {f : (k : Kind) → Except ε (α k)} {m : PerKind α}
    (h : ofExcept f = .ok m) (k : Kind) : f k = .ok (m.get k) := by
  simp only [ofExcept, bind, Except.bind, pure, Except.pure] at h
  split at h <;> try contradiction
  split at h <;> try contradiction
  split at h <;> try contradiction
  split at h <;> try contradiction
  cases h
  cases k <;> assumption

end PerKind

end DeclRules
