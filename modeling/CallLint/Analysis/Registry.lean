import CallLint.Analysis.Shape

/-!
# Actions by shape

Rules register actions for the shapes they want to see; the analyzer runs those of each node's shape.
-/

namespace CallLint

/-- Actions with the shapes they are registered for, in the order of registration. -/
structure Registry (α : Type) where
  entries : List (Shape × α)

namespace Registry

variable {α : Type}

/-- Without actions. -/
def empty : Registry α := ⟨[]⟩

/-- Registers an action for some shapes; nothing if there are none. -/
def register? (r : Registry α) (action : α) (shapes : List Shape) : Option (Registry α) :=
  if shapes.isEmpty then none else some ⟨r.entries ++ shapes.map (·, action)⟩

/-- Why no registration takes place without a shape. -/
def noShapeMessage : String := "At least one node kind is required"

/-- The actions for a shape, in the order of registration. -/
def actionsFor (r : Registry α) (s : Shape) : List α := (r.entries.filter (·.1 == s)).map (·.2)

end Registry

end CallLint
