import HingeField.Model

/-!
Stores as callers hand them over: a model, or any other value, which every
operation on a store refuses before it does anything else.
-/

namespace HingeField

inductive Store where
  | model (model : Model Float)
  | other (value : Property)

/-- The model of a store. -/
def Store.check : Store → Except Fault (Model Float)
  | .model held => .ok held
  | .other value => .error (.wrongStore value)

end HingeField
