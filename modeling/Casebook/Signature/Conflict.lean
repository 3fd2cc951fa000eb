import Casebook.Value.Basic

/-!
# Conflicts between calls

Calls of the same function may disagree on an input or on the result.  A conflict records the
first disagreement on one of them.

Main definitions:

- {lit}`Slot`: what the calls disagree on.
- {lit}`Conflict`: a disagreement.
- {lit}`Conflict.functions`: the functions that some conflicts concern.
-/

namespace Casebook

/-- A part of a signature that has a kind. -/
inductive Slot where
  | parameter (name : String)
  | result
  deriving DecidableEq, Repr, Inhabited

namespace Slot

/-- The written form. -/
def text : Slot → String
  | .parameter name => "parameter `" ++ name ++ "`"
  | .result => "return value"

end Slot

/-- A disagreement between the calls of a function. -/
structure Conflict where
  function : String
  slot : Slot
  /-- The kind that all earlier calls show; none if none of them has this input. -/
  previous : Option Kind
  /-- The kind that the disagreeing call shows; none if it lacks this input. -/
  observed : Option Kind
  deriving DecidableEq, Repr, Inhabited

namespace Conflict

/-- The word for what a call shows. -/
def kindText : Option Kind → String
  | none => "absent"
  | some kind => kind.name

/-- The written form. -/
def text (conflict : Conflict) : String :=
  "`" ++ conflict.function ++ "`: " ++ conflict.slot.text ++ " seen as "
    ++ kindText conflict.previous ++ " and " ++ kindText conflict.observed
    ++ ", widened to Unknown"

/-- The functions that some conflicts concern, each once and in the order of their first
conflicts. -/
def functions (conflicts : List Conflict) : List String :=
  (conflicts.map Conflict.function).eraseDups

end Conflict

end Casebook
