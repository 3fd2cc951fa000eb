import Casebook.Document.Basic
import Casebook.Signature.Conflict

/-!
# Signatures

A signature tells the names and kinds of the parameters of a function and the kind of its result,
as far as the calls of the function agree on them.

Main definitions:

- {lit}`Signature`: a name, parameters in order, and the kind of the result.
- {lit}`Signature.text`: the written form.
- {lit}`CallShape`: what one call shows of the function that it calls.
-/

namespace Casebook

/-- What is known of a function. -/
structure Signature where
  name : String
  /-- The parameters in the order in which they were first seen. -/
  parameters : Table Kind
  returns : Kind
  deriving DecidableEq, Repr, Inhabited

namespace Signature

/-- A parameter with its kind. -/
def parameterText (parameter : String × Kind) : String :=
  parameter.1 ++ ": " ++ parameter.2.name

/-- The written form: the name, the parameters in parentheses, and the kind of the result. -/
def text (signature : Signature) : String :=
  signature.name ++ "(" ++ ", ".intercalate (signature.parameters.entries.map parameterText)
    ++ ") -> " ++ signature.returns.name

end Signature

/-- What one call shows of the function that it calls. -/
structure CallShape where
  /-- The inputs in order, with their kinds. -/
  inputs : Table Kind
  /-- The kind of the result; a failing call shows none. -/
  returns : Option Kind
  deriving DecidableEq, Repr, Inhabited

/-- What the call of a test shows of its function. -/
def Leaf.shape (leaf : Leaf) : CallShape where
  inputs := leaf.input.mapValues fun _ value => value.kind
  returns := if leaf.expected.isError then none else some leaf.expected.kind

end Casebook
