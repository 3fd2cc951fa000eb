import Casebook.Model.Basic

/-!
# Equality of models

Two models are equal if they say the same in the same order.  Only the order of the entries of a
table does not count, nor that of the entries of a map inside a value.

Main definitions:

- {lit}`Table.same`: equality of tables whose values are compared in a given way.
- {lit}`Signature.same`, {lit}`TestCase.same`: equality of signatures and of test cases.
- {lit}`Model.same`: equality of models.
-/

namespace Casebook

/-- Two tables are equal: they are equally long, and every name of the first holds an equal value in
the second. -/
def Table.same {α : Type} (eq : α → α → Bool) (s t : Table α) : Bool :=
  s.entries.length == t.entries.length
    && s.entries.all fun entry => (t.get? entry.1).any (eq entry.2)

/-- Two signatures are equal: their parameters may be listed in different orders. -/
def Signature.same (s t : Signature) : Bool :=
  s.name == t.name && s.parameters.same (fun a b => a == b) t.parameters && s.returns == t.returns

/-- Two test cases are equal: their arguments may be listed in different orders. -/
def TestCase.same (a b : TestCase) : Bool :=
  a.name == b.name && a.signature.same b.signature && a.arguments.same Value.same b.arguments
    && a.expected.same b.expected && a.comments == b.comments && a.optional == b.optional

/-- Two models are equal: their signatures and their test cases are, one by one. -/
def Model.same (a b : Model) : Bool :=
  a.slug == b.slug && a.signatures.isEqv b.signatures Signature.same
    && a.testCases.isEqv b.testCases TestCase.same

end Casebook
