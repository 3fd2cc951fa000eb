import Casebook.Model.Basic

/-!
# Binding tests to signatures

Every test that does not expect its call to fail becomes a test case, bound to the signature of its
function.  The signatures are put into an index by their names, one after another, so that of
several signatures with one name the last one counts.

Main definitions:

- {lit}`signatureIndex`: the signatures by their names.
- {lit}`bindByIndex`: the test case of a test with a signature from an index.
- {lit}`bindLeaves`: the test cases of a list of tests.
- {lit}`duplicateNames`: the names that several test cases bear.
-/

namespace Casebook

/-- A test calls a function without a signature. -/
structure MissingSignature where
  property : String
  deriving DecidableEq, Repr, Inhabited

/-- The message that tells the function. -/
def MissingSignature.message (missing : MissingSignature) : String :=
  "no signature inferred for `" ++ missing.property ++ "`"

/-- The signatures by their names: a later signature takes the place of an earlier one with the
same name. -/
def signatureIndex (signatures : List Signature) : Table Signature :=
  .ofList (signatures.map fun signature => (signature.name, signature))

/-- The last signature with a name, as the index holds it. -/
def lastSignature? (signatures : List Signature) (name : String) : Option Signature :=
  (signatureIndex signatures).get? name

/-- The test case of a test with a signature. -/
def Leaf.toTestCase (leaf : Leaf) (signature : Signature) : TestCase where
  name := leaf.description
  signature := signature
  arguments := leaf.input
  expected := leaf.expected
  comments := leaf.comments
  optional := leaf.optional

/-- The test case of a test, bound to the signature that an index holds under the name of its
function. -/
def bindByIndex (index : Table Signature) (leaf : Leaf) : Except MissingSignature TestCase :=
  match index.get? leaf.property with
  | some signature => .ok (leaf.toTestCase signature)
  | none => .error ⟨leaf.property⟩

/-- The test case of a test, bound to one of some signatures. -/
def bindLeaf (signatures : List Signature) (leaf : Leaf) : Except MissingSignature TestCase :=
  bindByIndex (signatureIndex signatures) leaf

/-- The test cases of those tests that do not expect a failing call.  One index serves them all. -/
def bindLeaves (signatures : List Signature) (leaves : List Leaf) :
    Except MissingSignature (List TestCase) :=
  (leaves.filter fun leaf => !leaf.expected.isError).mapM
    (bindByIndex (signatureIndex signatures))

/-- How often each name is borne, in the order of first appearance. -/
def nameCounts (names : List String) : Table Nat :=
  names.foldl (fun counts name => counts.put name ((counts.get? name).getD 0 + 1)) .empty

/-- A warning for every name that more than one test case bears, in the order of first
appearance. -/
def duplicateNames (testCases : List TestCase) : List Warning :=
  (nameCounts (testCases.map TestCase.name)).entries.filterMap fun entry =>
    if 1 < entry.2 then some (.duplicateName entry.1 entry.2) else none

end Casebook
