import Casebook.Proofs.Fallible
import Casebook.Proofs.Model.Building
import Casebook.Proofs.Signature.Agreement

/-!
# Binding tests to any signatures

Tests can be bound to signatures that were not inferred from them.  Then a function may have several
signatures, of which the last one counts, or none, in which case its first test that does not expect
its call to fail stops the binding.

Main definitions:

- {lit}`IsLastNamed`: a signature is the last one with a name.
- {lit}`Leaf.Unbound`: a test needs a signature and has none.
- {lit}`missingSignatures`: the functions of the unbound tests.
- {lit}`TakenFrom`: a test case has the data of a test and the last signature with its name.

Main results:

- Theorem {lit}`lastSignature?_eq_some_iff`: the signature that is found is the last one with the
  name.
- Theorem {lit}`stopsAtFirst_bindLeaves`: the binding stops at the first unbound test.
- Theorem {lit}`boundTo_iff`: a test is bound to the last signature with the name of its function
  and keeps its data.
- Theorem {lit}`bindLeaves_to_any_signatures`: when the binding fails, with which message, and what
  it yields otherwise.
-/

namespace Casebook

/-! ## The last signature with a name -/

/-- A signature of a list bears a name, and none of those that come after it does. -/
def IsLastNamed (signatures : List Signature) (name : String) (signature : Signature) : Prop :=
  ∃ before after, signatures = before ++ signature :: after ∧ signature.name = name ∧
    ∀ later ∈ after, later.name ≠ name

/-- The signature that is found is the last one with the name. -/
theorem lastSignature?_eq_some_iff (signatures : List Signature) (name : String)
    (signature : Signature) :
    lastSignature? signatures name = some signature ↔ IsLastNamed signatures name signature := by
  rw [lastSignature?_eq_find?, List.find?_eq_some_iff_append]
  constructor
  · rintro ⟨hname, after, before, hsplit, hafter⟩
    refine ⟨before.reverse, after.reverse, ?_, by simpa using hname, ?_⟩
    · rw [List.reverse_eq_iff.mp hsplit]
      simp
    · intro later hmem
      simpa using hafter later (List.mem_reverse.mp hmem)
  · rintro ⟨before, after, rfl, hname, hafter⟩
    refine ⟨by simpa using hname, after.reverse, before.reverse, by simp, ?_⟩
    intro later hmem
    simpa using hafter later (List.mem_reverse.mp hmem)

/-! ## Tests that cannot be bound -/

/-- A test does not expect its call to fail, and no signature bears the name of its function. -/
structure Leaf.Unbound (signatures : List Signature) (leaf : Leaf) : Prop where
  retained : leaf.expected.isError = false
  unnamed : ∀ signature ∈ signatures, signature.name ≠ leaf.property

/-- Whether a test can be bound is found out by going through the signatures. -/
instance (signatures : List Signature) (leaf : Leaf) : Decidable (leaf.Unbound signatures) :=
  decidable_of_iff
    (leaf.expected.isError = false ∧ ∀ signature ∈ signatures, signature.name ≠ leaf.property)
    ⟨fun h => ⟨h.1, h.2⟩, fun h => ⟨h.retained, h.unnamed⟩⟩

/-- A test that does not expect its call to fail comes to a test case unless it is unbound. -/
theorem stopsAtFirst_bindLeaf (signatures : List Signature) {leaf : Leaf}
    (h : leaf.expected.isError = false) :
    StopsAtFirst (bindLeaf signatures leaf)
      (if leaf.Unbound signatures then [⟨leaf.property⟩] else []) := by
  unfold bindLeaf bindByIndex
  cases hlast : (signatureIndex signatures).get? leaf.property with
  | none =>
      have hunbound : leaf.Unbound signatures := ⟨h, (lastSignature?_eq_none_iff _ _).mp hlast⟩
      rw [if_pos hunbound]
      rfl
  | some signature =>
      have hbound : ¬ leaf.Unbound signatures := by
        intro hunbound
        have hnone := (lastSignature?_eq_none_iff _ _).mpr hunbound.unnamed
        rw [lastSignature?, hlast] at hnone
        contradiction
      rw [if_neg hbound]
      rfl

/-- The tests that cannot be bound, by their functions, in the order of the tests. -/
def missingSignatures (signatures : List Signature) (leaves : List Leaf) : List MissingSignature :=
  (leaves.filter fun leaf => leaf.Unbound signatures).map fun leaf => ⟨leaf.property⟩

/-- The tests that cannot be bound are found among those that do not expect their call to fail. -/
theorem missingSignatures_eq_flatMap (signatures : List Signature) (leaves : List Leaf) :
    missingSignatures signatures leaves =
      (leaves.filter fun leaf => !leaf.expected.isError).flatMap fun leaf =>
        if leaf.Unbound signatures then [⟨leaf.property⟩] else [] := by
  induction leaves with
  | nil => rfl
  | cons leaf leaves ih =>
      rw [missingSignatures] at ih ⊢
      cases hfails : leaf.expected.isError with
      | true =>
          -- A test that expects its call to fail is passed over, with or without a signature.
          have hbound : ¬ leaf.Unbound signatures := fun h => by simp [h.retained] at hfails
          simp [hfails, hbound, ih]
      | false => by_cases h : leaf.Unbound signatures <;> simp [hfails, h, ih]

/-- The binding stops at the first test that cannot be bound. -/
theorem stopsAtFirst_bindLeaves (signatures : List Signature) (leaves : List Leaf) :
    StopsAtFirst (bindLeaves signatures leaves) (missingSignatures signatures leaves) := by
  rw [bindLeaves, missingSignatures_eq_flatMap]
  refine StopsAtFirst.mapM fun leaf hmem => ?_
  have hretained := (List.mem_filter.mp hmem).2
  exact stopsAtFirst_bindLeaf signatures (by simpa using hretained)

/-- The binding fails exactly at the first unbound test. -/
theorem bindLeaves_eq_error_iff (signatures : List Signature) (leaves : List Leaf)
    (missing : MissingSignature) :
    bindLeaves signatures leaves = .error missing ↔
      ∃ before leaf after, leaves = before ++ leaf :: after ∧
        (∀ earlier ∈ before, ¬ earlier.Unbound signatures) ∧ leaf.Unbound signatures ∧
        missing = ⟨leaf.property⟩ := by
  rw [(stopsAtFirst_bindLeaves signatures leaves).error_iff, missingSignatures, List.head?_map,
    List.head?_filter, Option.map_eq_some_iff]
  simp only [List.find?_eq_some_iff_append, decide_eq_true_eq]
  constructor
  · rintro ⟨leaf, ⟨hunbound, before, after, hsplit, hbefore⟩, rfl⟩
    exact ⟨before, leaf, after, hsplit, fun earlier hmem => by simpa using hbefore earlier hmem,
      hunbound, rfl⟩
  · rintro ⟨before, leaf, after, hsplit, hbefore, hunbound, rfl⟩
    exact ⟨leaf, ⟨hunbound, before, after, hsplit,
      fun earlier hmem => by simpa using hbefore earlier hmem⟩, rfl⟩

/-- The binding succeeds exactly if no test is unbound. -/
theorem exists_bindLeaves_iff (signatures : List Signature) (leaves : List Leaf) :
    (∃ testCases, bindLeaves signatures leaves = .ok testCases) ↔
      ∀ leaf ∈ leaves, ¬ leaf.Unbound signatures := by
  rw [(stopsAtFirst_bindLeaves signatures leaves).ok_iff, missingSignatures,
    List.map_eq_nil_iff, List.filter_eq_nil_iff]
  simp

/-! ## Test cases -/

/-- A test case has the description and the data of a test, and the last signature with the name of
the function that the test calls. -/
structure TakenFrom (signatures : List Signature) (leaf : Leaf) (testCase : TestCase) : Prop where
  name : testCase.name = leaf.description
  signature : IsLastNamed signatures leaf.property testCase.signature
  arguments : testCase.arguments = leaf.input
  expected : testCase.expected = leaf.expected
  comments : testCase.comments = leaf.comments
  optional : testCase.optional = leaf.optional

/-- A test comes to the test case with its data and the last signature of its function. -/
theorem boundTo_iff (signatures : List Signature) (leaf : Leaf) (testCase : TestCase) :
    BoundTo signatures leaf testCase ↔ TakenFrom signatures leaf testCase := by
  simp only [BoundTo, lastSignature?_eq_some_iff]
  constructor
  · rintro ⟨signature, hlast, rfl⟩
    exact ⟨rfl, hlast, rfl, rfl, rfl, rfl⟩
  · rintro ⟨hname, hlast, harguments, hexpected, hcomments, hoptional⟩
    refine ⟨testCase.signature, hlast, ?_⟩
    rcases testCase with ⟨name, signature, arguments, expected, comments, optional⟩
    rw [Leaf.toTestCase, ← hname, ← harguments, ← hexpected, ← hcomments, ← hoptional]

/-- The tests that do not expect their call to fail come to their test cases, one by one. -/
theorem bindLeaves_eq_ok_iff_takenFrom (signatures : List Signature) (leaves : List Leaf)
    (testCases : List TestCase) :
    bindLeaves signatures leaves = .ok testCases ↔
      List.Forall₂ (TakenFrom signatures) (leaves.filter fun leaf => !leaf.expected.isError)
        testCases := by
  have hrelation : BoundTo signatures = TakenFrom signatures :=
    funext₂ fun leaf testCase => propext (boundTo_iff signatures leaf testCase)
  rw [bindLeaves_eq_ok_iff, hrelation]

/-- Whatever the tests and the signatures are, the binding fails exactly if a test is unbound, with
a message that names the function of the first such test, and yields otherwise one test case for
every test that does not expect its call to fail, in their order. -/
theorem bindLeaves_to_any_signatures (signatures : List Signature) (leaves : List Leaf) :
    ((∃ missing, bindLeaves signatures leaves = .error missing) ↔
        ∃ leaf ∈ leaves, leaf.Unbound signatures) ∧
      (∀ missing, bindLeaves signatures leaves = .error missing ↔
        ∃ before leaf after, leaves = before ++ leaf :: after ∧
          (∀ earlier ∈ before, ¬ earlier.Unbound signatures) ∧ leaf.Unbound signatures ∧
          missing = ⟨leaf.property⟩ ∧
          missing.message = "no signature inferred for `" ++ leaf.property ++ "`") ∧
      ((∃ testCases, bindLeaves signatures leaves = .ok testCases) ↔
        ∀ leaf ∈ leaves, ¬ leaf.Unbound signatures) ∧
      ∀ testCases, bindLeaves signatures leaves = .ok testCases ↔
        List.Forall₂ (TakenFrom signatures)
          (leaves.filter fun leaf => !leaf.expected.isError) testCases := by
  refine ⟨?_, ?_, exists_bindLeaves_iff signatures leaves, bindLeaves_eq_ok_iff_takenFrom _ _⟩
  · have hbound := exists_bindLeaves_iff signatures leaves
    cases hbind : bindLeaves signatures leaves with
    | ok testCases => simpa [hbind] using hbound
    | error missing => simpa [hbind] using hbound
  · intro missing
    rw [bindLeaves_eq_error_iff]
    constructor
    · rintro ⟨before, leaf, after, hsplit, hbefore, hunbound, rfl⟩
      exact ⟨before, leaf, after, hsplit, hbefore, hunbound, rfl, rfl⟩
    · rintro ⟨before, leaf, after, hsplit, hbefore, hunbound, heq, -⟩
      exact ⟨before, leaf, after, hsplit, hbefore, hunbound, heq⟩

/-- Two signatures of one function, and none of the other function that the four sample tests
call. -/
def repeatedSignatures : List Signature := [
  ⟨"add", .empty, .double⟩,
  ⟨"add", .ofList [("a", .int), ("b", .int)], .int⟩,
  ⟨"negate", .ofList [("a", .int)], .int⟩]

/-- The binding passes over a failing call of the function without a signature, and stops at its
other call; the tests before that come to a test case with the second of the two signatures. -/
theorem bindLeaves_to_any_signatures_repeated :
    (∃ missing, bindLeaves repeatedSignatures sampleLeaves = .error missing ∧
        missing.message = "no signature inferred for `divide`") ∧
      ∃ testCase, bindLeaves repeatedSignatures (sampleLeaves.take 3) = .ok [testCase] ∧
        testCase.name = "two summands" ∧ testCase.signature.returns = .int := by
  constructor
  · refine ⟨⟨"divide"⟩, ?_, rfl⟩
    apply ((bindLeaves_to_any_signatures repeatedSignatures sampleLeaves).2.1 _).mpr
    exact ⟨sampleLeaves.take 3, _, [], rfl, by decide, by decide, rfl, rfl⟩
  · refine ⟨⟨"two summands", ⟨"add", .ofList [("a", .int), ("b", .int)], .int⟩,
      .ofList [("b", .int 2), ("a", .int 1)], .int 3, none, none⟩, ?_, rfl, rfl⟩
    apply ((bindLeaves_to_any_signatures repeatedSignatures (sampleLeaves.take 3)).2.2.2 _).mpr
    refine .cons ⟨rfl, ?_, rfl, rfl, rfl, rfl⟩ .nil
    exact ⟨[⟨"add", .empty, .double⟩], [⟨"negate", .ofList [("a", .int)], .int⟩], rfl, rfl,
      by decide⟩

end Casebook
