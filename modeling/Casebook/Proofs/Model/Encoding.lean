import Casebook.Proofs.Model.Building
import Casebook.Proofs.Value.Encoding

/-!
# Models can be told from their texts

The text of a model loses nothing: models that are written alike are equal, with all names, orders
of entries, kinds of values and signs of zeros.

Main definitions:

- {lit}`Model.Representable`: all doubles in the test cases of a model are representable.

Main results:

- Theorems {lit}`Signature.toJson_injective`, {lit}`TestCase.toJson_injective` and
  {lit}`Model.toJson_injective`: what has the same JSON form is equal.
- Theorem {lit}`BuiltFrom.representable`: all doubles in a model come from numerals.
- Theorem {lit}`build_text_injective`: models with the same text are equal.
-/

namespace Casebook

/-! ## Parts of JSON forms -/

/-- Lists are equal if a function that tells their items apart maps them to the same list. -/
theorem eq_of_map_eq {α β : Type} {f : α → β} {as bs : List α}
    (hf : ∀ a ∈ as, ∀ b ∈ bs, f a = f b → a = b) (h : as.map f = bs.map f) : as = bs := by
  induction as generalizing bs with
  | nil => simpa using h.symm
  | cons a as ih =>
      cases bs with
      | nil => simp at h
      | cons b bs =>
          rw [List.map_cons, List.map_cons, List.cons.injEq] at h
          have hhead : a = b := hf a List.mem_cons_self b List.mem_cons_self h.1
          have htail : as = bs :=
            ih (fun c hc d hd => hf c (List.mem_cons_of_mem a hc) d (List.mem_cons_of_mem b hd)) h.2
          rw [hhead, htail]

namespace Json

/-- Something is told from null if its JSON form is never null. -/
theorem ofOption_injective {α : Type} {encode : α → Json} (hencode : Function.Injective encode)
    (hnull : ∀ a, encode a ≠ .null) : Function.Injective (ofOption encode) := by
  intro a b h
  cases a <;> cases b
  case none.none => rfl
  case some.some a b => rw [hencode h]
  case none.some b => exact (hnull b h.symm).elim
  case some.none a => exact (hnull a h).elim

/-- Different texts have different JSON forms. -/
theorem string_injective : Function.Injective Json.string := by
  intro s t h
  simpa using h

/-- Different lists of texts have different JSON forms. -/
theorem ofStrings_injective : Function.Injective ofStrings := by
  intro strings others h
  simp only [ofStrings, array.injEq] at h
  exact string_injective.list_map h

end Json

/-- Different kinds have different names. -/
theorem Kind.toJson_injective : Function.Injective toJson := by
  intro kind other h
  cases kind <;> cases other <;> first | rfl | simp [toJson, name] at h

/-! ## Signatures and test cases -/

/-- Different signatures have different JSON forms. -/
theorem Signature.toJson_injective : Function.Injective toJson := by
  rintro ⟨name, parameters, returns⟩ ⟨otherName, others, otherReturns⟩ h
  simp only [toJson, Json.object.injEq, List.cons.injEq, Prod.mk.injEq, Json.string.injEq,
    true_and, and_true] at h
  rcases h with ⟨rfl, hparameters, hreturns⟩
  have hentries : parameters.entries = others.entries := by
    apply eq_of_map_eq _ hparameters
    rintro ⟨key, kind⟩ - ⟨other, twin⟩ - heq
    simp only [Prod.mk.injEq] at heq
    rw [heq.1, Kind.toJson_injective heq.2]
  rw [Table.ext hentries, Kind.toJson_injective hreturns]

/-- All doubles in the arguments and in the expected value of a test case are representable. -/
structure TestCase.Representable (testCase : TestCase) : Prop where
  arguments : ∀ entry ∈ testCase.arguments.entries, entry.2.Representable
  expected : testCase.expected.Representable

/-- Different test cases have different JSON forms, if their doubles are representable. -/
theorem TestCase.toJson_injective {testCase other : TestCase} (htestCase : testCase.Representable)
    (hother : other.Representable) (h : testCase.toJson = other.toJson) : testCase = other := by
  rcases htestCase with ⟨harguments, hexpected⟩
  rcases hother with ⟨hotherArguments, hotherExpected⟩
  rcases testCase with ⟨name, signature, arguments, expected, comments, optional⟩
  rcases other with ⟨otherName, otherSignature, others, otherExpected, otherComments, otherOptional⟩
  simp only [toJson, Json.object.injEq, List.cons.injEq, Prod.mk.injEq, Json.string.injEq,
    true_and, and_true] at h
  rcases h with ⟨rfl, hsignature, hentries, hvalue, hcomments, hoptional⟩
  rw [Value.entries_mapValues_toJson, Value.entries_mapValues_toJson] at hentries
  have harguments : arguments = others :=
    Table.ext (Value.entriesToJson_injective _ _ harguments hotherArguments hentries)
  have hexpected : expected = otherExpected :=
    Value.toJson_injective _ _ hexpected hotherExpected hvalue
  have hcomments : comments = otherComments :=
    Json.ofOption_injective Json.ofStrings_injective (by simp [Json.ofStrings]) hcomments
  have hoptional : optional = otherOptional :=
    Json.ofOption_injective Json.string_injective (by simp) hoptional
  rw [Signature.toJson_injective hsignature, harguments, hexpected, hcomments, hoptional]

/-! ## Models -/

/-- All doubles in the test cases of a model are representable. -/
def Model.Representable (model : Model) : Prop :=
  ∀ testCase ∈ model.testCases, testCase.Representable

/-- Different models have different JSON forms, if their doubles are representable. -/
theorem Model.toJson_injective {model other : Model} (hmodel : model.Representable)
    (hother : other.Representable) (h : model.toJson = other.toJson) : model = other := by
  rcases model with ⟨slug, signatures, testCases⟩
  rcases other with ⟨otherSlug, others, otherCases⟩
  simp only [toJson, Json.object.injEq, List.cons.injEq, Prod.mk.injEq, Json.string.injEq,
    Json.array.injEq, true_and, and_true] at h
  rcases h with ⟨rfl, hsignatures, htestCases⟩
  have hcases : testCases = otherCases :=
    eq_of_map_eq (fun a ha b hb => TestCase.toJson_injective (hmodel a ha) (hother b hb)) htestCases
  rw [Signature.toJson_injective.list_map hsignatures, hcases]

/-- There are no numbers in the JSON form of a signature. -/
theorem Signature.numbersWellFormed_toJson (signature : Signature) :
    signature.toJson.NumbersWellFormed := by
  have hparameters : ∀ field ∈ (signature.parameters.mapValues fun _ kind => kind.toJson).entries,
      field.2.NumbersWellFormed := by
    intro field hmem
    rcases List.mem_map.mp hmem with ⟨parameter, -, rfl⟩
    trivial
  simpa [toJson, Json.NumbersWellFormed, Json.NumbersWellFormedFields, Kind.toJson,
    Json.numbersWellFormedFields_iff] using hparameters

/-- There are no numbers in the JSON form of texts that may be missing. -/
theorem Json.numbersWellFormed_ofStrings (comments : Option (List String)) :
    (ofOption ofStrings comments).NumbersWellFormed := by
  cases comments with
  | none => trivial
  | some strings =>
      rw [ofOption, ofStrings, NumbersWellFormed, numbersWellFormedItems_iff]
      intro item hmem
      rcases List.mem_map.mp hmem with ⟨s, -, rfl⟩
      trivial

/-- There are no numbers in the JSON form of a text that may be missing. -/
theorem Json.numbersWellFormed_ofOption_string (text : Option String) :
    (ofOption string text).NumbersWellFormed := by
  cases text <;> trivial

/-- The numbers in the JSON form of a test case are well formed, if its doubles are
representable. -/
theorem TestCase.numbersWellFormed_toJson {testCase : TestCase} (h : testCase.Representable) :
    testCase.toJson.NumbersWellFormed := by
  have harguments : Json.NumbersWellFormedFields
      (testCase.arguments.mapValues fun _ value => value.toJson).entries := by
    rw [Value.entries_mapValues_toJson]
    exact Value.numbersWellFormed_entriesToJson _ h.arguments
  exact ⟨trivial, testCase.signature.numbersWellFormed_toJson, harguments,
    Value.numbersWellFormed_toJson _ h.expected, Json.numbersWellFormed_ofStrings _,
    Json.numbersWellFormed_ofOption_string _, trivial⟩

/-- The numbers in the JSON form of a model are well formed, if its doubles are representable. -/
theorem Model.numbersWellFormed_toJson {model : Model} (h : model.Representable) :
    model.toJson.NumbersWellFormed := by
  have hsignatures : Json.NumbersWellFormedItems (model.signatures.map Signature.toJson) := by
    rw [Json.numbersWellFormedItems_iff, List.forall_mem_map]
    exact fun signature _ => signature.numbersWellFormed_toJson
  have htestCases : Json.NumbersWellFormedItems (model.testCases.map TestCase.toJson) := by
    rw [Json.numbersWellFormedItems_iff, List.forall_mem_map]
    exact fun testCase hmem => TestCase.numbersWellFormed_toJson (h testCase hmem)
  exact ⟨trivial, hsignatures, htestCases, trivial⟩

/-- Models with the same text are equal, if their doubles are representable. -/
theorem Model.text_injective {model other : Model} (hmodel : model.Representable)
    (hother : other.Representable) (h : model.text = other.text) : model = other :=
  toJson_injective hmodel hother
    (Json.pretty_injective (numbersWellFormed_toJson hmodel) (numbersWellFormed_toJson hother) h)

/-! ## Models that are built -/

/-- All doubles in an input or an expected value of a test are representable. -/
theorem Json.representable_of_typedAs {role : Role} {raw : Json} {value : Value}
    (h : raw.TypedAs role value) : value.Representable := by
  cases role with
  | input => exact ((typedAs_input_iff raw value).mp h).2.representable
  | expected =>
      rcases (typedAs_expected_iff raw value).mp h with ⟨message, -, rfl⟩ | ⟨-, hvalue⟩
      · exact .error message
      · exact hvalue.representable

/-- All doubles in a test case that a test of an object comes to are representable. -/
theorem LeafOf.representable {fields : Fields} {leaf : Leaf} (h : LeafOf fields leaf)
    (signature : Signature) : (leaf.toTestCase signature).Representable := by
  rcases h.input with ⟨inputs, -, typed, htyped, hinputs⟩
  rcases h.expected with ⟨raw, -, hexpected⟩
  constructor
  · intro entry hmem
    have hentry : entry ∈ leaf.input.entries := hmem
    rw [hinputs] at hentry
    rcases ItemByItem.exists_left htyped entry (Table.mem_of_mem_ofList hentry) with
      ⟨field, -, hinput⟩
    exact Json.representable_of_typedAs hinput.2
  · exact Json.representable_of_typedAs hexpected

/-- All doubles in a model that is built from a document are representable. -/
theorem BuiltFrom.representable {raw : Json} {document : Document} {outcome : Outcome}
    (h : BuiltFrom document outcome) (hread : DocumentOf raw document) :
    outcome.model.Representable := by
  intro testCase hmem
  rcases ItemByItem.exists_left h.testCases testCase hmem with ⟨leaf, hleaf, signature, -, rfl⟩
  rcases ItemByItem.exists_left hread.leafOf_leaves leaf (List.mem_of_mem_filter hleaf) with
    ⟨fields, -, hfields⟩
  exact hfields.representable signature

/-- All doubles in a model are representable. -/
theorem representable_of_build {raw : Json} {outcome : Outcome} (h : build raw = .ok outcome) :
    outcome.model.Representable := by
  rcases (build_eq_ok_iff raw outcome).mp h with ⟨document, hread, hbuilt⟩
  exact hbuilt.representable hread

/-- The text of a model loses nothing: two models that are built from any values are equal if their
texts are. -/
theorem build_text_injective {raw other : Json} {outcome twin : Outcome}
    (hbuild : build raw = .ok outcome) (htwin : build other = .ok twin)
    (h : outcome.model.text = twin.model.text) : outcome.model = twin.model :=
  Model.text_injective (representable_of_build hbuild) (representable_of_build htwin) h

/-- A document of one test, with an integer and a double that have the same digits, and with a
negative zero that is spelt in a given way. -/
def lookalikeDocument (negativeZero : Numeral) : Json :=
  .object [
    ("exercise", .string "lookalikes"),
    ("version", .string "1.0.0"),
    ("cases", .array [
      .object [
        ("description", .string "the \"same\" number"),
        ("property", .string "same"),
        ("input", .object [
          ("kind", .array [
            .number (.ofInt 1), .number ⟨false, Digit.ofNat 1, some [Digit.zero], none⟩])]),
        ("expected", .array [.object [], .number negativeZero])]])]

/-- Two spellings of the negative zero come to one text and therefore to one model. -/
theorem build_text_injective_lookalikes :
    ∃ outcome twin,
      build (lookalikeDocument ⟨true, [0], some [0], none⟩) = .ok outcome ∧
      build (lookalikeDocument ⟨true, [0], none, some ⟨false, [7]⟩⟩) = .ok twin ∧
      outcome.model.text = twin.model.text ∧ outcome.model = twin.model := by
  let charsOf (raw : Json) : Option (List Char) :=
    (build raw).toOption.map fun outcome => Json.prettyChars 0 outcome.model.toJson
  have hread : (build (lookalikeDocument ⟨true, [0], some [0], none⟩)).isOk ∧
      (build (lookalikeDocument ⟨true, [0], none, some ⟨false, [7]⟩⟩)).isOk := by decide +kernel
  have hchars : charsOf (lookalikeDocument ⟨true, [0], some [0], none⟩) =
      charsOf (lookalikeDocument ⟨true, [0], none, some ⟨false, [7]⟩⟩) := by decide +kernel
  rcases exists_of_isOk hread.1 with ⟨outcome, houtcome⟩
  rcases exists_of_isOk hread.2 with ⟨twin, htwin⟩
  have htext : outcome.model.text = twin.model.text := by
    simp only [charsOf, houtcome, htwin, Except.toOption, Option.map_some,
      Option.some.injEq] at hchars
    exact congrArg String.ofList hchars
  exact ⟨outcome, twin, houtcome, htwin, htext, build_text_injective houtcome htwin htext⟩

end Casebook
