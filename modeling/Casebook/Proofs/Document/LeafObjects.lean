import Casebook.Proofs.Document.Items

/-!
# The objects that describe the tests

The objects that describe the tests of a document can be told from the values under their key
{lit}`cases` alone.  Read from left to right they are the tests of the document that is read: none
is lost, none is added, and none changes its place, however the groups are nested.

Main definitions:

- {lit}`Json.leafObjects`: the objects that describe the tests at or below a value.
- {lit}`ExpectsFailure`: an object describes a test that expects its call to fail.

Main results:

- Theorem {lit}`DocumentOf.leafOf_leaves`: the tests of a document are described by the objects of
  its value, one by one.
-/

namespace Casebook
namespace Json

/-! ## Objects from left to right -/

mutual

/-- The objects that describe the tests at or below a value, from left to right: a value under the
key {lit}`cases` other than null leads to the objects below it, and any other object stands for
itself. -/
def leafObjects : Json → List Fields
  | .object fields => (leafObjectsUnder fields).getD [fields]
  | _ => []

/-- The objects that describe the tests at or below some items, from left to right. -/
def leafObjectsOf : List Json → List Fields
  | [] => []
  | item :: items => leafObjects item ++ leafObjectsOf items

/-- The objects below the value under the key {lit}`cases` of some fields, if it is there and not
null. -/
def leafObjectsUnder : Fields → Option (List Fields)
  | [] => none
  | (key, value) :: fields =>
      if key = "cases" then
        match value with
        | .null => none
        | .array items => some (leafObjectsOf items)
        | _ => some []
      else leafObjectsUnder fields

end

/-- The objects of some items are the objects of one item after another. -/
theorem leafObjectsOf_eq_flatMap (items : List Json) :
    leafObjectsOf items = items.flatMap leafObjects := by
  induction items with
  | nil => rfl
  | cons item items ih => rw [leafObjectsOf, List.flatMap_cons, ih]

/-- What stands first under the key {lit}`cases` leads to the objects below. -/
theorem leafObjectsUnder_eq (fields : Fields) :
    leafObjectsUnder fields =
      match fields.lookup "cases" with
      | none => none
      | some .null => none
      | some (.array items) => some (leafObjectsOf items)
      | some _ => some [] := by
  rw [Table.walk_eq_lookup leafObjectsUnder fun _ _ _ => leafObjectsUnder.eq_def _]
  cases fields.lookup "cases" with
  | none => rfl
  | some found => cases found <;> rfl

/-- The object of a test stands for itself. -/
theorem leafObjects_of_test {fields : Fields} (h : IsTestObject fields) :
    leafObjects (.object fields) = [fields] := by
  rw [leafObjects, leafObjectsUnder_eq]
  rcases h with h | h <;> simp [h]

/-- The object of a group stands for the objects below it. -/
theorem leafObjects_of_group {fields : Fields} {items : List Json}
    (h : fields.lookup "cases" = some (.array items)) :
    leafObjects (.object fields) = leafObjectsOf items := by
  rw [leafObjects, leafObjectsUnder_eq, h]
  rfl

end Json

/-! ## Tests and their objects -/

/-- Items have the tests that their values describe if each item has them. -/
theorem leafOf_leavesOf {raws : List Json} {items : List Item}
    (h : List.Forall₂ (fun raw item => List.Forall₂ LeafOf raw.leafObjects item.leaves)
      raws items) :
    List.Forall₂ LeafOf (Json.leafObjectsOf raws) (Item.leavesOf items) := by
  rw [Json.leafObjectsOf_eq_flatMap, Item.leavesOf_eq_flatMap]
  exact List.rel_flatMap h fun _ _ hitem => hitem

/-- An item has the tests that its value describes, in the same order. -/
theorem ItemOf.leafOf_leaves {raw : Json} {item : Item} (h : ItemOf raw item) :
    List.Forall₂ LeafOf raw.leafObjects item.leaves := by
  refine ItemOf.induction
    (motive := fun raw item => List.Forall₂ LeafOf raw.leafObjects item.leaves) ?_ ?_ h
  · intro fields leaf hcases hleaf
    rw [Json.leafObjects_of_test hcases]
    exact .cons hleaf .nil
  · intro fields raws heading items hcases _ hitems
    rw [Json.leafObjects_of_group hcases, Item.leaves_group]
    exact leafOf_leavesOf hitems

/-- A document has the tests that its value describes, in the same order. -/
theorem DocumentOf.leafOf_leaves {raw : Json} {document : Document} (h : DocumentOf raw document) :
    List.Forall₂ LeafOf raw.leafObjects document.leaves := by
  cases h with
  | intro _ _ hcases _ hitems =>
      rw [Json.leafObjects_of_group hcases]
      exact leafOf_leavesOf (hitems.imp fun _ _ hitem => hitem.leafOf_leaves)

/-- No input of a test of a document announces a failing call. -/
theorem DocumentOf.isError_input_eq_false {raw : Json} {document : Document}
    (h : DocumentOf raw document) :
    ∀ leaf ∈ document.leaves, ∀ entry ∈ leaf.input.entries, entry.2.isError = false := by
  intro leaf hmem
  rcases ItemByItem.exists_left h.leafOf_leaves leaf hmem with ⟨fields, -, hleaf⟩
  rcases hleaf.input with ⟨inputs, -, hinputs⟩
  exact hinputs.isError_eq_false

/-! ## Expected failures -/

/-- An object describes a test that expects its call to fail. -/
def ExpectsFailure (fields : Fields) : Prop :=
  ∃ raw, fields.lookup "expected" = some raw ∧ raw.AnnouncesFailure

instance (fields : Fields) : Decidable (ExpectsFailure fields) :=
  decidable_of_iff (((fields.lookup "expected").bind Json.failure?).isSome = true) <| by
    unfold ExpectsFailure
    cases fields.lookup "expected" <;> simp [Json.announcesFailure_iff]

/-- A test expects its call to fail exactly if its object says so. -/
theorem LeafOf.isError_expected_iff {fields : Fields} {leaf : Leaf} (h : LeafOf fields leaf) :
    leaf.expected.isError = true ↔ ExpectsFailure fields := by
  rcases h.expected with ⟨raw, hraw, hexpected⟩
  rw [Json.isError_of_typedAs_expected hexpected, ← Json.announcesFailure_iff, ExpectsFailure]
  simp [hraw]

end Casebook
