import Casebook.Table
import Casebook.Value.Basic

/-!
# Documents

A document describes an exercise by tests, which may be gathered in groups to any depth.

Main definitions:

- {lit}`Leaf`: one test.
- {lit}`Item`: a test or a group of items.
- {lit}`Document`: a whole document.
- {lit}`Item.leavesOfInto`: some tests followed by those of some items, the tests of the items being
  added one by one.
- {lit}`Document.leaves`: the tests of a document from left to right.

Main results:

- Theorem {lit}`Item.leavesOfInto_eq`: the tests of some items are added behind those that are there,
  which are left as they are.
- Theorem {lit}`Item.leavesOf_eq_flatMap`: the leaves of items are the leaves of one after another.
- Theorem {lit}`Item.length_leaves`: an item has as many leaves as its count says.
- Theorem {lit}`Item.leavesOf_append`: the leaves of two lists of items are the leaves of the first
  followed by those of the second.
-/

namespace Casebook

/-- One test: a call of a function with named inputs, and what is expected of it. -/
structure Leaf where
  description : String
  /-- The name of the function under test. -/
  property : String
  input : Table Value
  expected : Value
  comments : Option (List String)
  /-- A mark that is passed on as it is. -/
  optional : Option String
  deriving Repr, Inhabited

/-- What a group says about itself. -/
structure GroupHeading where
  description : String
  comments : Option (List String)
  optional : Option String
  deriving DecidableEq, Repr, Inhabited

/-- A test or a group of items. -/
inductive Item where
  | test (leaf : Leaf)
  | group (heading : GroupHeading) (items : List Item)
  deriving Repr, Inhabited

/-- What a document says about itself. -/
structure DocumentHeading where
  version : String
  /-- The slug of the exercise. -/
  exercise : String
  comments : Option (List String)
  deriving DecidableEq, Repr, Inhabited

/-- A document. -/
structure Document where
  heading : DocumentHeading
  items : List Item
  deriving Repr, Inhabited

namespace Item

/-! ## Leaves from left to right -/

mutual

/-- Some tests, followed by those at or below an item from left to right. -/
def leavesInto (out : List Leaf) : Item → List Leaf
  | .test leaf => out ++ [leaf]
  | .group _ items => leavesOfInto out items

/-- Some tests, followed by those at or below some items from left to right. -/
def leavesOfInto (out : List Leaf) : List Item → List Leaf
  | [] => out
  | item :: items => leavesOfInto (leavesInto out item) items

end

/-- The tests at or below an item, from left to right. -/
def leaves (item : Item) : List Leaf :=
  leavesInto [] item

/-- The tests at or below some items, from left to right. -/
def leavesOf (items : List Item) : List Leaf :=
  leavesOfInto [] items

mutual

/-- The tests of an item are added behind those that are there, which are left as they are. -/
theorem leavesInto_eq (out : List Leaf) : (item : Item) → leavesInto out item = out ++ item.leaves
  | .test leaf => by simp [leaves, leavesInto]
  | .group _ items => by
      rw [leaves, leavesInto, leavesInto, leavesOfInto_eq out items]
      rfl

/-- The tests of some items are added behind those that are there, which are left as they are. -/
theorem leavesOfInto_eq (out : List Leaf) : (items : List Item) →
    leavesOfInto out items = out ++ leavesOf items
  | [] => by simp [leavesOf, leavesOfInto]
  | item :: items => by
      -- On both sides the later items find tests already there, those of the first item at least.
      rw [leavesOf, leavesOfInto, leavesOfInto, leavesOfInto_eq (leavesInto out item) items,
        leavesOfInto_eq (leavesInto [] item) items, leavesInto_eq out item, List.append_assoc]
      rfl

end

/-- The only leaf of a test is the test. -/
@[simp]
theorem leaves_test (leaf : Leaf) : (Item.test leaf).leaves = [leaf] := by
  simp [leaves, leavesInto]

/-- The leaves of a group are those of its items. -/
@[simp]
theorem leaves_group (heading : GroupHeading) (items : List Item) :
    (Item.group heading items).leaves = leavesOf items := by
  rw [leaves, leavesInto, leavesOf]

/-- No items have no leaves. -/
@[simp]
theorem leavesOf_nil : leavesOf [] = [] := by
  rw [leavesOf, leavesOfInto]

/-- The leaves of the first of some items come before those of the others. -/
@[simp]
theorem leavesOf_cons (item : Item) (items : List Item) :
    leavesOf (item :: items) = item.leaves ++ leavesOf items := by
  rw [leavesOf, leavesOfInto, leavesOfInto_eq, leaves]

/-- The leaves of some items are the leaves of one item after another. -/
theorem leavesOf_eq_flatMap (items : List Item) : leavesOf items = items.flatMap leaves := by
  induction items with
  | nil => rw [leavesOf_nil, List.flatMap_nil]
  | cons item items ih => rw [leavesOf_cons, List.flatMap_cons, ih]

/-- The leaves of two lists of items are the leaves of the first followed by those of the
second. -/
theorem leavesOf_append (first second : List Item) :
    leavesOf (first ++ second) = leavesOf first ++ leavesOf second := by
  simp only [leavesOf_eq_flatMap, List.flatMap_append]

/-! ## Counting leaves -/

mutual

/-- The number of tests at or below an item. -/
def leafCount : Item → Nat
  | .test _ => 1
  | .group _ items => leafCountOf items

/-- The number of tests at or below some items. -/
def leafCountOf : List Item → Nat
  | [] => 0
  | item :: items => leafCount item + leafCountOf items

end

mutual

/-- An item has as many leaves as its count says. -/
theorem length_leaves : (item : Item) → item.leaves.length = item.leafCount
  | .test _ => by simp [leafCount]
  | .group _ items => by simp [leafCount, length_leavesOf items]

/-- Some items have as many leaves as their count says. -/
theorem length_leavesOf : (items : List Item) → (leavesOf items).length = leafCountOf items
  | [] => by simp [leafCountOf]
  | item :: items => by simp [leafCountOf, length_leaves item, length_leavesOf items]

end

end Item

namespace Document

/-- The tests of a document from left to right. -/
def leaves (document : Document) : List Leaf :=
  Item.leavesOf document.items

/-- The number of tests of a document. -/
def leafCount (document : Document) : Nat :=
  Item.leafCountOf document.items

end Document

end Casebook
