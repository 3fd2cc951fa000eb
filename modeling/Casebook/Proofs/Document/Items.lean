import Casebook.Proofs.Document.Parts

/-!
# The items of a document

An object is a group if something other than null stands under its key {lit}`cases`, and a test
otherwise.  A document is read exactly from a value that has its tree of groups and tests, in the
same order and to any depth.

Main definitions:

- {lit}`IsTestObject`: an object that is a test.
- {lit}`ItemOf`: the item that a value comes to.
- {lit}`OutlineOf`: what a value says about itself as a document, its items being left as they are.
- {lit}`DocumentOf`: the document that a value comes to.

Main results:

- Theorem {lit}`ItemOf.induction`: what holds of tests, and of a group if it holds of its items,
  holds of every value with the item that it comes to.
- Theorem {lit}`Json.item_induction`: what holds of tests and of all that is no item, and of a group
  if it holds of its items, holds of every value.
- Theorem {lit}`Item.ofJson_eq_ok_iff`: an item is read exactly from a value that comes to it.
- Theorems {lit}`Outline.ofJson_eq_ok_iff` and {lit}`Outline.complete_eq_ok_iff`: the same for what
  a document says about itself, and for its items.
- Theorem {lit}`Document.ofJson_eq_ok_iff`: a document is read exactly from a value that comes to
  it.
-/

namespace Casebook

/-- Nothing stands under the key {lit}`cases` of an object, or null. -/
def IsTestObject (fields : Fields) : Prop :=
  fields.lookup "cases" = none ∨ fields.lookup "cases" = some .null

/-- The item that a value comes to. -/
inductive ItemOf : Json → Item → Prop
  | test {fields : Fields} {leaf : Leaf} (hcases : IsTestObject fields)
      (hleaf : LeafOf fields leaf) : ItemOf (.object fields) (.test leaf)
  | group {fields : Fields} {raws : List Json} {heading : GroupHeading} {items : List Item}
      (hcases : fields.lookup "cases" = some (.array raws)) (hheading : HeadingOf fields heading)
      (hitems : List.Forall₂ ItemOf raws items) :
      ItemOf (.object fields) (.group heading items)

/-- What a value says about itself as a document, and its items. -/
inductive OutlineOf : Json → Outline → Prop
  | intro {fields : Fields} {outline : Outline}
      (hversion : fields.lookup "version" = some (.string outline.heading.version))
      (hexercise : fields.lookup "exercise" = some (.string outline.heading.exercise))
      (hcases : fields.lookup "cases" = some (.array outline.items))
      (hcomments : CommentsOf (fields.lookup "comments") outline.heading.comments) :
      OutlineOf (.object fields) outline

/-- The document that a value comes to. -/
inductive DocumentOf : Json → Document → Prop
  | intro {fields : Fields} {raws : List Json} {document : Document}
      (hversion : fields.lookup "version" = some (.string document.heading.version))
      (hexercise : fields.lookup "exercise" = some (.string document.heading.exercise))
      (hcases : fields.lookup "cases" = some (.array raws))
      (hcomments : CommentsOf (fields.lookup "comments") document.heading.comments)
      (hitems : List.Forall₂ ItemOf raws document.items) :
      DocumentOf (.object fields) document

/-- The object of a test comes to the tests that it describes. -/
theorem itemOf_test_iff {fields : Fields} (h : IsTestObject fields) (item : Item) :
    ItemOf (.object fields) item ↔ ∃ leaf, LeafOf fields leaf ∧ .test leaf = item := by
  constructor
  · intro hitem
    cases hitem with
    | test _ hleaf => exact ⟨_, hleaf, rfl⟩
    | group hcases _ _ => rcases h with h | h <;> simp [h] at hcases
  · intro hitem
    rcases hitem with ⟨leaf, hleaf, rfl⟩
    exact .test h hleaf

/-- The object of a group comes to the groups with its heading and its items. -/
theorem itemOf_group_iff {fields : Fields} {raws : List Json}
    (h : fields.lookup "cases" = some (.array raws)) (item : Item) :
    ItemOf (.object fields) item ↔
      ∃ heading items, HeadingOf fields heading ∧ List.Forall₂ ItemOf raws items ∧
        item = .group heading items := by
  constructor
  · intro hitem
    cases hitem with
    | test htest _ => rcases htest with htest | htest <;> simp [h] at htest
    | group hcases hheading hitems =>
        rw [h, Option.some.injEq, Json.array.injEq] at hcases
        subst hcases
        exact ⟨_, _, hheading, hitems, rfl⟩
  · intro hitem
    rcases hitem with ⟨heading, items, hheading, hitems, rfl⟩
    exact .group h hheading hitems

/-- An object comes to no item if neither an array nor null stands under its key
{lit}`cases`. -/
theorem not_itemOf_of_malformed {fields : Fields} {found : Json}
    (h : fields.lookup "cases" = some found) (hnull : found ≠ .null)
    (harray : ∀ items, found ≠ .array items) (item : Item) : ¬ ItemOf (.object fields) item := by
  intro hitem
  cases hitem with
  | test htest _ => rcases htest with htest | htest <;> simp_all
  | group hcases _ _ =>
      rw [h, Option.some.injEq] at hcases
      exact harray _ hcases

/-! ## Induction on items -/

/-- What holds of tests, and of a group if it holds of its items one by one, holds of every value
with the item that it comes to. -/
theorem ItemOf.induction {motive : Json → Item → Prop}
    (test : ∀ {fields leaf}, IsTestObject fields → LeafOf fields leaf →
      motive (.object fields) (.test leaf))
    (group : ∀ {fields raws heading items}, List.lookup "cases" fields = some (.array raws) →
      HeadingOf fields heading → List.Forall₂ motive raws items →
      motive (.object fields) (.group heading items))
    {raw : Json} {item : Item} (h : ItemOf raw item) : motive raw item :=
  -- The second motive is about the items of a group, which stand in a list of their own.
  @ItemOf.rec (fun raw item _ => motive raw item)
    (fun raws items _ => List.Forall₂ motive raws items)
    (fun hcases hleaf => test hcases hleaf)
    (fun hcases hheading _ hitems => group hcases hheading hitems)
    .nil (fun _ _ hitem hitems => .cons hitem hitems) raw item h

namespace Json

/-- What stands under a key is smaller than the object. -/
theorem sizeOf_lt_of_lookup {fields : Fields} {key : String} {value : Json}
    (h : fields.lookup key = some value) : sizeOf value < sizeOf (Json.object fields) := by
  rcases List.lookup_eq_some_iff.mp h with ⟨before, after, hsplit, -⟩
  have hmem : (key, value) ∈ fields := by simp [hsplit]
  have hfield := List.sizeOf_lt_of_mem hmem
  simp only [Prod.mk.sizeOf_spec, object.sizeOf_spec] at hfield ⊢
  omega

/-- What holds of tests and of all that is no item, and of a group if it holds of its items, holds
of every value. -/
theorem item_induction {motive : Json → Prop}
    (other : ∀ raw, (∀ fields, raw ≠ .object fields) → motive raw)
    (test : ∀ fields, IsTestObject fields → motive (.object fields))
    (malformed : ∀ fields found, List.lookup "cases" fields = some found → found ≠ .null →
      (∀ items, found ≠ .array items) → motive (.object fields))
    (group : ∀ fields items, List.lookup "cases" fields = some (.array items) →
      (∀ item ∈ items, motive item) → motive (.object fields))
    (raw : Json) : motive raw := by
  cases raw with
  | object fields =>
      cases hcases : fields.lookup "cases" with
      | none => exact test fields (Or.inl hcases)
      | some found =>
          cases found with
          | null => exact test fields (Or.inr hcases)
          | array items =>
              refine group fields items hcases fun item hmem => ?_
              exact item_induction other test malformed group item
          | _ => exact malformed fields _ hcases (by simp) (by simp)
  | _ => exact other _ (by simp)
termination_by sizeOf raw
decreasing_by
  have hitem := List.sizeOf_lt_of_mem hmem
  have harray := sizeOf_lt_of_lookup hcases
  simp only [array.sizeOf_spec] at harray
  omega

end Json

/-! ## Reading items -/

namespace Item

/-- What stands under the key {lit}`cases` of an item. -/
theorem casesField_eq (reader : Reader) (fields : Fields) :
    casesField reader fields =
      match fields.lookup "cases" with
      | none => .absent
      | some .null => .absent
      | some (.array items) => .items (listOfJson (reader.atKey "cases") 0 items)
      | some other => .malformed other := by
  rw [Table.walk_eq_lookup (casesField reader) fun _ _ _ => casesField.eq_def reader _]
  cases fields.lookup "cases" with
  | none => rfl
  | some found => cases found <;> rfl

/-- The items of an array are read one after another. -/
theorem listOfJson_eq_ok_iff {raws : List Json}
    (h : ∀ raw ∈ raws, ∀ reader item, ofJson reader raw = .ok item ↔ ItemOf raw item)
    (reader : Reader) (i : Nat) (items : List Item) :
    listOfJson reader i raws = .ok items ↔ List.Forall₂ ItemOf raws items := by
  induction raws generalizing i items with
  | nil => cases items <;> simp [listOfJson]
  | cons raw rest ih =>
      have hrest := ih fun later hmem => h later (List.mem_cons_of_mem _ hmem)
      rw [listOfJson, cons_eq_ok_iff, List.forall₂_cons_left_iff]
      simp only [h raw List.mem_cons_self, hrest]

/-- A test is read from an object that is one. -/
theorem ofJson_of_test (reader : Reader) {fields : Fields} (h : IsTestObject fields) :
    ofJson reader (.object fields) = (reader.leaf fields).map .test := by
  rw [ofJson, casesField_eq]
  rcases h with h | h <;> rw [h]

/-- A group is read from its heading and its items. -/
theorem ofJson_group_eq_ok_iff (reader : Reader) {fields : Fields} {raws : List Json}
    (h : fields.lookup "cases" = some (.array raws)) (item : Item) :
    ofJson reader (.object fields) = .ok item ↔
      ∃ heading items, HeadingOf fields heading ∧
        listOfJson (reader.atKey "cases") 0 raws = .ok items ∧ item = .group heading items := by
  rw [ofJson, casesField_eq, h]
  simp only [bind_eq_ok_iff, Reader.requiredString_eq_ok_iff]
  constructor
  · intro h
    rcases h with ⟨description, hdescription, items, hitems, heading, hheading, hitem⟩
    cases hitem
    have hboth := (Reader.groupHeading_eq_ok_iff _ _ _ _).mp ⟨hdescription, hheading⟩
    exact ⟨heading, items, hboth.2, hitems, rfl⟩
  · intro h
    rcases h with ⟨heading, items, hheading, hitems, rfl⟩
    have hboth := (Reader.groupHeading_eq_ok_iff reader fields heading.description heading).mpr
      ⟨rfl, hheading⟩
    exact ⟨heading.description, hboth.1, items, hitems, heading, hboth.2, rfl⟩

/-- No item is read from an object with something other than an array or null under its key
{lit}`cases`. -/
theorem ofJson_malformed_ne_ok (reader : Reader) {fields : Fields} {found : Json}
    (h : fields.lookup "cases" = some found) (hnull : found ≠ .null)
    (harray : ∀ items, found ≠ .array items) (item : Item) :
    ofJson reader (.object fields) ≠ .ok item := by
  rw [ofJson, casesField_eq, h]
  cases found <;> simp_all [Reader.mismatch, Reader.fail]

/-- An item is read exactly from a value that comes to it, whatever its place. -/
theorem ofJson_eq_ok_iff (raw : Json) : ∀ (reader : Reader) (item : Item),
    ofJson reader raw = .ok item ↔ ItemOf raw item := by
  induction raw using Json.item_induction with
  | other raw hother =>
      intro reader item
      constructor
      · intro h
        cases raw <;> simp_all [ofJson, Reader.mismatch, Reader.fail]
      · intro h
        cases h <;> exact (hother _ rfl).elim
  | test fields htest =>
      intro reader item
      rw [ofJson_of_test reader htest, map_eq_ok_iff, itemOf_test_iff htest]
      simp only [Reader.leaf_eq_ok_iff]
  | malformed fields found hcases hnull harray =>
      intro reader item
      have hread := ofJson_malformed_ne_ok reader hcases hnull harray item
      have hrelated := not_itemOf_of_malformed hcases hnull harray item
      exact iff_of_false hread hrelated
  | group fields raws hcases ih =>
      intro reader item
      rw [ofJson_group_eq_ok_iff reader hcases, itemOf_group_iff hcases]
      simp only [listOfJson_eq_ok_iff ih]

end Item

/-! ## Reading documents -/

/-- A value comes to a document if it says about itself what the document does and its items come to
those of the document. -/
theorem documentOf_iff (raw : Json) (document : Document) :
    DocumentOf raw document ↔
      ∃ raws, OutlineOf raw ⟨document.heading, raws⟩ ∧
        List.Forall₂ ItemOf raws document.items := by
  constructor
  · intro h
    cases h with
    | intro hversion hexercise hcases hcomments hitems =>
        exact ⟨_, .intro hversion hexercise hcases hcomments, hitems⟩
  · intro h
    rcases h with ⟨raws, houtline, hitems⟩
    cases houtline with
    | intro hversion hexercise hcases hcomments =>
        exact .intro hversion hexercise hcases hcomments hitems

namespace Outline

/-- An outline is read exactly from a value that comes to it. -/
theorem ofJson_eq_ok_iff (raw : Json) (outline : Outline) :
    ofJson raw = .ok outline ↔ OutlineOf raw outline := by
  cases raw with
  | object fields =>
      simp only [ofJson, bind_eq_ok_iff, Reader.requiredString_eq_ok_iff,
        Reader.requiredArray_eq_ok_iff, Reader.comments_eq_ok_iff]
      constructor
      · intro h
        rcases h with ⟨version, hversion, exercise, hexercise, raws, hcases, comments, hcomments, h⟩
        cases h
        exact .intro hversion hexercise hcases hcomments
      · intro h
        cases h with
        | intro hversion hexercise hcases hcomments =>
            exact ⟨_, hversion, _, hexercise, _, hcases, _, hcomments, rfl⟩
  | _ =>
      constructor
      · intro h
        cases h
      · intro h
        cases h

/-- An outline is completed to the documents with its heading that its items come to. -/
theorem complete_eq_ok_iff (outline : Outline) (document : Document) :
    outline.complete = .ok document ↔
      document.heading = outline.heading ∧ List.Forall₂ ItemOf outline.items document.items := by
  simp only [complete, bind_eq_ok_iff,
    Item.listOfJson_eq_ok_iff fun raw _ => Item.ofJson_eq_ok_iff raw]
  constructor
  · intro h
    rcases h with ⟨items, hitems, hdocument⟩
    cases hdocument
    exact ⟨rfl, hitems⟩
  · intro h
    rcases h with ⟨hheading, hitems⟩
    exact ⟨document.items, hitems, hheading ▸ rfl⟩

end Outline

/-- A document is read exactly from a value that comes to it. -/
theorem Document.ofJson_eq_ok_iff (raw : Json) (document : Document) :
    ofJson raw = .ok document ↔ DocumentOf raw document := by
  rw [ofJson, bind_eq_ok_iff, documentOf_iff]
  simp only [Outline.ofJson_eq_ok_iff, Outline.complete_eq_ok_iff]
  constructor
  · intro h
    rcases h with ⟨⟨heading, raws⟩, houtline, rfl, hitems⟩
    exact ⟨raws, houtline, hitems⟩
  · intro h
    rcases h with ⟨raws, houtline, hitems⟩
    exact ⟨_, houtline, rfl, hitems⟩

end Casebook
