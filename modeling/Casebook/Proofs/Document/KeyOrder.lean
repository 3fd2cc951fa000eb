import Casebook.Proofs.Document.LeafObjects
import Casebook.Proofs.Json.KeyOrder

/-!
# Documents with the keys in another order

A document whose keys are put into another order is read as the same tree of groups and tests.  The
groups say the same, and so do the tests, except that the inputs and the entries of maps are listed
in another order.

Main definitions:

- {lit}`Leaf.Agrees`: two tests say the same but for the order of inputs and of map entries.

Main results:

- Theorem {lit}`Json.Reordered.exists_leafOf`: tests of reordered objects agree.
- Theorem {lit}`Json.Reordered.exists_itemOf`: items of reordered values have tests that agree one
  by one.
- Theorem {lit}`Json.Reordered.exists_documentOf`: a reordered document is read with the same
  heading and with tests that agree one by one.
-/

namespace Casebook

/-- Two tests say the same: only the order of inputs and of the entries of maps may differ. -/
structure Leaf.Agrees (leaf twin : Leaf) : Prop where
  description : leaf.description = twin.description
  property : leaf.property = twin.property
  input : leaf.input.Related Value.Same twin.input
  expected : leaf.expected.Same twin.expected
  comments : leaf.comments = twin.comments
  optional : leaf.optional = twin.optional

namespace Json.Reordered

/-! ## What stands under a key -/

/-- Null stays as it is. -/
theorem rel_null {twin : Option Json} (h : Option.Rel Reordered (some .null) twin) :
    twin = some .null := by
  rcases ItemByItem.exists_of_rel_some h with ⟨other, rfl, hnull⟩
  cases hnull.same
  rfl

/-- A text stays as it is. -/
theorem rel_string {s : String} {twin : Option Json}
    (h : Option.Rel Reordered (some (.string s)) twin) : twin = some (.string s) := by
  rcases ItemByItem.exists_of_rel_some h with ⟨other, rfl, hstring⟩
  cases hstring.same
  rfl

/-- An array stands where an array was. -/
theorem rel_array {items : List Json} {twin : Option Json}
    (h : Option.Rel Reordered (some (.array items)) twin) :
    ∃ others, twin = some (.array others) ∧ List.Forall₂ Reordered items others := by
  rcases ItemByItem.exists_of_rel_some h with ⟨other, rfl, harray⟩
  rcases harray.of_array with ⟨others, rfl, hitems⟩
  exact ⟨others, rfl, hitems⟩

/-- An object stands where an object was. -/
theorem rel_object {fields : Fields} {twin : Option Json}
    (h : Option.Rel Reordered (some (.object fields)) twin) :
    ∃ others, twin = some (.object others) ∧ Reordered (.object fields) (.object others) := by
  rcases ItemByItem.exists_of_rel_some h with ⟨other, rfl, hobject⟩
  rcases hobject.of_object with ⟨others, rfl, -⟩
  exact ⟨others, rfl, hobject⟩

/-- Texts stay as they are. -/
theorem eq_of_strings {texts : List String} {others : List Json}
    (h : List.Forall₂ Reordered (texts.map .string) others) : others = texts.map .string := by
  induction texts generalizing others with
  | nil =>
      cases h
      rfl
  | cons s texts ih =>
      rcases h with _ | ⟨hhere, hrest⟩
      rw [List.map_cons, ih hrest, Option.some.inj (rel_string (.some hhere))]

/-- A text that may be missing stays as it is. -/
theorem rel_optionalOf {raw? twin : Option Json} {text : Option String}
    (h : Option.Rel Reordered raw? twin) (htext : OptionalOf raw? text) :
    OptionalOf twin text := by
  cases htext with
  | missing => exact ItemByItem.eq_none_of_rel h ▸ .missing
  | null => exact rel_null h ▸ .null
  | text s => exact rel_string h ▸ .text s

/-- Comments stay as they are. -/
theorem rel_commentsOf {raw? twin : Option Json} {comments : Option (List String)}
    (h : Option.Rel Reordered raw? twin) (hcomments : CommentsOf raw? comments) :
    CommentsOf twin comments := by
  cases hcomments with
  | missing => exact ItemByItem.eq_none_of_rel h ▸ .missing
  | null => exact rel_null h ▸ .null
  | texts texts =>
      rcases rel_array h with ⟨others, rfl, hitems⟩
      exact eq_of_strings hitems ▸ .texts texts

section Objects

variable {fields others : Fields} (h : Reordered (.object fields) (.object others))

include h

/-- The object of a test is reordered to the object of a test. -/
theorem isTestObject (htest : IsTestObject fields) : IsTestObject others := by
  have hcases := h.lookup "cases"
  rcases htest with htest | htest
  · exact Or.inl (ItemByItem.eq_none_of_rel (htest ▸ hcases))
  · exact Or.inr (rel_null (htest ▸ hcases))

/-- A text under a key stays as it is. -/
theorem lookup_string {key s : String} (hstring : fields.lookup key = some (.string s)) :
    others.lookup key = some (.string s) :=
  rel_string (hstring ▸ h.lookup key)

/-- A group says the same about itself. -/
theorem headingOf {heading : GroupHeading} (hheading : HeadingOf fields heading) :
    HeadingOf others heading :=
  { description := h.lookup_string hheading.description
    comments := rel_commentsOf (h.lookup "comments") hheading.comments
    optional := rel_optionalOf (h.lookup "optional") hheading.optional }

/-- Reordered inputs come to equal ones under the same names. -/
theorem exists_inputsOf {inputs : Table Value} (hinputs : InputsOf fields inputs) :
    ∃ twins, InputsOf others twins ∧ inputs.Related Value.Same twins := by
  rcases h.of_object with ⟨_, ⟨⟩, hfields⟩
  have hdistinct := h.distinct.1
  have htyped : UpToOrder (fun raw other => ∀ value, raw.TypedAs .input value →
      ∃ twin, other.TypedAs .input twin ∧ Value.Same value twin) fields others :=
    hfields.imp fun _ _ hinput _ hvalue => hinput.exists_typedAs hvalue
  rcases htyped.exists_image (hinputs.forall₂ hdistinct) with ⟨twins, htwins, hsame⟩
  refine ⟨.ofList twins, ⟨twins, htwins, rfl⟩, fun name => ?_⟩
  have hnames : (twins.map Prod.fst).Nodup := hsame.nodup_names inputs.distinct
  rw [Table.get?, Table.get?, Table.entries_ofList hnames]
  exact hsame.lookup inputs.distinct name

/-- Reordered objects describe tests that agree. -/
theorem exists_leafOf {leaf : Leaf} (hleaf : LeafOf fields leaf) :
    ∃ twin, LeafOf others twin ∧ leaf.Agrees twin := by
  rcases hleaf.input with ⟨inputs, hinput, hinputs⟩
  rcases rel_object (hinput ▸ h.lookup "input") with ⟨twinInputs, htwinInput, hreordered⟩
  rcases hreordered.exists_inputsOf hinputs with ⟨input, hread, hrelated⟩
  rcases hleaf.expected with ⟨raw, hraw, hvalue⟩
  rcases ItemByItem.exists_of_rel_some (hraw ▸ h.lookup "expected") with ⟨twin, htwin, hother⟩
  rcases hother.exists_typedAs hvalue with ⟨expected, htyped, hsame⟩
  refine ⟨{ leaf with input, expected }, ?_, ⟨rfl, rfl, hrelated, hsame, rfl, rfl⟩⟩
  exact
    { description := h.lookup_string hleaf.description
      property := h.lookup_string hleaf.property
      input := ⟨twinInputs, htwinInput, hread⟩
      expected := ⟨twin, htwin, htyped⟩
      comments := rel_commentsOf (h.lookup "comments") hleaf.comments
      optional := rel_optionalOf (h.lookup "optional") hleaf.optional }

end Objects

/-! ## Items and documents -/

/-- Items have tests that agree one by one if each item has. -/
theorem agrees_leavesOf {items twins : List Item}
    (h : List.Forall₂ (fun item twin => List.Forall₂ Leaf.Agrees item.leaves twin.leaves)
      items twins) :
    List.Forall₂ Leaf.Agrees (Item.leavesOf items) (Item.leavesOf twins) := by
  rw [Item.leavesOf_eq_flatMap, Item.leavesOf_eq_flatMap]
  exact List.rel_flatMap h fun _ _ hitem => hitem

/-- Items of reordered values have tests that agree one by one. -/
theorem exists_itemOf {raw other : Json} (h : Reordered raw other) {item : Item}
    (hitem : ItemOf raw item) :
    ∃ twin, ItemOf other twin ∧ List.Forall₂ Leaf.Agrees item.leaves twin.leaves := by
  refine ItemOf.induction (motive := fun raw item => ∀ other, Reordered raw other →
    ∃ twin, ItemOf other twin ∧ List.Forall₂ Leaf.Agrees item.leaves twin.leaves)
    ?_ ?_ hitem other h
  · intro fields leaf htest hleaf other h
    rcases h.of_object with ⟨others, rfl, -⟩
    rcases h.exists_leafOf hleaf with ⟨twin, htwin, hagrees⟩
    exact ⟨.test twin, .test (h.isTestObject htest) htwin, .cons hagrees .nil⟩
  · intro fields raws heading items hcases hheading hitems other h
    rcases h.of_object with ⟨others, rfl, -⟩
    rcases rel_array (hcases ▸ h.lookup "cases") with ⟨twinRaws, htwinCases, hraws⟩
    rcases ItemByItem.exists_image (hraws.imp fun _ other hraw _ ih => ih other hraw) hitems with
      ⟨twins, htwins, hagrees⟩
    exact ⟨.group heading twins, .group htwinCases (h.headingOf hheading) htwins,
      agrees_leavesOf hagrees⟩

/-- A reordered document is read with the same heading and with tests that agree one by one. -/
theorem exists_documentOf {raw other : Json} (h : Reordered raw other) {document : Document}
    (hdocument : DocumentOf raw document) :
    ∃ twin, DocumentOf other twin ∧ document.heading = twin.heading ∧
      List.Forall₂ Leaf.Agrees document.leaves twin.leaves := by
  cases hdocument with
  | intro hversion hexercise hcases hcomments hitems =>
      rcases h.of_object with ⟨others, rfl, -⟩
      rcases rel_array (hcases ▸ h.lookup "cases") with ⟨twinRaws, htwinCases, hraws⟩
      rcases ItemByItem.exists_image (hraws.imp fun _ _ hraw _ => hraw.exists_itemOf) hitems with
        ⟨twins, htwins, hagrees⟩
      exact ⟨⟨document.heading, twins⟩,
        .intro (h.lookup_string hversion) (h.lookup_string hexercise) htwinCases
          (rel_commentsOf (h.lookup "comments") hcomments) htwins,
        rfl, agrees_leavesOf hagrees⟩

end Json.Reordered
end Casebook
