import Casebook.Proofs.Document.Items

/-!
# The grammar of documents

The grammar says which values are documents without saying what they come to.  Of an object it
mentions a few keys; what stands under any other key does not matter.

Main definitions:

- {lit}`IsDocument`, {lit}`IsItem`: the values that are documents and items.
- {lit}`IsTest`, {lit}`IsHeading`: the objects that describe a test, and those that say about a
  group what has to be said.

Main results:

- Theorem {lit}`isItem_iff`: the items of the grammar are the values that come to an item.
- Theorem {lit}`ofJson_accepts_grammar`: the documents of the grammar are the values that are read
  as a document, and the document that is read has the tree of the value.
-/

namespace Casebook

/-- A text stands under a key. -/
def IsText (raw? : Option Json) : Prop :=
  ∃ s, raw? = some (.string s)

/-- Nothing stands under a key, or null, or a text. -/
def IsOptional (raw? : Option Json) : Prop :=
  raw? = none ∨ raw? = some .null ∨ IsText raw?

/-- Nothing stands under a key, or null, or an array of texts. -/
def IsComments (raw? : Option Json) : Prop :=
  raw? = none ∨ raw? = some .null ∨
    ∃ items, raw? = some (.array items) ∧ ∀ item ∈ items, ∃ s, item = .string s

/-- The objects that describe a test. -/
structure IsTest (fields : Fields) : Prop where
  description : IsText (fields.lookup "description")
  property : IsText (fields.lookup "property")
  input : ∃ inputs, fields.lookup "input" = some (.object inputs) ∧
    ∀ input ∈ inputs, ¬ input.2.AnnouncesFailure ∧ input.2.NumbersInRange
  expected : ∃ raw, fields.lookup "expected" = some raw ∧
    (raw.AnnouncesFailure ∨ raw.NumbersInRange)
  comments : IsComments (fields.lookup "comments")
  optional : IsOptional (fields.lookup "optional")

/-- The objects that say about a group what has to be said. -/
structure IsHeading (fields : Fields) : Prop where
  description : IsText (fields.lookup "description")
  comments : IsComments (fields.lookup "comments")
  optional : IsOptional (fields.lookup "optional")

/-- The values that are items. -/
inductive IsItem : Json → Prop
  | test {fields : Fields} (hcases : IsTestObject fields) (htest : IsTest fields) :
      IsItem (.object fields)
  | group {fields : Fields} {items : List Json}
      (hcases : fields.lookup "cases" = some (.array items)) (hheading : IsHeading fields)
      (hitems : ∀ item ∈ items, IsItem item) : IsItem (.object fields)

/-- The values that are documents. -/
inductive IsDocument : Json → Prop
  | intro {fields : Fields} {items : List Json} (hversion : IsText (fields.lookup "version"))
      (hexercise : IsText (fields.lookup "exercise"))
      (hcases : fields.lookup "cases" = some (.array items))
      (hcomments : IsComments (fields.lookup "comments"))
      (hitems : ∀ item ∈ items, IsItem item) : IsDocument (.object fields)

/-! ## What the parts come to -/

/-- What stands under a key is an optional text exactly if it comes to one. -/
theorem isOptional_iff (raw? : Option Json) : IsOptional raw? ↔ ∃ text, OptionalOf raw? text := by
  constructor
  · intro h
    rcases h with rfl | rfl | ⟨s, rfl⟩
    · exact ⟨none, .missing⟩
    · exact ⟨none, .null⟩
    · exact ⟨some s, .text s⟩
  · intro h
    rcases h with ⟨text, h⟩
    cases h with
    | missing => exact Or.inl rfl
    | null => exact Or.inr (Or.inl rfl)
    | text s => exact Or.inr (Or.inr ⟨s, rfl⟩)

/-- Items are texts one by one exactly if they are a list of texts. -/
theorem forall_isText_iff (items : List Json) :
    (∀ item ∈ items, ∃ s, item = .string s) ↔ ∃ texts : List String, items = texts.map .string := by
  induction items with
  | nil => simp
  | cons item rest ih =>
      rw [List.forall_mem_cons, ih]
      constructor
      · intro h
        rcases h with ⟨⟨s, rfl⟩, texts, rfl⟩
        exact ⟨s :: texts, rfl⟩
      · intro h
        rcases h with ⟨texts, htexts⟩
        cases texts with
        | nil => contradiction
        | cons s others =>
            rw [List.map_cons, List.cons.injEq] at htexts
            exact ⟨⟨s, htexts.1⟩, others, htexts.2⟩

/-- What stands under a key is comments exactly if it comes to some. -/
theorem isComments_iff (raw? : Option Json) :
    IsComments raw? ↔ ∃ comments, CommentsOf raw? comments := by
  constructor
  · intro h
    rcases h with rfl | rfl | ⟨items, rfl, hitems⟩
    · exact ⟨none, .missing⟩
    · exact ⟨none, .null⟩
    · rcases (forall_isText_iff items).mp hitems with ⟨texts, rfl⟩
      exact ⟨some texts, .texts texts⟩
  · intro h
    rcases h with ⟨comments, h⟩
    cases h with
    | missing => exact Or.inl rfl
    | null => exact Or.inr (Or.inl rfl)
    | texts texts =>
        refine Or.inr (Or.inr ⟨_, rfl, ?_⟩)
        exact (forall_isText_iff _).mpr ⟨texts, rfl⟩

/-- Inputs come to a table exactly if each of them can be typed. -/
theorem exists_inputsOf_iff (fields : Fields) :
    (∃ inputs, InputsOf fields inputs) ↔
      ∀ input ∈ fields, ¬ input.2.AnnouncesFailure ∧ input.2.NumbersInRange := by
  simp only [← Json.exists_typedAs_input_iff]
  constructor
  · rintro ⟨inputs, typed, htyped, -⟩ input hmem
    rcases ItemByItem.exists_right htyped input hmem with ⟨entry, -, hentry⟩
    exact ⟨entry.2, hentry.2⟩
  · intro h
    have hinputs : ∀ input ∈ fields, ∃ entry, InputOf input entry := by
      intro input hmem
      rcases h input hmem with ⟨value, hvalue⟩
      exact ⟨(input.1, value), rfl, hvalue⟩
    rcases ItemByItem.exists_forall₂ hinputs with ⟨typed, htyped⟩
    exact ⟨.ofList typed, typed, htyped, rfl⟩

/-- An object describes a test exactly if it comes to one. -/
theorem isTest_iff (fields : Fields) : IsTest fields ↔ ∃ leaf, LeafOf fields leaf := by
  constructor
  · intro h
    rcases h.description with ⟨description, hdescription⟩
    rcases h.property with ⟨property, hproperty⟩
    rcases h.input with ⟨entries, hlookup, hentries⟩
    rcases (exists_inputsOf_iff entries).mpr hentries with ⟨input, hinput⟩
    rcases h.expected with ⟨raw, hraw, hrange⟩
    rcases (Json.exists_typedAs_expected_iff raw).mpr hrange with ⟨expected, hexpected⟩
    rcases (isComments_iff _).mp h.comments with ⟨comments, hcomments⟩
    rcases (isOptional_iff _).mp h.optional with ⟨optional, hoptional⟩
    exact ⟨⟨description, property, input, expected, comments, optional⟩, hdescription, hproperty,
      ⟨entries, hlookup, hinput⟩, ⟨raw, hraw, hexpected⟩, hcomments, hoptional⟩
  · intro h
    rcases h with ⟨leaf, h⟩
    rcases h.input with ⟨entries, hlookup, hinput⟩
    rcases h.expected with ⟨raw, hraw, hexpected⟩
    exact
      { description := ⟨_, h.description⟩
        property := ⟨_, h.property⟩
        input := ⟨entries, hlookup, (exists_inputsOf_iff entries).mp ⟨_, hinput⟩⟩
        expected := ⟨raw, hraw, (Json.exists_typedAs_expected_iff raw).mp ⟨_, hexpected⟩⟩
        comments := (isComments_iff _).mpr ⟨_, h.comments⟩
        optional := (isOptional_iff _).mpr ⟨_, h.optional⟩ }

/-- An object says about a group what has to be said exactly if it comes to a heading. -/
theorem isHeading_iff (fields : Fields) :
    IsHeading fields ↔ ∃ heading, HeadingOf fields heading := by
  constructor
  · intro h
    rcases h.description with ⟨description, hdescription⟩
    rcases (isComments_iff _).mp h.comments with ⟨comments, hcomments⟩
    rcases (isOptional_iff _).mp h.optional with ⟨optional, hoptional⟩
    exact ⟨⟨description, comments, optional⟩, hdescription, hcomments, hoptional⟩
  · intro h
    rcases h with ⟨heading, h⟩
    exact
      { description := ⟨_, h.description⟩
        comments := (isComments_iff _).mpr ⟨_, h.comments⟩
        optional := (isOptional_iff _).mpr ⟨_, h.optional⟩ }

/-! ## Acceptance -/

/-- The items of the grammar come to items. -/
theorem IsItem.exists_itemOf {raw : Json} (h : IsItem raw) : ∃ item, ItemOf raw item := by
  induction h with
  | test hcases htest =>
      rcases (isTest_iff _).mp htest with ⟨leaf, hleaf⟩
      exact ⟨.test leaf, .test hcases hleaf⟩
  | group hcases hheading _ ih =>
      rcases (isHeading_iff _).mp hheading with ⟨heading, hheading⟩
      rcases ItemByItem.exists_forall₂ ih with ⟨items, hitems⟩
      exact ⟨.group heading items, .group hcases hheading hitems⟩

/-- What comes to an item is an item of the grammar. -/
theorem ItemOf.isItem {raw : Json} {item : Item} (h : ItemOf raw item) : IsItem raw := by
  refine ItemOf.induction (motive := fun raw _ => IsItem raw) ?_ ?_ h
  · intro fields leaf hcases hleaf
    exact .test hcases ((isTest_iff _).mpr ⟨leaf, hleaf⟩)
  · intro fields raws heading items hcases hheading hitems
    refine .group hcases ((isHeading_iff _).mpr ⟨heading, hheading⟩) fun raw hmem => ?_
    rcases ItemByItem.exists_right hitems raw hmem with ⟨_, -, hitem⟩
    exact hitem

/-- The items of the grammar are the values that come to an item. -/
theorem isItem_iff (raw : Json) : IsItem raw ↔ ∃ item, ItemOf raw item := by
  constructor
  · exact IsItem.exists_itemOf
  · intro h
    rcases h with ⟨item, h⟩
    exact h.isItem

/-- The documents of the grammar are the values that come to a document. -/
theorem isDocument_iff (raw : Json) : IsDocument raw ↔ ∃ document, DocumentOf raw document := by
  constructor
  · intro h
    rcases h with ⟨⟨version, hversion⟩, ⟨exercise, hexercise⟩, hcases, hcomments, hitems⟩
    rcases (isComments_iff _).mp hcomments with ⟨comments, hcomments⟩
    rcases ItemByItem.exists_forall₂ fun raw hmem => (hitems raw hmem).exists_itemOf with
      ⟨items, hitems⟩
    exact ⟨⟨⟨version, exercise, comments⟩, items⟩,
      .intro hversion hexercise hcases hcomments hitems⟩
  · intro h
    rcases h with ⟨document, hversion, hexercise, hcases, hcomments, hitems⟩
    refine .intro ⟨_, hversion⟩ ⟨_, hexercise⟩ hcases ((isComments_iff _).mpr ⟨_, hcomments⟩) ?_
    intro raw hmem
    rcases ItemByItem.exists_right hitems raw hmem with ⟨item, -, hitem⟩
    exact hitem.isItem

/-- The documents of the grammar are the values that are read as a document, and the document that
is read has the tree of the value: a group for every group and a test for every test, in the same
order, with the same texts and with typed values in the place of raw ones. -/
theorem ofJson_accepts_grammar (raw : Json) :
    ((∃ document, Document.ofJson raw = .ok document) ↔ IsDocument raw) ∧
      ∀ document, Document.ofJson raw = .ok document ↔ DocumentOf raw document := by
  constructor
  · rw [isDocument_iff]
    exact exists_congr fun document => Document.ofJson_eq_ok_iff raw document
  · exact Document.ofJson_eq_ok_iff raw

end Casebook
