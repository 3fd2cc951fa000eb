import Casebook.Document.Reading
import Casebook.Proofs.ItemByItem
import Casebook.Proofs.Table
import Casebook.Proofs.Value.Classification

/-!
# The parts of a document

What a part of a document reads as is a relation between the fields of an object and the part.  The
relation says which keys have to be there, which may be missing or null, and what their values come
to; no other key occurs in it.  A reader of a part succeeds exactly with what the relation allows,
whatever the place of the part.

Main definitions:

- {lit}`OptionalOf`, {lit}`CommentsOf`: what may stand under a key that may be missing or null.
- {lit}`InputsOf`: the inputs that the fields of an object come to.
- {lit}`LeafOf`: the test that the fields of an object describe.
- {lit}`HeadingOf`: what the fields of a group say about the group.

Main results:

- Theorem {lit}`Reader.leaf_eq_ok_iff`: a test is read exactly from an object that describes it.
- Theorem {lit}`InputsOf.forall₂`: inputs with distinct names are typed one by one, in their order.
- Theorem {lit}`InputsOf.errorFree`: inputs contain no announcements of failing calls.
-/

namespace Casebook

/-! ## Parts that may be missing -/

/-- The text under a key that may be missing or null. -/
inductive OptionalOf : Option Json → Option String → Prop
  | missing : OptionalOf none none
  | null : OptionalOf (some .null) none
  | text (s : String) : OptionalOf (some (.string s)) (some s)

/-- The texts under a key that may be missing or null. -/
inductive CommentsOf : Option Json → Option (List String) → Prop
  | missing : CommentsOf none none
  | null : CommentsOf (some .null) none
  | texts (texts : List String) : CommentsOf (some (.array (texts.map .string))) (some texts)

/-- Nothing and null come to no text. -/
theorem optionalOf_absent_iff {raw? : Option Json} (h : raw? = none ∨ raw? = some .null)
    (text : Option String) : OptionalOf raw? text ↔ text = none := by
  constructor
  · intro htext
    rcases h with rfl | rfl <;> cases htext <;> rfl
  · intro htext
    subst htext
    rcases h with rfl | rfl
    · exact .missing
    · exact .null

/-- Nothing and null come to no comments. -/
theorem commentsOf_absent_iff {raw? : Option Json} (h : raw? = none ∨ raw? = some .null)
    (comments : Option (List String)) : CommentsOf raw? comments ↔ comments = none := by
  constructor
  · intro hcomments
    rcases h with rfl | rfl <;> cases hcomments <;> rfl
  · intro hcomments
    subst hcomments
    rcases h with rfl | rfl
    · exact .missing
    · exact .null

/-! ## Tests and groups -/

/-- A field that is an input comes to a typed value under the same name. -/
def InputOf (field : String × Json) (input : String × Value) : Prop :=
  field.1 = input.1 ∧ field.2.TypedAs .input input.2

/-- The inputs that some fields come to: each of them is typed, and if a name is repeated it keeps
its first place and its last value. -/
def InputsOf (fields : Fields) (inputs : Table Value) : Prop :=
  ∃ typed, List.Forall₂ InputOf fields typed ∧ inputs = .ofList typed

/-- The test that the fields of an object describe. -/
structure LeafOf (fields : Fields) (leaf : Leaf) : Prop where
  description : fields.lookup "description" = some (.string leaf.description)
  property : fields.lookup "property" = some (.string leaf.property)
  input : ∃ inputs, fields.lookup "input" = some (.object inputs) ∧ InputsOf inputs leaf.input
  expected : ∃ raw, fields.lookup "expected" = some raw ∧ raw.TypedAs .expected leaf.expected
  comments : CommentsOf (fields.lookup "comments") leaf.comments
  optional : OptionalOf (fields.lookup "optional") leaf.optional

/-- What the fields of a group say about the group. -/
structure HeadingOf (fields : Fields) (heading : GroupHeading) : Prop where
  description : fields.lookup "description" = some (.string heading.description)
  comments : CommentsOf (fields.lookup "comments") heading.comments
  optional : OptionalOf (fields.lookup "optional") heading.optional

/-- Inputs with distinct names are typed one by one, in their order. -/
theorem InputsOf.forall₂ {fields : Fields} {inputs : Table Value} (h : InputsOf fields inputs)
    (hdistinct : (fields.map Prod.fst).Nodup) :
    List.Forall₂ InputOf fields inputs.entries := by
  rcases h with ⟨typed, htyped, rfl⟩
  have hnames : fields.map Prod.fst = typed.map Prod.fst := by
    induction htyped with
    | nil => rfl
    | cons hinput _ ih =>
        rw [List.map_cons, List.nodup_cons] at hdistinct
        rw [List.map_cons, List.map_cons, hinput.1, ih hdistinct.2]
  rw [Table.entries_ofList (hnames ▸ hdistinct)]
  exact htyped

/-- The inputs of a test contain no announcements of failing calls. -/
theorem InputsOf.errorFree {fields : Fields} {inputs : Table Value} (h : InputsOf fields inputs) :
    ∀ entry ∈ inputs.entries, entry.2.ErrorFree := by
  rcases h with ⟨typed, htyped, rfl⟩
  intro entry hmem
  rcases ItemByItem.exists_left htyped entry (Table.mem_of_mem_ofList hmem) with
    ⟨field, -, hinput⟩
  exact ((Json.typedAs_input_iff _ _).mp hinput.2).2.errorFree

/-- No input announces a failing call. -/
theorem InputsOf.isError_eq_false {fields : Fields} {inputs : Table Value}
    (h : InputsOf fields inputs) : ∀ entry ∈ inputs.entries, entry.2.isError = false :=
  fun entry hmem => (h.errorFree entry hmem).isError_eq_false

/-! ## What the readers accept -/

namespace Reader

variable (reader : Reader)

/-- A text is read from a text. -/
theorem string_eq_ok_iff (raw : Json) (s : String) :
    reader.string raw = .ok s ↔ raw = .string s := by
  cases raw <;> simp [string, mismatch, fail]

/-- A typed value is read from what it is the typed counterpart of. -/
theorem value_eq_ok_iff (role : Role) (raw : Json) (value : Value) :
    reader.value role raw = .ok value ↔ raw.TypedAs role value := by
  rw [Json.typedAs_iff role reader.here, Reader.value]
  cases raw.classify role reader.here <;> simp

/-- A text that is required is read if it stands under its key. -/
theorem requiredString_eq_ok_iff (fields : Fields) (key s : String) :
    reader.requiredString fields key = .ok s ↔ fields.lookup key = some (.string s) := by
  unfold requiredString
  cases fields.lookup key with
  | none => simp [fail]
  | some raw => simp [string_eq_ok_iff]

/-- A text that may be missing is read from a text, from null and from nothing. -/
theorem optionalString_eq_ok_iff (fields : Fields) (key : String) (text : Option String) :
    reader.optionalString fields key = .ok text ↔ OptionalOf (fields.lookup key) text := by
  unfold optionalString
  split
  · rename_i hlookup
    rw [optionalOf_absent_iff (Or.inl hlookup), Except.ok.injEq, eq_comm]
  · rename_i hlookup
    rw [optionalOf_absent_iff (Or.inr hlookup), Except.ok.injEq, eq_comm]
  · rename_i raw hnull hlookup
    rw [hlookup, map_eq_ok_iff]
    constructor
    · intro h
      rcases h with ⟨s, hs, rfl⟩
      rw [string_eq_ok_iff] at hs
      subst hs
      exact .text s
    · intro h
      cases h with
      | null => exact (hnull rfl).elim
      | text s => exact ⟨s, rfl, rfl⟩

/-- An array that is required is read if it stands under its key. -/
theorem requiredArray_eq_ok_iff (fields : Fields) (key : String) (items : List Json) :
    reader.requiredArray fields key = .ok items ↔ fields.lookup key = some (.array items) := by
  unfold requiredArray
  split <;> rename_i hlookup
  · simp [hlookup, fail]
  · simp [hlookup]
  · rename_i other harray
    simp only [hlookup, mismatch, fail, reduceCtorEq, Option.some.injEq, false_iff]
    rintro rfl
    exact harray items rfl

/-- Texts are read from an array of texts. -/
theorem strings_eq_ok_iff (i : Nat) (items : List Json) (texts : List String) :
    reader.strings i items = .ok texts ↔ items = texts.map .string := by
  induction items generalizing i texts with
  | nil => cases texts <;> simp [strings]
  | cons raw rest ih =>
      rw [strings, cons_eq_ok_iff]
      simp only [string_eq_ok_iff, ih]
      constructor
      · intro h
        rcases h with ⟨s, others, rfl, rfl, rfl⟩
        rfl
      · intro h
        rcases List.map_eq_cons_iff.mp h.symm with ⟨s, others, htexts, hhere, hothers⟩
        exact ⟨s, others, hhere.symm, hothers.symm, htexts⟩

/-- Comments are read from an array of texts, from null and from nothing. -/
theorem comments_eq_ok_iff (fields : Fields) (comments : Option (List String)) :
    reader.comments fields = .ok comments ↔
      CommentsOf (fields.lookup "comments") comments := by
  unfold Reader.comments
  split <;> rename_i hlookup
  · rw [commentsOf_absent_iff (Or.inl hlookup), Except.ok.injEq, eq_comm]
  · rw [commentsOf_absent_iff (Or.inr hlookup), Except.ok.injEq, eq_comm]
  · rw [hlookup, map_eq_ok_iff]
    constructor
    · intro h
      rcases h with ⟨texts, htexts, rfl⟩
      rw [(strings_eq_ok_iff _ _ _ _).mp htexts]
      exact .texts texts
    · intro h
      cases h with
      | texts texts => exact ⟨texts, (strings_eq_ok_iff _ _ _ _).mpr rfl, rfl⟩
  · rename_i other hnull harray
    rw [hlookup]
    constructor
    · intro h
      cases h
    · intro h
      cases h with
      | null => exact (hnull rfl).elim
      | texts texts => exact (harray _ rfl).elim

/-- Inputs are read from fields one by one, each being put into the table. -/
theorem inputs_eq_ok_iff (fields : Fields) (read inputs : Table Value) :
    reader.inputs fields read = .ok inputs ↔
      ∃ typed, List.Forall₂ InputOf fields typed ∧
        inputs = typed.foldl (fun t entry => t.put entry.1 entry.2) read := by
  induction fields generalizing read with
  | nil =>
      constructor
      · intro h
        cases h
        exact ⟨[], .nil, rfl⟩
      · intro h
        rcases h with ⟨typed, htyped, rfl⟩
        cases htyped
        rfl
  | cons field rest ih =>
      rcases field with ⟨name, raw⟩
      rw [Reader.inputs, bind_eq_ok_iff]
      constructor
      · intro h
        rcases h with ⟨value, hvalue, h⟩
        rcases (ih _).mp h with ⟨typed, htyped, rfl⟩
        have hinput : InputOf (name, raw) (name, value) :=
          ⟨rfl, (value_eq_ok_iff _ _ _ _).mp hvalue⟩
        exact ⟨(name, value) :: typed, .cons hinput htyped, rfl⟩
      · intro h
        rcases h with ⟨typed, htyped, rfl⟩
        cases htyped with
        | @cons _ entry _ others hinput hothers =>
            rcases entry with ⟨key, value⟩
            rcases hinput with ⟨rfl, hvalue⟩
            refine ⟨value, (value_eq_ok_iff _ _ _ _).mpr hvalue, ?_⟩
            exact (ih _).mpr ⟨others, hothers, rfl⟩

/-- Inputs that are required are read from an object under their key. -/
theorem requiredInputs_eq_ok_iff (fields : Fields) (inputs : Table Value) :
    reader.requiredInputs fields = .ok inputs ↔
      ∃ entries, fields.lookup "input" = some (.object entries) ∧
        InputsOf entries inputs := by
  unfold requiredInputs
  split <;> rename_i hlookup
  · simp [hlookup, fail]
  · simp only [hlookup, Option.some.injEq, Json.object.injEq, exists_eq_left', InputsOf]
    exact inputs_eq_ok_iff _ _ _ _
  · rename_i other hobject
    simp only [hlookup, mismatch, fail, reduceCtorEq, Option.some.injEq, false_iff]
    intro h
    rcases h with ⟨entries, rfl, -⟩
    exact hobject entries rfl

/-- An expected value is read if it stands under its key. -/
theorem requiredExpected_eq_ok_iff (fields : Fields) (expected : Value) :
    reader.requiredExpected fields = .ok expected ↔
      ∃ raw, fields.lookup "expected" = some raw ∧ raw.TypedAs .expected expected := by
  unfold requiredExpected
  cases fields.lookup "expected" with
  | none => simp [fail]
  | some raw => simp [value_eq_ok_iff]

/-- A test is read exactly from an object that describes it. -/
theorem leaf_eq_ok_iff (fields : Fields) (leaf : Leaf) :
    reader.leaf fields = .ok leaf ↔ LeafOf fields leaf := by
  simp only [Reader.leaf, bind_eq_ok_iff, requiredString_eq_ok_iff, requiredInputs_eq_ok_iff,
    requiredExpected_eq_ok_iff, comments_eq_ok_iff, optionalString_eq_ok_iff]
  constructor
  · intro h
    rcases h with ⟨description, hdescription, property, hproperty, input, hinput, expected,
      hexpected, comments, hcomments, optional, hoptional, h⟩
    cases h
    exact ⟨hdescription, hproperty, hinput, hexpected, hcomments, hoptional⟩
  · intro h
    exact ⟨leaf.description, h.description, leaf.property, h.property, leaf.input, h.input,
      leaf.expected, h.expected, leaf.comments, h.comments, leaf.optional, h.optional, rfl⟩

/-- What a group says about itself is read from an object that says it. -/
theorem groupHeading_eq_ok_iff (fields : Fields) (description : String)
    (heading : GroupHeading) :
    (fields.lookup "description" = some (.string description) ∧
        reader.groupHeading fields description = .ok heading) ↔
      heading.description = description ∧ HeadingOf fields heading := by
  simp only [groupHeading, bind_eq_ok_iff, comments_eq_ok_iff, optionalString_eq_ok_iff]
  constructor
  · intro h
    rcases h with ⟨hdescription, comments, hcomments, optional, hoptional, h⟩
    cases h
    exact ⟨rfl, hdescription, hcomments, hoptional⟩
  · intro h
    rcases h with ⟨rfl, h⟩
    exact ⟨h.description, heading.comments, h.comments, heading.optional, h.optional, rfl⟩

end Reader
end Casebook
