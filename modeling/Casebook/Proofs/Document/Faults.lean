import Casebook.Proofs.Document.Items

/-!
# All faults of a document

Reading a document ends with the first fault.  Here the faults are collected without ending: every
object makes its demands key by key, and the faults of all parts are listed in the order in which
the parts are read.  What is of the wrong shape has no further faults inside.

Main definitions:

- {lit}`Demand`: what has to stand under a key, with the demands of documents, tests and groups.
- {lit}`Reader.fieldFaults`: the faults of what stands under a key.
- {lit}`Item.faults`: the faults of an item.
- {lit}`Document.faults`: the faults of a document.

Main results:

- Theorem {lit}`Reader.stopsAtFirst_leaf`: the reading of a test ends with its first fault.
- Theorem {lit}`Item.stopsAtFirst_ofJson`: the reading of an item ends with its first fault.
- Theorem {lit}`Document.stopsAtFirst_ofJson`: the reading of a document ends with its first fault.
-/

namespace Casebook

/-! ## Demands -/

/-- What has to stand under a key. -/
inductive Content where
  /-- A text. -/
  | text
  /-- An array of texts. -/
  | texts
  /-- An array of items. -/
  | items
  /-- An object whose values are inputs. -/
  | inputs
  /-- An expected value of any shape. -/
  | expected
  deriving DecidableEq, Repr, Inhabited

/-- The shape that is demanded of a content, if any is. -/
def Content.requirement? : Content → Option Requirement
  | .text => some .string
  | .texts => some .stringList
  | .items => some .array
  | .inputs => some .object
  | .expected => none

/-- The shape that satisfies a requirement. -/
def Requirement.shape : Requirement → Json.Shape
  | .topLevelObject => .object
  | .object => .object
  | .array => .array
  | .string => .string
  | .itemObject => .object
  | .stringList => .array

/-- What has to stand under a key of an object. -/
structure Demand where
  key : String
  content : Content
  /-- The key may be neither missing nor null. -/
  required : Bool
  deriving DecidableEq, Repr, Inhabited

namespace Demand

/-- A description is demanded of tests and groups. -/
def description : Demand := ⟨"description", .text, true⟩

/-- Comments are admitted in documents, tests and groups. -/
def comments : Demand := ⟨"comments", .texts, false⟩

/-- A mark is admitted in tests and groups. -/
def mark : Demand := ⟨"optional", .text, false⟩

/-- Items are demanded of documents and groups. -/
def cases : Demand := ⟨"cases", .items, true⟩

/-- The demands on the object of a document. -/
def ofDocument : List Demand :=
  [⟨"version", .text, true⟩, ⟨"exercise", .text, true⟩, cases, comments]

/-- The demands on the object of a test. -/
def ofTest : List Demand :=
  [description, ⟨"property", .text, true⟩, ⟨"input", .inputs, true⟩,
    ⟨"expected", .expected, true⟩, comments, mark]

/-- The demands on the object of a group that are looked at before its items. -/
def ofGroupAhead : List Demand :=
  [cases, description]

/-- The demands on the object of a group that are looked at after its items. -/
def ofGroupBehind : List Demand :=
  [comments, mark]

/-- The demands on the object of a group. -/
def ofGroup : List Demand :=
  ofGroupAhead ++ ofGroupBehind

end Demand

/-! ## The faults of what stands under a key -/

namespace Reader

/-- The fault at the present location with some cause. -/
def fault (reader : Reader) (cause : FaultCause) : Fault :=
  ⟨reader.document, reader.here, cause⟩

/-- The fault of a value of the wrong shape. -/
def shapeFault (reader : Reader) (wanted : Requirement) (found : Json) : Fault :=
  reader.fault (.mismatch wanted found.shape)

/-- The faults of a value in a role: an input that announces a failing call has no others, and an
expected value that does so has none. -/
def valueFaults (reader : Reader) (role : Role) (raw : Json) : List Fault :=
  match raw.failure? with
  | some message =>
      match role with
      | .expected => []
      | .input => [reader.fault (.reserved message)]
  | none => (raw.excess reader.here).map (Fault.ofValueFault reader.document)

/-- The faults of what has to be a text. -/
def textFaults (reader : Reader) : Json → List Fault
  | .string _ => []
  | other => [reader.shapeFault .string other]

/-- The faults of the items of an array of texts, from an index on. -/
def textsFaults (reader : Reader) (i : Nat) : List Json → List Fault
  | [] => []
  | raw :: rest => (reader.atIndex i).textFaults raw ++ reader.textsFaults (i + 1) rest

/-- The faults of the inputs of a test. -/
def inputsFaults (reader : Reader) (inputs : Fields) : List Fault :=
  inputs.flatMap fun input => (reader.atKey input.1).valueFaults .input input.2

/-- The faults of a value with a demanded content.  The items of a document or a group are looked
at on their own. -/
def contentFaults (reader : Reader) (content : Content) (raw : Json) : List Fault :=
  match content, raw with
  | .text, raw => reader.textFaults raw
  | .texts, .array items => reader.textsFaults 0 items
  | .texts, other => [reader.shapeFault .stringList other]
  | .items, .array _ => []
  | .items, other => [reader.shapeFault .array other]
  | .inputs, .object inputs => reader.inputsFaults inputs
  | .inputs, other => [reader.shapeFault .object other]
  | .expected, raw => reader.valueFaults .expected raw

/-- The faults of what stands under a key. -/
def fieldFaults (reader : Reader) (fields : Fields) (demand : Demand) : List Fault :=
  match fields.lookup demand.key with
  | none => if demand.required then [reader.fault (.missing demand.key)] else []
  | some raw =>
      if demand.required ∨ raw.shape ≠ .null then
        (reader.atKey demand.key).contentFaults demand.content raw
      else []

/-- The faults of what stands under some keys. -/
def fieldsFaults (reader : Reader) (fields : Fields) (demands : List Demand) : List Fault :=
  demands.flatMap (reader.fieldFaults fields)

/-! ## The readers of parts -/

variable (reader : Reader)

/-- A value is read unless it has a fault. -/
theorem stopsAtFirst_value (role : Role) (raw : Json) :
    StopsAtFirst (reader.value role raw) (reader.valueFaults role raw) := by
  unfold Reader.value valueFaults Json.classify
  cases raw.failure? with
  | some message => cases role <;> rfl
  | none =>
      have hnested := Json.stopsAtFirst_classifyNested reader.here raw
      cases hread : Json.classifyNested reader.here raw with
      | ok value =>
          have hnone : raw.excess reader.here = [] := hnested.ok_iff.mp ⟨value, hread⟩
          simp [StopsAtFirst, hnone]
      | error found =>
          have hfirst := (hnested.error_iff found).mp hread
          simp [StopsAtFirst, List.head?_map, hfirst]

/-- A text is read unless it is none. -/
theorem stopsAtFirst_string (raw : Json) :
    StopsAtFirst (reader.string raw) (reader.textFaults raw) := by
  cases raw <;> rfl

/-- Texts are read unless one of them is none. -/
theorem stopsAtFirst_strings (i : Nat) (items : List Json) :
    StopsAtFirst (reader.strings i items) (reader.textsFaults i items) := by
  induction items generalizing i with
  | nil => rfl
  | cons raw rest ih =>
      rw [strings, textsFaults]
      refine (stopsAtFirst_string _ raw).followedBy fun s _ => ?_
      exact (ih (i + 1)).map (s :: ·)

/-- A text that is required is read unless it is missing or none. -/
theorem stopsAtFirst_requiredString (fields : Fields) (key : String) :
    StopsAtFirst (reader.requiredString fields key)
      (reader.fieldFaults fields ⟨key, .text, true⟩) := by
  unfold requiredString fieldFaults
  cases fields.lookup key with
  | none => rfl
  | some raw => simpa [contentFaults] using stopsAtFirst_string (reader.atKey key) raw

/-- A text that may be missing is read unless something else stands in its place. -/
theorem stopsAtFirst_optionalString (fields : Fields) (key : String) :
    StopsAtFirst (reader.optionalString fields key)
      (reader.fieldFaults fields ⟨key, .text, false⟩) := by
  unfold optionalString fieldFaults
  cases fields.lookup key with
  | none => rfl
  | some raw =>
      cases raw with
      | null => rfl
      | _ => exact (stopsAtFirst_string (reader.atKey key) _).map some

/-- An array that is required is read unless it is missing or none. -/
theorem stopsAtFirst_requiredArray (fields : Fields) (key : String) :
    StopsAtFirst (reader.requiredArray fields key)
      (reader.fieldFaults fields ⟨key, .items, true⟩) := by
  unfold requiredArray fieldFaults
  cases fields.lookup key with
  | none => rfl
  | some raw => cases raw <;> rfl

/-- Comments are read unless something stands in their place or one of them is no text. -/
theorem stopsAtFirst_comments (fields : Fields) :
    StopsAtFirst (reader.comments fields) (reader.fieldFaults fields .comments) := by
  unfold Reader.comments fieldFaults
  simp only [Demand.comments]
  cases fields.lookup "comments" with
  | none => rfl
  | some raw =>
      cases raw with
      | array items => exact (stopsAtFirst_strings (reader.atKey "comments") 0 items).map some
      | _ => rfl

/-- Inputs are read unless one of them has a fault. -/
theorem stopsAtFirst_inputs (fields : Fields) (read : Table Value) :
    StopsAtFirst (reader.inputs fields read) (reader.inputsFaults fields) := by
  induction fields generalizing read with
  | nil => rfl
  | cons field rest ih =>
      rcases field with ⟨name, raw⟩
      rw [Reader.inputs, inputsFaults, List.flatMap_cons]
      refine (stopsAtFirst_value _ .input raw).followedBy fun value _ => ?_
      exact ih (read.put name value)

/-- The inputs of a test are read unless they are missing or no object or one of them has a
fault. -/
theorem stopsAtFirst_requiredInputs (fields : Fields) :
    StopsAtFirst (reader.requiredInputs fields)
      (reader.fieldFaults fields ⟨"input", .inputs, true⟩) := by
  unfold requiredInputs fieldFaults
  simp only
  cases fields.lookup "input" with
  | none => rfl
  | some raw =>
      cases raw with
      | object inputs => exact stopsAtFirst_inputs (reader.atKey "input") inputs .empty
      | _ => rfl

/-- The expected value of a test is read unless it is missing or has a fault. -/
theorem stopsAtFirst_requiredExpected (fields : Fields) :
    StopsAtFirst (reader.requiredExpected fields)
      (reader.fieldFaults fields ⟨"expected", .expected, true⟩) := by
  unfold requiredExpected fieldFaults
  cases fields.lookup "expected" with
  | none => rfl
  | some raw =>
      simpa [contentFaults] using stopsAtFirst_value (reader.atKey "expected") .expected raw

/-- The reading of a test ends with its first fault. -/
theorem stopsAtFirst_leaf (fields : Fields) :
    StopsAtFirst (reader.leaf fields) (reader.fieldsFaults fields Demand.ofTest) := by
  rw [Reader.leaf, fieldsFaults, Demand.ofTest]
  simp only [List.flatMap_cons, List.flatMap_nil]
  refine (stopsAtFirst_requiredString reader fields "description").followedBy fun _ _ => ?_
  refine (stopsAtFirst_requiredString reader fields "property").followedBy fun _ _ => ?_
  refine (stopsAtFirst_requiredInputs reader fields).followedBy fun _ _ => ?_
  refine (stopsAtFirst_requiredExpected reader fields).followedBy fun _ _ => ?_
  refine (stopsAtFirst_comments reader fields).followedBy fun _ _ => ?_
  refine (stopsAtFirst_optionalString reader fields "optional").followedBy fun _ _ => ?_
  rfl

/-- The reading of what a group says about itself ends with the first fault behind its items. -/
theorem stopsAtFirst_groupHeading (fields : Fields) (description : String) :
    StopsAtFirst (reader.groupHeading fields description)
      (reader.fieldsFaults fields Demand.ofGroupBehind) := by
  rw [Reader.groupHeading, fieldsFaults, Demand.ofGroupBehind]
  simp only [List.flatMap_cons, List.flatMap_nil]
  refine (stopsAtFirst_comments reader fields).followedBy fun _ _ => ?_
  refine (stopsAtFirst_optionalString reader fields "optional").followedBy fun _ _ => ?_
  rfl

end Reader

/-! ## Items -/

namespace Item

mutual

/-- The faults of an item. -/
def faults (reader : Reader) : Json → List Fault
  | .object fields =>
      match fields.lookup "cases" with
      | none => reader.fieldsFaults fields Demand.ofTest
      | some .null => reader.fieldsFaults fields Demand.ofTest
      | some _ =>
          reader.fieldsFaults fields Demand.ofGroupAhead ++ faultsUnder reader fields
            ++ reader.fieldsFaults fields Demand.ofGroupBehind
  | other => [reader.shapeFault .itemObject other]

/-- The faults of the items of an array, from an index on. -/
def faultsOf (reader : Reader) (i : Nat) : List Json → List Fault
  | [] => []
  | raw :: rest => faults (reader.atIndex i) raw ++ faultsOf reader (i + 1) rest

/-- The faults of the items under the key {lit}`cases` of some fields. -/
def faultsUnder (reader : Reader) : Fields → List Fault
  | [] => []
  | (key, value) :: fields =>
      if key = "cases" then
        match value with
        | .array items => faultsOf (reader.atKey "cases") 0 items
        | _ => []
      else faultsUnder reader fields

end

/-- The faults of the items under the first key {lit}`cases`. -/
theorem faultsUnder_eq (reader : Reader) (fields : Fields) :
    faultsUnder reader fields =
      match fields.lookup "cases" with
      | some (.array items) => faultsOf (reader.atKey "cases") 0 items
      | _ => [] := by
  rw [Table.walk_eq_lookup (faultsUnder reader) fun _ _ _ => faultsUnder.eq_def reader _]
  cases fields.lookup "cases" with
  | none => rfl
  | some found => cases found <;> rfl

/-- The faults of a test are those of what stands under its keys. -/
theorem faults_of_test (reader : Reader) {fields : Fields} (h : IsTestObject fields) :
    faults reader (.object fields) = reader.fieldsFaults fields Demand.ofTest := by
  rw [faults]
  rcases h with h | h <;> rw [h]

/-- The faults of a group are those of what stands under its keys and those of its items. -/
theorem faults_of_group (reader : Reader) {fields : Fields} {raws : List Json}
    (h : fields.lookup "cases" = some (.array raws)) :
    faults reader (.object fields) =
      reader.fieldsFaults fields Demand.ofGroupAhead ++ faultsOf (reader.atKey "cases") 0 raws
        ++ reader.fieldsFaults fields Demand.ofGroupBehind := by
  rw [faults, faultsUnder_eq, h]

/-- The faults of an object with something other than an array or null under its key
{lit}`cases`, which has no items. -/
theorem faults_of_malformed (reader : Reader) {fields : Fields} {found : Json}
    (h : fields.lookup "cases" = some found) (hnull : found ≠ .null)
    (harray : ∀ items, found ≠ .array items) :
    faults reader (.object fields) = reader.fieldsFaults fields Demand.ofGroup := by
  rw [faults, faultsUnder_eq, h]
  cases found with
  | null => contradiction
  | array items => exact (harray items rfl).elim
  | _ => simp [Reader.fieldsFaults, Demand.ofGroup, List.flatMap_append]

/-- The reading of the items of an array ends with the first fault among them. -/
theorem stopsAtFirst_listOfJson {raws : List Json}
    (h : ∀ raw ∈ raws, ∀ reader, StopsAtFirst (ofJson reader raw) (faults reader raw))
    (reader : Reader) (i : Nat) :
    StopsAtFirst (listOfJson reader i raws) (faultsOf reader i raws) := by
  induction raws generalizing i with
  | nil => rfl
  | cons raw rest ih =>
      have hrest := ih (fun later hmem => h later (List.mem_cons_of_mem _ hmem)) (i + 1)
      rw [listOfJson, faultsOf]
      refine (h raw List.mem_cons_self _).followedBy fun item _ => ?_
      exact hrest.map (item :: ·)

/-- The reading of an item ends with its first fault. -/
theorem stopsAtFirst_ofJson (raw : Json) : ∀ reader : Reader,
    StopsAtFirst (ofJson reader raw) (faults reader raw) := by
  induction raw using Json.item_induction with
  | other raw hother =>
      intro reader
      cases raw with
      | object fields => exact (hother fields rfl).elim
      | _ => rfl
  | test fields htest =>
      intro reader
      rw [ofJson_of_test reader htest, faults_of_test reader htest]
      exact (reader.stopsAtFirst_leaf fields).map Item.test
  | malformed fields found hcases hnull harray =>
      intro reader
      rw [faults_of_malformed reader hcases hnull harray, ofJson, casesField_eq, hcases]
      cases found with
      | null => contradiction
      | array items => exact (harray items rfl).elim
      | _ => simp [StopsAtFirst, Reader.mismatch, Reader.fail, Reader.fieldsFaults,
          Demand.ofGroup, Demand.ofGroupAhead, Demand.cases, Reader.fieldFaults, hcases,
          Reader.contentFaults, Reader.shapeFault, Reader.fault]
  | group fields raws hcases ih =>
      intro reader
      have harray : reader.fieldFaults fields .cases = [] := by
        simp [Reader.fieldFaults, Demand.cases, hcases, Reader.contentFaults]
      have hahead : reader.fieldsFaults fields Demand.ofGroupAhead =
          reader.fieldFaults fields .description := by
        simp [Reader.fieldsFaults, Demand.ofGroupAhead, harray]
      rw [faults_of_group reader hcases, hahead, List.append_assoc, ofJson, casesField_eq,
        hcases]
      refine (reader.stopsAtFirst_requiredString fields "description").followedBy fun _ _ => ?_
      refine (stopsAtFirst_listOfJson ih _ 0).followedBy fun items _ => ?_
      exact (reader.stopsAtFirst_groupHeading fields _).map (Item.group · items)

end Item

/-! ## Documents -/

namespace Document

/-- The faults of a document. -/
def faults : Json → List Fault
  | .object fields =>
      (Outline.reader fields).fieldsFaults fields Demand.ofDocument
        ++ Item.faultsUnder (Outline.reader fields) fields
  | other => [Reader.shapeFault ⟨Fault.unnamed, Location.root⟩ .topLevelObject other]

/-- The reading of what a document says about itself ends with the first fault outside its
items. -/
theorem stopsAtFirst_outline (fields : Fields) :
    StopsAtFirst (Outline.ofJson (.object fields))
      ((Outline.reader fields).fieldsFaults fields Demand.ofDocument) := by
  rw [Outline.ofJson, Reader.fieldsFaults, Demand.ofDocument]
  simp only [List.flatMap_cons, List.flatMap_nil]
  refine (Reader.stopsAtFirst_requiredString _ fields "version").followedBy fun _ _ => ?_
  refine (Reader.stopsAtFirst_requiredString _ fields "exercise").followedBy fun _ _ => ?_
  refine (Reader.stopsAtFirst_requiredArray _ fields "cases").followedBy fun _ _ => ?_
  refine (Reader.stopsAtFirst_comments _ fields).followedBy fun _ _ => ?_
  rfl

/-- What a document says about itself is read together with the items under its key
{lit}`cases` and the name of its exercise. -/
theorem outline_eq_ok {fields : Fields} {outline : Outline}
    (h : Outline.ofJson (.object fields) = .ok outline) :
    fields.lookup "cases" = some (.array outline.items) ∧
      Outline.documentName fields = outline.heading.exercise := by
  rw [Outline.ofJson_eq_ok_iff] at h
  cases h with
  | intro _ hexercise hcases _ => exact ⟨hcases, by rw [Outline.documentName, hexercise]⟩

/-- The reading of a document ends with its first fault. -/
theorem stopsAtFirst_ofJson (raw : Json) : StopsAtFirst (ofJson raw) (faults raw) := by
  cases raw with
  | object fields =>
      refine (stopsAtFirst_outline fields).followedBy fun outline houtline => ?_
      rcases outline_eq_ok houtline with ⟨hcases, hname⟩
      have hread : ∀ raw ∈ outline.items, ∀ reader,
          StopsAtFirst (Item.ofJson reader raw) (Item.faults reader raw) :=
        fun raw _ => Item.stopsAtFirst_ofJson raw
      have hitems := Item.stopsAtFirst_listOfJson hread ((Outline.reader fields).atKey "cases") 0
      rw [Item.faultsUnder_eq, hcases]
      -- The items are read under the exercise that was read, which is the name of the document.
      rw [Outline.reader, hname] at hitems ⊢
      exact hitems.map (Document.mk outline.heading)
  | _ => rfl

end Document
end Casebook
