import Casebook.Proofs.Value.Counterpart

/-!
# Which values have a typed counterpart

Only numbers can lack a typed counterpart below the top of a value.  A value is therefore typed
exactly if each of its numbers is within the range of its kind; otherwise the first number that is
not is the culprit.  The typed value does not depend on where the value stands.

Main definitions:

- {lit}`Numeral.InRange`: a number is within the range of its kind.
- {lit}`Json.numbers`: the numbers in a value with their locations, in the order in which they are
  written.
- {lit}`Json.Announces`: a value announces a failing call with a message.
- {lit}`Json.TypedAs`: a value in a role has a typed counterpart, wherever it stands.

Main results:

- Theorem {lit}`Json.stopsAtFirst_classifyNested`: the first number out of range is the culprit.
- Theorem {lit}`Json.typedAs_iff`: one place is as good as any other.
- Theorems {lit}`Json.typedAs_input_iff` and {lit}`Json.typedAs_expected_iff`: the typed value of a
  value in a role is its counterpart, unless it announces a failing call.
- Theorems {lit}`Json.exists_typedAs_input_iff` and {lit}`Json.exists_typedAs_expected_iff`: which
  values have a typed counterpart.
- Theorem {lit}`Json.isError_of_typedAs_expected`: which typed values announce a failing call.
-/

namespace Casebook

/-! ## Numbers in range -/

namespace Numeral

/-- A number is within the range of its kind: a 64-bit signed integer if it is written as an
integer, and a finite double otherwise. -/
def InRange (n : Numeral) : Prop :=
  if n.isInteger then minInt ≤ n.toInt ∧ n.toInt ≤ maxInt
  else ∃ d, Double.ofNumeral? n = some d

/-- The numbers within the range of their kind are those with a typed value. -/
theorem value?_eq_none_iff (n : Numeral) : n.value? = none ↔ ¬ n.InRange := by
  unfold value? InRange
  split
  · split <;> simp_all
  · cases Double.ofNumeral? n <;> simp

end Numeral

namespace Json

/-! ## The numbers in a value -/

mutual

/-- The numbers in a value that stands at a location, each with its own location, in the order in
which they are written. -/
def numbers (here : Location) : Json → List (Location × Numeral)
  | .number n => [(here, n)]
  | .array items => numbersOfItems here 0 items
  | .object fields => numbersOfFields here fields
  | _ => []

/-- The numbers in the items of the array at a location, from an index on. -/
def numbersOfItems (here : Location) (i : Nat) : List Json → List (Location × Numeral)
  | [] => []
  | item :: items => numbers (here.index i) item ++ numbersOfItems here (i + 1) items

/-- The numbers in the fields of the object at a location. -/
def numbersOfFields (here : Location) : List (String × Json) → List (Location × Numeral)
  | [] => []
  | (key, field) :: fields => numbers (here.key key) field ++ numbersOfFields here fields

end

mutual

/-- The numbers in a value stand at the same places inside it, wherever it stands itself. -/
theorem numbers_append (outer here : Location) : (raw : Json) →
    numbers (outer ++ here) raw =
      (numbers here raw).map fun entry => (outer ++ entry.1, entry.2)
  | .null => rfl
  | .bool _ => rfl
  | .string _ => rfl
  | .number _ => rfl
  | .array items => numbersOfItems_append outer here 0 items
  | .object fields => numbersOfFields_append outer here fields

/-- The numbers in the items of an array stand at the same places inside it. -/
theorem numbersOfItems_append (outer here : Location) (i : Nat) : (items : List Json) →
    numbersOfItems (outer ++ here) i items =
      (numbersOfItems here i items).map fun entry => (outer ++ entry.1, entry.2)
  | [] => rfl
  | item :: items => by
      have hhere : (outer ++ here).index i = outer ++ here.index i := by
        simp [Location.index]
      rw [numbersOfItems, numbersOfItems, List.map_append, hhere,
        numbers_append outer (here.index i) item,
        numbersOfItems_append outer here (i + 1) items]

/-- The numbers in the fields of an object stand at the same places inside it. -/
theorem numbersOfFields_append (outer here : Location) : (fields : List (String × Json)) →
    numbersOfFields (outer ++ here) fields =
      (numbersOfFields here fields).map fun entry => (outer ++ entry.1, entry.2)
  | [] => rfl
  | (key, field) :: fields => by
      have hhere : (outer ++ here).key key = outer ++ here.key key := by
        simp [Location.key]
      rw [numbersOfFields, numbersOfFields, List.map_append, hhere,
        numbers_append outer (here.key key) field,
        numbersOfFields_append outer here fields]

end

/-- Every number in a value is within the range of its kind. -/
def NumbersInRange (raw : Json) : Prop :=
  ∀ entry ∈ raw.numbers .root, entry.2.InRange

/-- The numbers in a value are the same ones wherever the value stands. -/
theorem numbersInRange_iff (here : Location) (raw : Json) :
    raw.NumbersInRange ↔ ∀ entry ∈ raw.numbers here, entry.2.InRange := by
  have hmoved := numbers_append here .root raw
  rw [Location.root, List.append_nil] at hmoved
  rw [hmoved, List.forall_mem_map]
  rfl

/-! ## Typed values below the top -/

/-- The faults in a value that stands at a location: its numbers out of range. -/
def excess (here : Location) (raw : Json) : List ValueFault :=
  (raw.numbers here).filterMap fun entry =>
    if entry.2.value?.isNone then some (.outOfRange entry.1 entry.2) else none

/-- The faults in the items of the array at a location, from an index on. -/
def excessOfItems (here : Location) (i : Nat) (items : List Json) : List ValueFault :=
  (numbersOfItems here i items).filterMap fun entry =>
    if entry.2.value?.isNone then some (.outOfRange entry.1 entry.2) else none

/-- The faults in the fields of the object at a location. -/
def excessOfFields (here : Location) (fields : List (String × Json)) : List ValueFault :=
  (numbersOfFields here fields).filterMap fun entry =>
    if entry.2.value?.isNone then some (.outOfRange entry.1 entry.2) else none

/-- A value has no faults exactly if its numbers are in range. -/
theorem excess_eq_nil_iff (here : Location) (raw : Json) :
    raw.excess here = [] ↔ raw.NumbersInRange := by
  rw [numbersInRange_iff here, excess, List.filterMap_eq_nil_iff]
  refine forall₂_congr fun entry _ => ?_
  have hrange := entry.2.value?_eq_none_iff
  by_cases h : entry.2.value? = none <;> simp_all

mutual

/-- The classification below the top stops at the first number out of range. -/
theorem stopsAtFirst_classifyNested (here : Location) : (raw : Json) →
    StopsAtFirst (classifyNested here raw) (raw.excess here)
  | .null => rfl
  | .bool _ => rfl
  | .string _ => rfl
  | .number n => by
      rw [classifyNested]
      cases h : n.value? with
      | none => simp [StopsAtFirst, excess, numbers, h]
      | some value => simp [StopsAtFirst, excess, numbers, h]
  | .array items => by
      rw [classifyNested]
      exact (stopsAtFirst_classifyItems here 0 items).map Value.array
  | .object fields => by
      rw [classifyNested]
      exact (stopsAtFirst_classifyFields here fields).map Value.map

/-- The classification of the items of an array stops at the first number out of range. -/
theorem stopsAtFirst_classifyItems (here : Location) (i : Nat) : (items : List Json) →
    StopsAtFirst (classifyItems here i items) (excessOfItems here i items)
  | [] => rfl
  | item :: items => by
      have hitem := stopsAtFirst_classifyNested (here.index i) item
      have hitems := stopsAtFirst_classifyItems here (i + 1) items
      have hfaults : excessOfItems here i (item :: items) =
          item.excess (here.index i) ++ excessOfItems here (i + 1) items := by
        simp [excess, excessOfItems, numbersOfItems]
      rw [classifyItems_cons, hfaults]
      exact hitem.followedBy fun value _ => hitems.map (value :: ·)

/-- The classification of the fields of an object stops at the first number out of range. -/
theorem stopsAtFirst_classifyFields (here : Location) : (fields : List (String × Json)) →
    StopsAtFirst (classifyFields here fields) (excessOfFields here fields)
  | [] => rfl
  | (key, field) :: fields => by
      have hfield := stopsAtFirst_classifyNested (here.key key) field
      have hfields := stopsAtFirst_classifyFields here fields
      have hfaults : excessOfFields here ((key, field) :: fields) =
          field.excess (here.key key) ++ excessOfFields here fields := by
        simp [excess, excessOfFields, numbersOfFields]
      rw [classifyFields_cons, hfaults]
      exact hfield.followedBy fun value _ => hfields.map ((key, value) :: ·)

end

/-- A value below the top has a typed counterpart exactly if its numbers are in range. -/
theorem exists_classifyNested_iff (here : Location) (raw : Json) :
    (∃ value, classifyNested here raw = .ok value) ↔ raw.NumbersInRange := by
  rw [(stopsAtFirst_classifyNested here raw).ok_iff, excess_eq_nil_iff]

/-! ## Typed values in a role -/

/-- A value in a role has a typed counterpart, wherever it stands. -/
def TypedAs (role : Role) (raw : Json) (value : Value) : Prop :=
  ∀ here, raw.classify role here = .ok value

/-- A value has its typed counterpart everywhere if it has it at one place. -/
theorem typedAs_iff (role : Role) (here : Location) (raw : Json) (value : Value) :
    TypedAs role raw value ↔ raw.classify role here = .ok value := by
  constructor
  · intro h
    exact h here
  · intro h there
    unfold classify at h ⊢
    cases hfailure : raw.failure? with
    | some message => cases role <;> simp_all
    | none =>
        simp only [hfailure, classifyNested_eq_ok_iff] at h ⊢
        exact h

/-- The typed counterpart of an input is that of a value that does not announce a failing call. -/
theorem typedAs_input_iff (raw : Json) (value : Value) :
    TypedAs .input raw value ↔ raw.failure? = none ∧ Counterpart raw value := by
  rw [typedAs_iff .input .root, classify]
  cases raw.failure? <;> simp [classifyNested_eq_ok_iff]

/-- The typed counterpart of an expected value is the announcement of a failing call if the value
is one. -/
theorem typedAs_expected_iff (raw : Json) (value : Value) :
    TypedAs .expected raw value ↔
      (∃ message, raw.failure? = some message ∧ value = .error message) ∨
        raw.failure? = none ∧ Counterpart raw value := by
  rw [typedAs_iff .expected .root, classify]
  cases raw.failure? with
  | some message => simp [eq_comm]
  | none => simp [classifyNested_eq_ok_iff]

/-- A value announces a failing call with a message, whatever else it contains. -/
def Announces (raw : Json) (message : String) : Prop :=
  ∃ fields, raw = .object fields ∧ fields.lookup "error" = some (.string message)

/-- The message of a failing call is what a value announces. -/
theorem announces_iff (raw : Json) (message : String) :
    raw.Announces message ↔ raw.failure? = some message := by
  unfold Announces
  cases raw with
  | object fields =>
      simp only [failure?, errorKey, object.injEq, exists_eq_left']
      split <;> simp_all
  | _ => simp [failure?]

/-- A value announces a failing call: it is an object with a text under the key {lit}`error`,
whatever else it contains. -/
def AnnouncesFailure (raw : Json) : Prop :=
  ∃ fields message, raw = .object fields ∧ fields.lookup "error" = some (.string message)

/-- The values that announce a failing call are those with the message of one. -/
theorem announcesFailure_iff (raw : Json) :
    raw.AnnouncesFailure ↔ raw.failure?.isSome = true := by
  rw [Option.isSome_iff_exists]
  simp only [← announces_iff]
  exact exists_comm

/-- The values that have a typed counterpart as an input: those that do not announce a failing call
and whose numbers are in range. -/
theorem exists_typedAs_input_iff (raw : Json) :
    (∃ value, TypedAs .input raw value) ↔ ¬ raw.AnnouncesFailure ∧ raw.NumbersInRange := by
  simp only [typedAs_iff .input .root, announcesFailure_iff, classify]
  cases hfailure : raw.failure? with
  | some message => simp
  | none => simpa using exists_classifyNested_iff .root raw

/-- The values that have a typed counterpart as an expected value: those that announce a failing
call, and those whose numbers are in range. -/
theorem exists_typedAs_expected_iff (raw : Json) :
    (∃ value, TypedAs .expected raw value) ↔ raw.AnnouncesFailure ∨ raw.NumbersInRange := by
  simp only [typedAs_iff .expected .root, announcesFailure_iff, classify]
  cases hfailure : raw.failure? with
  | some message => simp
  | none => simpa using exists_classifyNested_iff .root raw

/-- The typed counterpart of an expected value announces a failing call exactly if the value
does. -/
theorem isError_of_typedAs_expected {raw : Json} {value : Value}
    (h : TypedAs .expected raw value) : value.isError = raw.failure?.isSome := by
  rcases (typedAs_expected_iff raw value).mp h with ⟨message, hfailure, rfl⟩ | ⟨hnone, hvalue⟩
  · simp [hfailure, Value.isError]
  · simp [hnone, hvalue.errorFree.isError_eq_false]

end Json
end Casebook
