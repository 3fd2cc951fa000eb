import Casebook.Proofs.Fallible
import Casebook.Proofs.ItemByItem
import Casebook.Value.Classify

/-!
# Typed counterparts

Below the top of a value the typed counterpart repeats the structure: an array for every array, a
map for every object with the same keys in the same order, and a scalar for every scalar.  Whatever
stands at a location of the value has its own counterpart at the same location.

Main definitions:

- {lit}`Json.Counterpart`: the typed counterpart of a value.
- {lit}`Value.at?`: the typed value at a location inside another one.
- {lit}`Value.ErrorFree`: nothing at or below a typed value announces a failing call.

Main results:

- Theorem {lit}`Value.at?_induction`: what passes from a value to what stands one step inside passes
  to all locations.
- Theorem {lit}`Value.ErrorFree.at?`: no value at any location inside a value without announcements
  of failing calls has one.
- Theorems {lit}`Json.Counterpart.induction` and {lit}`Json.Counterpart.induction_right`: what holds
  of values with their counterparts, or of the counterparts alone.
- Theorem {lit}`Json.classifyNested_eq_ok_iff`: a value below the top is classified as its
  counterpart, wherever it stands.
- Theorem {lit}`Json.Counterpart.rel_at?`: a counterpart has something at the same locations, and it
  is the counterpart of what stands there.
- Theorem {lit}`Json.Counterpart.errorFree`: no counterpart contains the announcement of a failing
  call.
-/

namespace Casebook

/-! ## Places in a typed value -/

namespace Value

/-- The value one step inside a typed value. -/
def into? : Value → Step → Option Value
  | .map entries, .key name => entries.lookup name
  | .array items, .index i => items[i]?
  | _, _ => none

/-- The typed value at a location. -/
def at? (value : Value) : Location → Option Value
  | [] => some value
  | step :: location => (value.into? step).bind fun inner => inner.at? location

/-- Nothing at or below a typed value announces a failing call. -/
inductive ErrorFree : Value → Prop
  | null : ErrorFree .null
  | bool (b : Bool) : ErrorFree (.bool b)
  | int (z : Int) : ErrorFree (.int z)
  | double (d : Double) : ErrorFree (.double d)
  | string (s : String) : ErrorFree (.string s)
  | array {items : List Value} (hitems : ∀ item ∈ items, ErrorFree item) :
      ErrorFree (.array items)
  | map {entries : List (String × Value)} (hentries : ∀ entry ∈ entries, ErrorFree entry.2) :
      ErrorFree (.map entries)

/-- A value without announcements of failing calls is none itself. -/
theorem ErrorFree.isError_eq_false {value : Value} (h : value.ErrorFree) :
    value.isError = false := by
  cases h <;> rfl

/-- What stands one step inside a typed value is an item of an array or the value of an entry of a
map. -/
theorem mem_of_into? {value inner : Value} {step : Step} (h : value.into? step = some inner) :
    (∃ items, value = .array items ∧ inner ∈ items) ∨
      ∃ entries key, value = .map entries ∧ (key, inner) ∈ entries := by
  cases value with
  | array items =>
      cases step with
      | key name => contradiction
      | index i => exact .inl ⟨items, rfl, List.mem_of_getElem? h⟩
  | map entries =>
      cases step with
      | key name =>
          rcases List.lookup_eq_some_iff.mp h with ⟨before, after, hsplit, -⟩
          exact .inr ⟨entries, name, rfl, by simp [hsplit]⟩
      | index i => contradiction
  | _ => cases step <;> contradiction

/-- What passes from a value to what stands one step inside passes to all locations. -/
theorem at?_induction {motive : Value → Prop}
    (into : ∀ {value inner step}, motive value → value.into? step = some inner → motive inner)
    {value inner : Value} (h : motive value) {location : Location}
    (hinner : value.at? location = some inner) : motive inner := by
  induction location generalizing value with
  | nil =>
      cases hinner
      exact h
  | cons step rest ih =>
      rcases Option.bind_eq_some_iff.mp hinner with ⟨middle, hmiddle, hrest⟩
      exact ih (into h hmiddle) hrest

/-- What stands one step inside a value without announcements of failing calls has none. -/
theorem ErrorFree.into? {value inner : Value} (h : value.ErrorFree) {step : Step}
    (hinner : value.into? step = some inner) : inner.ErrorFree := by
  rcases mem_of_into? hinner with ⟨items, rfl, hmem⟩ | ⟨entries, key, rfl, hmem⟩
  · cases h with
    | array hitems => exact hitems inner hmem
  · cases h with
    | map hentries => exact hentries (key, inner) hmem

/-- No value at any location inside a value without announcements of failing calls is one. -/
theorem ErrorFree.at? {value inner : Value} (h : value.ErrorFree) {location : Location}
    (hinner : value.at? location = some inner) : inner.ErrorFree :=
  at?_induction (fun h hinner => h.into? hinner) h hinner

end Value

namespace Numeral

/-- The typed value of a number is an integer or the double that the number denotes. -/
theorem int_or_double_of_value? {n : Numeral} {value : Value} (h : n.value? = some value) :
    (∃ z, value = .int z) ∨ ∃ d, Double.ofNumeral? n = some d ∧ value = .double d := by
  unfold value? at h
  split at h
  · split at h
    · exact .inl ⟨n.toInt, (Option.some.inj h).symm⟩
    · contradiction
  · rcases Option.map_eq_some_iff.mp h with ⟨d, hd, rfl⟩
    exact .inr ⟨d, hd, rfl⟩

/-- The typed value of a number announces nothing. -/
theorem errorFree_of_value? {n : Numeral} {value : Value} (h : n.value? = some value) :
    value.ErrorFree := by
  rcases int_or_double_of_value? h with ⟨z, rfl⟩ | ⟨d, -, rfl⟩
  · exact .int z
  · exact .double d

end Numeral

namespace Json

/-! ## The counterpart of a value -/

/-- The typed counterpart of a value, failing calls not being recognised. -/
inductive Counterpart : Json → Value → Prop
  | null : Counterpart .null .null
  | bool (b : Bool) : Counterpart (.bool b) (.bool b)
  | number {n : Numeral} {value : Value} (hvalue : n.value? = some value) :
      Counterpart (.number n) value
  | string (s : String) : Counterpart (.string s) (.string s)
  | array {items : List Json} {values : List Value}
      (hitems : List.Forall₂ Counterpart items values) :
      Counterpart (.array items) (.array values)
  | object {fields : List (String × Json)} {entries : List (String × Value)}
      (hkeys : fields.map Prod.fst = entries.map Prod.fst)
      (hvalues : List.Forall₂ Counterpart (fields.map Prod.snd) (entries.map Prod.snd)) :
      Counterpart (.object fields) (.map entries)

/-- The counterpart of a number is its typed value. -/
theorem counterpart_number_iff (n : Numeral) (value : Value) :
    Counterpart (.number n) value ↔ n.value? = some value := by
  constructor
  · intro h
    cases h with
    | number hvalue => exact hvalue
  · exact .number

/-- The counterpart of an array is the array of the counterparts of its items. -/
theorem counterpart_array_iff (items : List Json) (value : Value) :
    Counterpart (.array items) value ↔
      ∃ values, List.Forall₂ Counterpart items values ∧ .array values = value := by
  constructor
  · intro h
    cases h with
    | array hitems => exact ⟨_, hitems, rfl⟩
  · rintro ⟨values, hitems, rfl⟩
    exact .array hitems

/-- The counterpart of an object is the map of the counterparts of its fields. -/
theorem counterpart_object_iff (fields : List (String × Json)) (value : Value) :
    Counterpart (.object fields) value ↔
      ∃ entries, List.Forall₂ (SameName Counterpart) fields entries ∧ .map entries = value := by
  constructor
  · intro h
    cases h with
    | object hkeys hvalues => exact ⟨_, ItemByItem.sameName_iff.mpr ⟨hkeys, hvalues⟩, rfl⟩
  · rintro ⟨entries, hentries, rfl⟩
    rcases ItemByItem.sameName_iff.mp hentries with ⟨hkeys, hvalues⟩
    exact .object hkeys hvalues

/-- What holds of plain values with their counterparts, of arrays if it holds of their items, and of
objects if it holds of what stands under their keys, holds of all values with their counterparts. -/
theorem Counterpart.induction {motive : Json → Value → Prop} (null : motive .null .null)
    (bool : ∀ b, motive (.bool b) (.bool b))
    (number : ∀ {n : Numeral} {value}, n.value? = some value → motive (.number n) value)
    (string : ∀ s, motive (.string s) (.string s))
    (array : ∀ {items values}, List.Forall₂ motive items values →
      motive (.array items) (.array values))
    (object : ∀ {fields entries}, List.Forall₂ (SameName motive) fields entries →
      motive (.object fields) (.map entries))
    {raw : Json} {value : Value} (h : Counterpart raw value) : motive raw value :=
  -- The second motive is about the items of an array and about the values of an object.
  @Counterpart.rec (fun raw value _ => motive raw value)
    (fun raws values _ => List.Forall₂ motive raws values) null bool number string
    (fun _ hitems => array hitems)
    (fun hkeys _ hvalues => object (ItemByItem.sameName_iff.mpr ⟨hkeys, hvalues⟩))
    .nil (fun _ _ hitem hitems => .cons hitem hitems) raw value h

/-- What holds of plain values, of arrays if it holds of their items, and of maps if it holds of the
values of their entries, holds of all counterparts. -/
theorem Counterpart.induction_right {motive : Value → Prop} (null : motive .null)
    (bool : ∀ b, motive (.bool b))
    (number : ∀ {n : Numeral} {value}, n.value? = some value → motive value)
    (string : ∀ s, motive (.string s))
    (array : ∀ {items}, (∀ item ∈ items, motive item) → motive (.array items))
    (map : ∀ {entries : List (String × Value)}, (∀ entry ∈ entries, motive entry.2) →
      motive (.map entries))
    {raw : Json} {value : Value} (h : Counterpart raw value) : motive value := by
  refine h.induction (motive := fun _ value => motive value) null bool number string ?_ ?_
  · intro items values hitems
    refine array fun value hmem => ?_
    rcases ItemByItem.exists_left hitems value hmem with ⟨_, -, hvalue⟩
    exact hvalue
  · intro fields entries hentries
    refine map fun entry hmem => ?_
    rcases ItemByItem.exists_left hentries entry hmem with ⟨_, -, -, hvalue⟩
    exact hvalue

/-! ## Classification below the top -/

/-- The items of an array are classified one after another. -/
theorem classifyItems_cons (here : Location) (i : Nat) (item : Json) (items : List Json) :
    classifyItems here i (item :: items) =
      (classifyNested (here.index i) item >>= fun value =>
        (classifyItems here (i + 1) items).map (value :: ·)) := by
  rw [classifyItems]
  cases classifyNested (here.index i) item <;> rfl

/-- The fields of an object are classified one after another. -/
theorem classifyFields_cons (here : Location) (key : String) (field : Json)
    (fields : List (String × Json)) :
    classifyFields here ((key, field) :: fields) =
      (classifyNested (here.key key) field >>= fun value =>
        (classifyFields here fields).map ((key, value) :: ·)) := by
  rw [classifyFields]
  cases classifyNested (here.key key) field <;> rfl

mutual

/-- A value below the top is classified as its counterpart, wherever it stands. -/
theorem classifyNested_eq_ok_iff (here : Location) : (raw : Json) → (value : Value) →
    (classifyNested here raw = .ok value ↔ Counterpart raw value)
  | .null, value => by
      rw [classifyNested]
      constructor
      · rintro ⟨⟩
        exact .null
      · rintro ⟨⟩
        rfl
  | .bool b, value => by
      rw [classifyNested]
      constructor
      · rintro ⟨⟩
        exact .bool b
      · rintro ⟨⟩
        rfl
  | .string s, value => by
      rw [classifyNested]
      constructor
      · rintro ⟨⟩
        exact .string s
      · rintro ⟨⟩
        rfl
  | .number n, value => by
      rw [classifyNested, counterpart_number_iff]
      cases n.value? <;> simp
  | .array items, value => by
      rw [classifyNested, map_eq_ok_iff, counterpart_array_iff]
      simp only [classifyItems_eq_ok_iff here 0 items]
  | .object fields, value => by
      rw [classifyNested, map_eq_ok_iff, counterpart_object_iff]
      simp only [classifyFields_eq_ok_iff here fields]

/-- The items of an array are classified as their counterparts. -/
theorem classifyItems_eq_ok_iff (here : Location) (i : Nat) : (items : List Json) →
    (values : List Value) →
      (classifyItems here i items = .ok values ↔ List.Forall₂ Counterpart items values)
  | [], values => by cases values <;> simp [classifyItems]
  | item :: items, values => by
      rw [classifyItems_cons, bind_eq_ok_iff]
      simp only [map_eq_ok_iff, classifyNested_eq_ok_iff (here.index i) item,
        classifyItems_eq_ok_iff here (i + 1) items]
      constructor
      · rintro ⟨value, hvalue, others, hothers, rfl⟩
        exact .cons hvalue hothers
      · rintro (_ | ⟨hvalue, hothers⟩)
        exact ⟨_, hvalue, _, hothers, rfl⟩

/-- The fields of an object are classified as their counterparts, under the same keys. -/
theorem classifyFields_eq_ok_iff (here : Location) : (fields : List (String × Json)) →
    (entries : List (String × Value)) →
      (classifyFields here fields = .ok entries ↔
        List.Forall₂ (SameName Counterpart) fields entries)
  | [], entries => by cases entries <;> simp [classifyFields]
  | (key, field) :: fields, entries => by
      rw [classifyFields_cons, bind_eq_ok_iff]
      simp only [map_eq_ok_iff, classifyNested_eq_ok_iff (here.key key) field,
        classifyFields_eq_ok_iff here fields]
      constructor
      · rintro ⟨value, hvalue, others, hothers, rfl⟩
        exact .cons ⟨rfl, hvalue⟩ hothers
      · intro h
        cases h with
        | @cons _ entry _ others hvalue hothers =>
            rcases entry with ⟨name, value⟩
            rcases hvalue with ⟨hname, hvalue⟩
            simp only at hname hvalue
            subst hname
            exact ⟨value, hvalue, others, hothers, rfl⟩

end

/-! ## Inside a counterpart -/

/-- A counterpart has something at the same steps, and it is the counterpart of what stands
there. -/
theorem Counterpart.rel_into? {raw : Json} {value : Value} (h : Counterpart raw value)
    (step : Step) : Option.Rel Counterpart (raw.into? step) (value.into? step) := by
  cases raw with
  | array items =>
      obtain ⟨values, hvalues, rfl⟩ := (counterpart_array_iff items value).mp h
      cases step with
      | key name => exact .none
      | index i => exact ItemByItem.getElem? hvalues i
  | object fields =>
      obtain ⟨entries, hentries, rfl⟩ := (counterpart_object_iff fields value).mp h
      cases step with
      | key name => exact ItemByItem.lookup hentries name
      | index i => exact .none
  | number n =>
      have hscalar : value.into? step = none := by
        have hvalue := (counterpart_number_iff n value).mp h
        cases Numeral.int_or_double_of_value? hvalue with
        | inl hint =>
            obtain ⟨z, rfl⟩ := hint
            rfl
        | inr hdouble =>
            obtain ⟨d, -, rfl⟩ := hdouble
            rfl
      rw [hscalar]
      exact .none
  | _ =>
      cases h
      exact .none

/-- A counterpart has something at the same locations, and it is the counterpart of what stands
there. -/
theorem Counterpart.rel_at? {raw : Json} {value : Value} (h : Counterpart raw value)
    (location : Location) : Option.Rel Counterpart (raw.at? location) (value.at? location) := by
  induction location generalizing raw value with
  | nil => exact .some h
  | cons step rest ih =>
      have hstep := h.rel_into? step
      rw [at?_cons, Value.at?]
      cases hinner : raw.into? step with
      | none =>
          rw [hinner] at hstep
          rw [ItemByItem.eq_none_of_rel hstep]
          exact .none
      | some inner =>
          rw [hinner] at hstep
          obtain ⟨typed, htyped, hcounterpart⟩ := ItemByItem.exists_of_rel_some hstep
          rw [htyped]
          exact ih hcounterpart

/-- What stands inside a value has its counterpart at the same location. -/
theorem Counterpart.at? {raw inner : Json} {value : Value} (h : Counterpart raw value)
    {location : Location} (hinner : raw.at? location = some inner) :
    ∃ typed, value.at? location = some typed ∧ Counterpart inner typed := by
  have hrel := h.rel_at? location
  rw [hinner] at hrel
  exact ItemByItem.exists_of_rel_some hrel

/-- No counterpart contains the announcement of a failing call. -/
theorem Counterpart.errorFree {raw : Json} {value : Value} (h : Counterpart raw value) :
    value.ErrorFree :=
  h.induction_right .null .bool Numeral.errorFree_of_value? .string .array .map

end Json
end Casebook
