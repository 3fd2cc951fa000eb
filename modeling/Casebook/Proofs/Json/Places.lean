import Casebook.Proofs.Json.DistinctKeys
import Casebook.Proofs.Value.Classification

/-!
# What stands where

In a value whose objects repeat no key, a location leads to one value at most, and everything that
is reached by going through a value is reached by its location too.

Main results:

- Theorems {lit}`Json.at?_key` and {lit}`Json.at?_index`: one more step of a location.
- Theorem {lit}`Json.DistinctKeys.at?`: what stands inside a value with distinct keys has distinct
  keys.
- Theorem {lit}`Json.at?_of_mem_numbers`: the location of a number in a value leads to it.
-/

namespace Casebook
namespace Json

/-! ## One more step -/

/-- What stands under a key of the object at a location. -/
theorem at?_key {root : Json} {place : Location} {fields : List (String × Json)}
    (h : root.at? place = some (.object fields)) (key : String) :
    root.at? (place.key key) = fields.lookup key := by
  rw [Location.key, at?_append, h]
  simp [into?]

/-- What stands at an index of the array at a location. -/
theorem at?_index {root : Json} {place : Location} {items : List Json}
    (h : root.at? place = some (.array items)) (i : Nat) :
    root.at? (place.index i) = items[i]? := by
  rw [Location.index, at?_append, h]
  simp [into?]

/-! ## Distinct keys -/

/-- The items of an array have distinct keys exactly if each of them has. -/
theorem distinctKeysItems_iff (items : List Json) :
    DistinctKeysItems items ↔ ∀ item ∈ items, item.DistinctKeys := by
  induction items with
  | nil => simp [DistinctKeysItems]
  | cons item rest ih => rw [DistinctKeysItems, List.forall_mem_cons, ih]

/-- What stands under a key of an object with distinct keys has distinct keys. -/
theorem DistinctKeys.lookup {fields : List (String × Json)} (h : (object fields).DistinctKeys)
    {key : String} {value : Json} (hvalue : fields.lookup key = some value) :
    value.DistinctKeys := by
  have hmem := (Table.lookup_eq_some_iff h.1 key value).mp hvalue
  exact (distinctKeysFields_iff fields).mp h.2 (key, value) hmem

/-- What stands one step inside a value with distinct keys has distinct keys. -/
theorem DistinctKeys.into? {value inner : Json} (h : value.DistinctKeys) {step : Step}
    (hinner : value.into? step = some inner) : inner.DistinctKeys := by
  cases value with
  | object fields =>
      cases step with
      | key name => exact h.lookup hinner
      | index i => contradiction
  | array items =>
      cases step with
      | key name => contradiction
      | index i =>
          exact (distinctKeysItems_iff items).mp h inner (List.mem_of_getElem? hinner)
  | _ => cases step <;> contradiction

/-- What stands inside a value with distinct keys has distinct keys. -/
theorem DistinctKeys.at? {value inner : Json} (h : value.DistinctKeys) {location : Location}
    (hinner : value.at? location = some inner) : inner.DistinctKeys := by
  induction location generalizing value with
  | nil =>
      cases hinner
      exact h
  | cons step rest ih =>
      rw [at?_cons, Option.bind_eq_some_iff] at hinner
      rcases hinner with ⟨middle, hmiddle, hrest⟩
      exact ih (h.into? hmiddle) hrest

/-! ## Numbers -/

mutual

/-- The location of a number in a value leads to it. -/
theorem at?_of_mem_numbers (here : Location) : (raw : Json) → raw.DistinctKeys →
    ∀ entry ∈ numbers here raw, ∃ inner, entry.1 = here ++ inner ∧
      raw.at? inner = some (.number entry.2)
  | .null, _, entry, hmem => by simp [numbers] at hmem
  | .bool _, _, entry, hmem => by simp [numbers] at hmem
  | .string _, _, entry, hmem => by simp [numbers] at hmem
  | .number n, _, entry, hmem => by
      rw [numbers, List.mem_singleton] at hmem
      subst hmem
      exact ⟨[], by simp, rfl⟩
  | .array items, h, entry, hmem => by
      rcases getElem?_of_mem_numbersOfItems here 0 items h entry hmem with
        ⟨i, item, inner, hlocation, hitem, hinner⟩
      rw [Nat.zero_add] at hlocation
      refine ⟨.index i :: inner, hlocation, ?_⟩
      simp [into?, hitem, hinner]
  | .object fields, h, entry, hmem => by
      rcases mem_of_mem_numbersOfFields here fields h.2 entry hmem with
        ⟨key, field, inner, hlocation, hfield, hinner⟩
      have hlookup := (Table.lookup_eq_some_iff h.1 key field).mpr hfield
      refine ⟨.key key :: inner, hlocation, ?_⟩
      simp [into?, hlookup, hinner]

/-- The location of a number in the items of an array leads through one of them. -/
theorem getElem?_of_mem_numbersOfItems (here : Location) (first : Nat) : (items : List Json) →
    DistinctKeysItems items → ∀ entry ∈ numbersOfItems here first items,
      ∃ (i : Nat) (item : Json) (inner : Location),
        entry.1 = here ++ .index (first + i) :: inner ∧ items[i]? = some item ∧
          item.at? inner = some (.number entry.2)
  | [], _, entry, hmem => by simp [numbersOfItems] at hmem
  | item :: items, h, entry, hmem => by
      rw [numbersOfItems, List.mem_append] at hmem
      rcases hmem with hhere | hlater
      · rcases at?_of_mem_numbers (here.index first) item h.1 entry hhere with
          ⟨inner, hlocation, hinner⟩
        exact ⟨0, item, inner, by simp [hlocation, Location.index], rfl, hinner⟩
      · rcases getElem?_of_mem_numbersOfItems here (first + 1) items h.2 entry hlater with
          ⟨i, later, inner, hlocation, hlater, hinner⟩
        refine ⟨i + 1, later, inner, ?_, hlater, hinner⟩
        rw [hlocation, Nat.add_assoc, Nat.add_comm 1 i]

/-- The location of a number in the fields of an object leads through one of them. -/
theorem mem_of_mem_numbersOfFields (here : Location) : (fields : List (String × Json)) →
    DistinctKeysFields fields → ∀ entry ∈ numbersOfFields here fields,
      ∃ (key : String) (field : Json) (inner : Location),
        entry.1 = here ++ .key key :: inner ∧ (key, field) ∈ fields ∧
          field.at? inner = some (.number entry.2)
  | [], _, entry, hmem => by simp [numbersOfFields] at hmem
  | (key, field) :: fields, h, entry, hmem => by
      rw [numbersOfFields, List.mem_append] at hmem
      rcases hmem with hhere | hlater
      · rcases at?_of_mem_numbers (here.key key) field h.1 entry hhere with
          ⟨inner, hlocation, hinner⟩
        exact ⟨key, field, inner, by simp [hlocation, Location.key], List.mem_cons_self, hinner⟩
      · rcases mem_of_mem_numbersOfFields here fields h.2 entry hlater with
          ⟨other, later, inner, hlocation, hmem, hinner⟩
        exact ⟨other, later, inner, hlocation, List.mem_cons_of_mem _ hmem, hinner⟩

end

end Json
end Casebook
