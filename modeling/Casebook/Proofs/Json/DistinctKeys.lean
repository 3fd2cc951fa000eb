import Casebook.Json.Reading
import Casebook.Proofs.Table

/-!
# Keys of a value that is read

A text may repeat a key in an object, but the value that it denotes does not: what a text denotes
has distinct keys in every object, at any depth.

Main results:

- Theorem {lit}`Json.distinctKeysFields_iff`: the values of some fields have distinct keys if each
  of them has.
- Theorem {lit}`Json.distinctKeys_of_resolve?`: what a written value denotes has distinct keys.
- Theorem {lit}`Json.distinctKeys_of_ofText?`: what a text denotes has distinct keys.
-/

namespace Casebook
namespace Json

/-- The values of some fields have distinct keys exactly if each of them has. -/
theorem distinctKeysFields_iff (fields : List (String × Json)) :
    DistinctKeysFields fields ↔ ∀ field ∈ fields, field.2.DistinctKeys := by
  induction fields with
  | nil => simp [DistinctKeysFields]
  | cons field rest ih =>
      rcases field with ⟨key, value⟩
      rw [DistinctKeysFields, List.forall_mem_cons, ih]

mutual

/-- Whether a value has distinct keys can be found out. -/
def decidableDistinctKeys : (raw : Json) → Decidable raw.DistinctKeys
  | .null => isTrue trivial
  | .bool _ => isTrue trivial
  | .number _ => isTrue trivial
  | .string _ => isTrue trivial
  | .array items => decidableDistinctKeysItems items
  | .object fields => @instDecidableAnd _ _ _ (decidableDistinctKeysFields fields)

/-- Whether the items of an array have distinct keys can be found out. -/
def decidableDistinctKeysItems : (items : List Json) → Decidable (DistinctKeysItems items)
  | [] => isTrue trivial
  | item :: items =>
      @instDecidableAnd _ _ (decidableDistinctKeys item) (decidableDistinctKeysItems items)

/-- Whether the values of some fields have distinct keys can be found out. -/
def decidableDistinctKeysFields :
    (fields : List (String × Json)) → Decidable (DistinctKeysFields fields)
  | [] => isTrue trivial
  | (_, value) :: fields =>
      @instDecidableAnd _ _ (decidableDistinctKeys value) (decidableDistinctKeysFields fields)

end

instance (raw : Json) : Decidable raw.DistinctKeys :=
  decidableDistinctKeys raw

/-- A number that is spelt by a text has no keys. -/
theorem distinctKeys_of_spelledNumber? {raw value : Json} (h : spelledNumber? raw = some value) :
    value.DistinctKeys := by
  cases raw with
  | string text =>
      rcases Option.map_eq_some_iff.mp h with ⟨n, -, rfl⟩
      trivial
  | _ => contradiction

/-- What an object denotes has distinct keys if the values of its fields have. -/
theorem distinctKeys_of_ofFields? {fields : List (String × Json)} {value : Json}
    (hfields : DistinctKeysFields fields) (h : ofFields? fields = some value) :
    value.DistinctKeys := by
  cases fields with
  | nil =>
      cases h
      exact ⟨List.nodup_nil, trivial⟩
  | cons field rest =>
      rcases field with ⟨key, first⟩
      rw [ofFields?] at h
      by_cases hkey : key = numberKey
      · rw [if_pos hkey] at h
        split at h
        · exact distinctKeys_of_spelledNumber? h
        · contradiction
      · rw [if_neg hkey, Option.some.injEq] at h
        subst h
        refine ⟨Table.nodup_keys _, (distinctKeysFields_iff _).mpr ?_⟩
        intro entry hmem
        exact (distinctKeysFields_iff _).mp hfields entry (Table.mem_of_mem_ofList hmem)

mutual

/-- What a written value denotes has distinct keys. -/
theorem distinctKeys_of_resolve? : (raw : Json) → (value : Json) → resolve? raw = some value →
    value.DistinctKeys
  | .null, _, h => by
      cases h
      trivial
  | .bool _, _, h => by
      cases h
      trivial
  | .number _, _, h => by
      cases h
      trivial
  | .string _, _, h => by
      cases h
      trivial
  | .array items, value, h => by
      rw [resolve?] at h
      rcases Option.map_eq_some_iff.mp h with ⟨denoted, hdenoted, rfl⟩
      exact distinctKeysItems_of_resolveItems? items denoted hdenoted
  | .object fields, value, h => by
      rw [resolve?] at h
      rcases Option.bind_eq_some_iff.mp h with ⟨denoted, hdenoted, hvalue⟩
      have hfields := distinctKeysFields_of_resolveFields? fields denoted hdenoted
      exact distinctKeys_of_ofFields? hfields hvalue

/-- What the items of a written array denote has distinct keys. -/
theorem distinctKeysItems_of_resolveItems? : (items : List Json) → (denoted : List Json) →
    resolveItems? items = some denoted → DistinctKeysItems denoted
  | [], _, h => by
      cases h
      trivial
  | item :: items, denoted, h => by
      rw [resolveItems?] at h
      cases hitem : resolve? item with
      | none => simp [hitem] at h
      | some value =>
          rw [hitem] at h
          rcases Option.map_eq_some_iff.mp h with ⟨others, hothers, rfl⟩
          exact ⟨distinctKeys_of_resolve? item value hitem,
            distinctKeysItems_of_resolveItems? items others hothers⟩

/-- What the values of the fields of a written object denote has distinct keys. -/
theorem distinctKeysFields_of_resolveFields? : (fields : List (String × Json)) →
    (denoted : List (String × Json)) → resolveFields? fields = some denoted →
      DistinctKeysFields denoted
  | [], _, h => by
      cases h
      trivial
  | (key, field) :: fields, denoted, h => by
      rw [resolveFields?] at h
      cases hfield : resolve? field with
      | none => simp [hfield] at h
      | some value =>
          rw [hfield] at h
          rcases Option.map_eq_some_iff.mp h with ⟨others, hothers, rfl⟩
          exact ⟨distinctKeys_of_resolve? field value hfield,
            distinctKeysFields_of_resolveFields? fields others hothers⟩

end

/-- What a text denotes has distinct keys. -/
theorem distinctKeys_of_ofText? {text : String} {value : Json} (h : ofText? text = some value) :
    value.DistinctKeys := by
  rcases Option.bind_eq_some_iff.mp h with ⟨written, -, hvalue⟩
  exact distinctKeys_of_resolve? written value hvalue

end Json
end Casebook
