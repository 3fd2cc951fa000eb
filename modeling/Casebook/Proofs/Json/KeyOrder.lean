import Casebook.Proofs.Json.Places
import Casebook.Proofs.Value.Classification
import Casebook.Proofs.Value.Equality

/-!
# The order of keys

Two values may differ only in the order in which their objects, at any depth, list their keys.
Such values are typed alike: what the one comes to is equal to what the other comes to.

Main definitions:

- {lit}`Json.SameButKeyOrder`: two values are the same but for the order of keys.
- {lit}`Json.Reordered`: such values, no object of them repeating a key.
- {lit}`Json.reverseKeys`: a value with all keys in the opposite order.

Main results:

- Theorem {lit}`Json.Reordered.induction`: what holds of plain values and passes from the parts of
  arrays and objects to the whole holds of reordered values.
- Theorems {lit}`Json.Reordered.symm` and {lit}`Json.Reordered.lookup`: reordering can be undone,
  and does not change where a value is found.
- Theorem {lit}`Json.Reordered.exists_typedAs`: reordered values are typed alike.
-/

namespace Casebook
namespace Json

/-- Two values are the same but for the order of the keys of their objects. -/
inductive SameButKeyOrder : Json → Json → Prop
  | null : SameButKeyOrder .null .null
  | bool (b : Bool) : SameButKeyOrder (.bool b) (.bool b)
  | number (n : Numeral) : SameButKeyOrder (.number n) (.number n)
  | string (s : String) : SameButKeyOrder (.string s) (.string s)
  | array {items others : List Json} (hitems : List.Forall₂ SameButKeyOrder items others) :
      SameButKeyOrder (.array items) (.array others)
  | object {fields middle others : List (String × Json)}
      (hkeys : fields.map Prod.fst = middle.map Prod.fst)
      (hvalues : List.Forall₂ SameButKeyOrder (fields.map Prod.snd) (middle.map Prod.snd))
      (horder : middle.Perm others) : SameButKeyOrder (.object fields) (.object others)

/-- Two values are the same but for the order of keys, and no object repeats a key. -/
structure Reordered (raw other : Json) : Prop where
  distinct : raw.DistinctKeys
  same : raw.SameButKeyOrder other

namespace Reordered

/-- What holds of plain values, of arrays if it holds of their items, and of objects if it holds of
what stands under their keys, holds of all reordered values. -/
theorem induction {motive : Json → Json → Prop} (null : motive .null .null)
    (bool : ∀ b, motive (.bool b) (.bool b)) (number : ∀ n, motive (.number n) (.number n))
    (string : ∀ s, motive (.string s) (.string s))
    (array : ∀ {items others}, List.Forall₂ motive items others →
      motive (.array items) (.array others))
    (object : ∀ {fields others}, (fields.map Prod.fst).Nodup → UpToOrder motive fields others →
      motive (.object fields) (.object others))
    {raw other : Json} (h : Reordered raw other) : motive raw other := by
  -- The second motive is about the items of an array and about the values of an object.
  refine @SameButKeyOrder.rec (fun raw other _ => raw.DistinctKeys → motive raw other)
    (fun raws others _ => (∀ raw ∈ raws, raw.DistinctKeys) → List.Forall₂ motive raws others)
    (fun _ => null) (fun b _ => bool b) (fun n _ => number n) (fun s _ => string s)
    ?_ ?_ (fun _ => .nil) ?_ raw other h.same h.distinct
  · intro items others _ ih hdistinct
    exact array (ih ((distinctKeysItems_iff items).mp hdistinct))
  · intro fields middle others hkeys _ horder ih hdistinct
    have hvalues : ∀ value ∈ fields.map Prod.snd, value.DistinctKeys := by
      rw [List.forall_mem_map]
      exact (distinctKeysFields_iff fields).mp hdistinct.2
    exact object hdistinct.1 ⟨middle, ItemByItem.sameName_iff.mpr ⟨hkeys, ih hvalues⟩, horder⟩
  · intro raw other raws others _ _ hhere hrest hdistinct
    rw [List.forall_mem_cons] at hdistinct
    exact .cons (hhere hdistinct.1) (hrest hdistinct.2)

/-- Reordered values have distinct keys both. -/
theorem distinct_right {raw other : Json} (h : Reordered raw other) : other.DistinctKeys := by
  refine h.induction (motive := fun _ other => other.DistinctKeys) trivial (fun _ => trivial)
    (fun _ => trivial) (fun _ => trivial) ?_ ?_
  · intro items others hitems
    refine (distinctKeysItems_iff others).mpr fun other hmem => ?_
    rcases ItemByItem.exists_left hitems other hmem with ⟨_, _, hother⟩
    exact hother
  · intro fields others hkeys hfields
    refine ⟨hfields.nodup_names hkeys, (distinctKeysFields_iff others).mpr fun other hmem => ?_⟩
    rcases hfields.symm.exists_right other hmem with ⟨_, _, _, hother⟩
    exact hother

/-- An array that is reordered is an array of reordered items. -/
theorem of_array {items : List Json} {other : Json} (h : Reordered (.array items) other) :
    ∃ others, other = .array others ∧ List.Forall₂ Reordered items others := by
  rcases h with ⟨hdistinct, _ | _ | _ | _ | hitems | _⟩
  have hboth := (List.forall₂_and_left _ _).mpr
    ⟨(distinctKeysItems_iff items).mp hdistinct, hitems⟩
  exact ⟨_, rfl, hboth.imp fun _ _ hitem => ⟨hitem.1, hitem.2⟩⟩

/-- An object that is reordered is an object with reordered values under its keys. -/
theorem of_object {fields : List (String × Json)} {other : Json}
    (h : Reordered (.object fields) other) :
    ∃ others, other = .object others ∧ UpToOrder Reordered fields others := by
  rcases h with ⟨hdistinct, _ | _ | _ | _ | _ | ⟨hkeys, hvalues, horder⟩⟩
  have hfields : UpToOrder SameButKeyOrder fields _ :=
    ⟨_, ItemByItem.sameName_iff.mpr ⟨hkeys, hvalues⟩, horder⟩
  have hboth := hfields.and_left ((distinctKeysFields_iff fields).mp hdistinct.2)
  rcases hboth with ⟨middle, hmiddle, horder⟩
  exact ⟨_, rfl, middle, hmiddle.imp fun _ _ hfield => ⟨hfield.1, hfield.2.1, hfield.2.2⟩, horder⟩

/-- Reordering can be undone. -/
theorem symm {raw other : Json} (h : Reordered raw other) : Reordered other raw := by
  refine ⟨h.distinct_right, h.induction (motive := fun raw other => SameButKeyOrder other raw)
    .null .bool .number .string ?_ ?_⟩
  · intro items others hitems
    exact .array hitems.flip
  · intro fields others _ hfields
    rcases hfields.symm with ⟨middle, hmiddle, horder⟩
    rcases ItemByItem.sameName_iff.mp hmiddle with ⟨hkeys, hvalues⟩
    exact .object hkeys hvalues horder

/-- The values under a key of a reordered object. -/
theorem lookup {fields others : List (String × Json)}
    (h : Reordered (.object fields) (.object others)) (name : String) :
    Option.Rel Reordered (fields.lookup name) (others.lookup name) := by
  rcases h.of_object with ⟨found, hfound, hfields⟩
  cases hfound
  exact hfields.lookup h.distinct.1 name

/-! ## Reordered values are typed alike -/

/-- Reordered values announce the same failing call, if any. -/
theorem failure?_eq {raw other : Json} (h : Reordered raw other) :
    raw.failure? = other.failure? := by
  cases raw with
  | object fields =>
      rcases h.of_object with ⟨others, rfl, -⟩
      have hmessage := h.lookup errorKey
      rw [failure?, failure?]
      generalize fields.lookup errorKey = found at hmessage
      generalize others.lookup errorKey = twin at hmessage
      rcases hmessage with ⟨-, hsame⟩ | _
      · cases hsame
        all_goals rfl
      · rfl
  | _ =>
      cases h.same
      all_goals rfl

/-- The counterparts of reordered values are equal. -/
theorem exists_counterpart {raw other : Json} (h : Reordered raw other) {value : Value}
    (hvalue : raw.Counterpart value) :
    ∃ twin, other.Counterpart twin ∧ Value.Same value twin := by
  refine h.induction (motive := fun raw other => ∀ value, raw.Counterpart value →
    ∃ twin, other.Counterpart twin ∧ Value.Same value twin) ?_ ?_ ?_ ?_ ?_ ?_ value hvalue
  · rintro _ ⟨⟩
    exact ⟨.null, .null, rfl⟩
  · rintro b _ ⟨⟩
    exact ⟨.bool b, .bool b, Value.same_bool b⟩
  · intro n value hvalue
    exact ⟨value, hvalue, Value.same_of_value? ((counterpart_number_iff n value).mp hvalue)⟩
  · rintro s _ ⟨⟩
    exact ⟨.string s, .string s, Value.same_string s⟩
  · intro items others hitems value hvalue
    rcases (counterpart_array_iff items value).mp hvalue with ⟨values, hvalues, rfl⟩
    rcases ItemByItem.exists_image hitems hvalues with ⟨twins, htwins, hsame⟩
    exact ⟨.array twins, .array htwins, Value.same_array hsame⟩
  · intro fields others hkeys hfields value hvalue
    rcases (counterpart_object_iff fields value).mp hvalue with ⟨entries, hentries, rfl⟩
    rcases hfields.exists_image hentries with ⟨twins, htwins, hsame⟩
    refine ⟨.map twins, (counterpart_object_iff others _).mpr ⟨twins, htwins, rfl⟩, ?_⟩
    exact Value.same_map_of_upToOrder hsame ((ItemByItem.sameName_iff.mp hentries).1 ▸ hkeys)

/-- Reordered values have equal typed values in every role. -/
theorem exists_typedAs {raw other : Json} (h : Reordered raw other) {role : Role} {value : Value}
    (hvalue : raw.TypedAs role value) :
    ∃ twin, other.TypedAs role twin ∧ Value.Same value twin := by
  have hfailure := h.failure?_eq
  cases role with
  | input =>
      rw [typedAs_input_iff] at hvalue
      rcases h.exists_counterpart hvalue.2 with ⟨twin, htwin, hsame⟩
      exact ⟨twin, (typedAs_input_iff other twin).mpr ⟨hfailure ▸ hvalue.1, htwin⟩, hsame⟩
  | expected =>
      simp only [typedAs_expected_iff, ← hfailure]
      rcases (typedAs_expected_iff raw value).mp hvalue with
        ⟨message, hmessage, rfl⟩ | ⟨hnone, hplain⟩
      · exact ⟨.error message, Or.inl ⟨message, hmessage, rfl⟩, Value.same_error message⟩
      · rcases h.exists_counterpart hplain with ⟨twin, htwin, hsame⟩
        exact ⟨twin, Or.inr ⟨hnone, htwin⟩, hsame⟩

end Reordered

/-! ## The opposite order -/

mutual

/-- The value with the keys of all objects in the opposite order. -/
def reverseKeys : Json → Json
  | .array items => .array (reverseKeysItems items)
  | .object fields => .object (reverseKeysFields fields).reverse
  | raw => raw

/-- The items of an array with the keys of all objects in the opposite order. -/
def reverseKeysItems : List Json → List Json
  | [] => []
  | item :: items => reverseKeys item :: reverseKeysItems items

/-- Some fields with the keys of all objects in their values in the opposite order. -/
def reverseKeysFields : List (String × Json) → List (String × Json)
  | [] => []
  | (key, value) :: fields => (key, reverseKeys value) :: reverseKeysFields fields

end

mutual

/-- A value is the same with its keys in the opposite order. -/
theorem sameButKeyOrder_reverseKeys : (raw : Json) → SameButKeyOrder raw raw.reverseKeys
  | .null => .null
  | .bool b => .bool b
  | .number n => .number n
  | .string s => .string s
  | .array items => by
      rw [reverseKeys]
      exact .array (forall₂_reverseKeysItems items)
  | .object fields => by
      rw [reverseKeys]
      rcases ItemByItem.sameName_iff.mp (forall₂_reverseKeysFields fields) with ⟨hkeys, hvalues⟩
      exact .object hkeys hvalues (List.reverse_perm _).symm

/-- The items of an array are the same with their keys in the opposite order. -/
theorem forall₂_reverseKeysItems : (items : List Json) →
    List.Forall₂ SameButKeyOrder items (reverseKeysItems items)
  | [] => .nil
  | item :: items => .cons (sameButKeyOrder_reverseKeys item) (forall₂_reverseKeysItems items)

/-- The values of some fields are the same with their keys in the opposite order. -/
theorem forall₂_reverseKeysFields : (fields : List (String × Json)) →
    List.Forall₂ (SameName SameButKeyOrder) fields (reverseKeysFields fields)
  | [] => .nil
  | (_, value) :: fields =>
      .cons ⟨rfl, sameButKeyOrder_reverseKeys value⟩ (forall₂_reverseKeysFields fields)

end

end Json
end Casebook
