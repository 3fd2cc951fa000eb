import Casebook.Model.Encoding
import Casebook.Proofs.Json.UniqueReading
import Casebook.Proofs.Number.Shortest
import Casebook.Proofs.Value.Counterpart

/-!
# Typed values can be told from their JSON forms

The JSON form of a typed value tells its kind next to its contents.  Values of different kinds are
therefore written differently even where their contents look alike, and values of one kind differ
where their contents do.

Main definitions:

- {lit}`Value.Representable`: all doubles inside a value are representable.

Main results:

- Theorem {lit}`Json.Counterpart.representable`: all doubles that come from numerals are
  representable.
- Theorem {lit}`Value.numbersWellFormed_toJson`: the numbers in the JSON form of a value are well
  formed.
- Theorem {lit}`Value.toJson_injective`: values with the same JSON form are equal.
-/

namespace Casebook

/-! ## Values with representable doubles -/

/-- All doubles at or below a typed value are representable. -/
inductive Value.Representable : Value → Prop
  | null : Representable .null
  | bool (b : Bool) : Representable (.bool b)
  | int (z : Int) : Representable (.int z)
  | double {d : Double} (h : Double.Representable d.units) : Representable (.double d)
  | string (s : String) : Representable (.string s)
  | array {items : List Value} (hitems : ∀ item ∈ items, Representable item) :
      Representable (.array items)
  | map {entries : List (String × Value)} (hentries : ∀ entry ∈ entries, Representable entry.2) :
      Representable (.map entries)
  | error (message : String) : Representable (.error message)

/-- The typed value of a number is an integer or a representable double. -/
theorem Numeral.representable_of_value? {n : Numeral} {value : Value} (h : n.value? = some value) :
    value.Representable := by
  rcases int_or_double_of_value? h with ⟨z, rfl⟩ | ⟨d, hd, rfl⟩
  · exact .int z
  · exact .double (Double.representable_of_ofNumeral? hd)

/-- All doubles inside the counterpart of a value are representable. -/
theorem Json.Counterpart.representable {raw : Json} {value : Value} (h : Counterpart raw value) :
    value.Representable :=
  h.induction_right .null .bool Numeral.representable_of_value? .string .array .map

namespace Value

/-- The doubles inside the items of an array are those inside the array. -/
theorem representable_array_iff (items : List Value) :
    (array items).Representable ↔ ∀ item ∈ items, item.Representable := by
  constructor
  · intro h
    cases h with
    | array hitems => exact hitems
  · exact .array

/-- The doubles inside the entries of a map are those inside the map. -/
theorem representable_map_iff (entries : List (String × Value)) :
    (map entries).Representable ↔ ∀ entry ∈ entries, entry.2.Representable := by
  constructor
  · intro h
    cases h with
    | map hentries => exact hentries
  · exact .map

/-- A double inside itself is representable if the value is. -/
theorem representable_double_iff (d : Double) :
    (double d).Representable ↔ Double.Representable d.units := by
  constructor
  · intro h
    cases h with
    | double h => exact h
  · exact .double

/-! ## Contents next to their kind -/

/-- Contents next to their kind tell both. -/
theorem tagged_inj {kind other : String} {contents twin : Json} :
    tagged kind contents = tagged other twin ↔ kind = other ∧ contents = twin := by
  simp [tagged]

/-- Contents next to their kind have the numbers of the contents. -/
theorem numbersWellFormed_tagged (kind : String) (contents : Json) :
    (tagged kind contents).NumbersWellFormed ↔ contents.NumbersWellFormed := by
  simp [tagged, Json.NumbersWellFormed, Json.NumbersWellFormedFields]

mutual

/-- The numbers in the JSON form of a value are well formed. -/
theorem numbersWellFormed_toJson : (value : Value) → value.Representable →
    value.toJson.NumbersWellFormed
  | .null, _ => by simp [toJson, Json.NumbersWellFormed, Json.NumbersWellFormedFields]
  | .bool b, _ => (numbersWellFormed_tagged _ _).mpr trivial
  | .int z, _ => (numbersWellFormed_tagged _ _).mpr (Numeral.wellFormed_ofInt z)
  | .double d, h =>
      (numbersWellFormed_tagged _ _).mpr
        (Double.wellFormed_numeral ((representable_double_iff d).mp h))
  | .string s, _ => (numbersWellFormed_tagged _ _).mpr trivial
  | .array items, h =>
      (numbersWellFormed_tagged _ _).mpr
        (numbersWellFormed_itemsToJson items ((representable_array_iff items).mp h))
  | .map entries, h =>
      (numbersWellFormed_tagged _ _).mpr
        (numbersWellFormed_entriesToJson entries ((representable_map_iff entries).mp h))
  | .error message, _ => (numbersWellFormed_tagged _ _).mpr trivial

/-- The numbers in the JSON forms of some values are well formed. -/
theorem numbersWellFormed_itemsToJson : (items : List Value) →
    (∀ item ∈ items, item.Representable) → Json.NumbersWellFormedItems (itemsToJson items)
  | [], _ => trivial
  | item :: items, h => by
      rw [List.forall_mem_cons] at h
      exact ⟨numbersWellFormed_toJson item h.1, numbersWellFormed_itemsToJson items h.2⟩

/-- The numbers in the JSON forms of the values of some entries are well formed. -/
theorem numbersWellFormed_entriesToJson : (entries : List (String × Value)) →
    (∀ entry ∈ entries, entry.2.Representable) →
      Json.NumbersWellFormedFields (entriesToJson entries)
  | [], _ => trivial
  | (key, value) :: entries, h => by
      rw [List.forall_mem_cons] at h
      exact ⟨numbersWellFormed_toJson value h.1, numbersWellFormed_entriesToJson entries h.2⟩

end

/-! ## Equal JSON forms -/

mutual

/-- Values with the same JSON form are equal, if their doubles are representable. -/
theorem toJson_injective : (value other : Value) → value.Representable → other.Representable →
    value.toJson = other.toJson → value = other
  | .null, other, _, _, h => by cases other <;> simp_all [toJson, tagged]
  | .bool b, other, _, _, h => by cases other <;> simp_all [toJson, tagged]
  | .string s, other, _, _, h => by cases other <;> simp_all [toJson, tagged]
  | .error message, other, _, _, h => by cases other <;> simp_all [toJson, tagged]
  | .int z, other, _, _, h => by
      cases other
      case int w =>
        simp only [toJson, tagged_inj, true_and, Json.number.injEq] at h
        rw [Numeral.ofInt_injective h]
      all_goals simp [toJson, tagged] at h
  | .double d, other, hvalue, hother, h => by
      cases other
      case double e =>
        simp only [toJson, tagged_inj, true_and, Json.number.injEq] at h
        rw [representable_double_iff] at hvalue hother
        rw [Double.numeral_injective hvalue hother h]
      all_goals simp [toJson, tagged] at h
  | .array items, other, hvalue, hother, h => by
      cases other
      case array others =>
        simp only [toJson, tagged_inj, true_and, Json.array.injEq] at h
        rw [representable_array_iff] at hvalue hother
        rw [itemsToJson_injective items others hvalue hother h]
      all_goals simp [toJson, tagged] at h
  | .map entries, other, hvalue, hother, h => by
      cases other
      case map others =>
        simp only [toJson, tagged_inj, true_and, Json.object.injEq] at h
        rw [representable_map_iff] at hvalue hother
        rw [entriesToJson_injective entries others hvalue hother h]
      all_goals simp [toJson, tagged] at h

/-- Lists of values with the same JSON forms are equal. -/
theorem itemsToJson_injective : (items others : List Value) →
    (∀ item ∈ items, item.Representable) → (∀ other ∈ others, other.Representable) →
      itemsToJson items = itemsToJson others → items = others
  | [], others, _, _, h => by cases others <;> simp_all [itemsToJson]
  | item :: items, [], _, _, h => by simp [itemsToJson] at h
  | item :: items, other :: others, hitems, hothers, h => by
      rw [List.forall_mem_cons] at hitems hothers
      simp only [itemsToJson, List.cons.injEq] at h
      rw [toJson_injective item other hitems.1 hothers.1 h.1,
        itemsToJson_injective items others hitems.2 hothers.2 h.2]

/-- Lists of entries whose values have the same JSON forms under the same keys are equal. -/
theorem entriesToJson_injective : (entries others : List (String × Value)) →
    (∀ entry ∈ entries, entry.2.Representable) → (∀ other ∈ others, other.2.Representable) →
      entriesToJson entries = entriesToJson others → entries = others
  | [], others, _, _, h => by cases others <;> simp_all [entriesToJson]
  | (key, value) :: entries, [], _, _, h => by simp [entriesToJson] at h
  | (key, value) :: entries, (name, other) :: others, hentries, hothers, h => by
      rw [List.forall_mem_cons] at hentries hothers
      simp only [entriesToJson, List.cons.injEq, Prod.mk.injEq] at h
      rw [h.1.1, toJson_injective value other hentries.1 hothers.1 h.1.2,
        entriesToJson_injective entries others hentries.2 hothers.2 h.2]

end

/-- The values in a table are encoded like the entries of a map. -/
theorem entries_mapValues_toJson (t : Table Value) :
    (t.mapValues fun _ value => value.toJson).entries = entriesToJson t.entries := by
  have hentries : ∀ entries : List (String × Value),
      entries.map (fun entry => (entry.1, entry.2.toJson)) = entriesToJson entries := by
    intro entries
    induction entries with
    | nil => rfl
    | cons entry entries ih => rw [List.map_cons, ih, entriesToJson]
  exact hentries t.entries

end Value
end Casebook
