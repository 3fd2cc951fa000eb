import Casebook.Proofs.Json.Places
import Casebook.Proofs.Value.Equality

/-!
# Canonical forms of values

Values are equal if they say the same, whatever the order in which the entries of their maps are
listed and whatever the sign of a zero.  In the canonical form of a value both are fixed: the
entries of all maps stand in the order of their keys, and every zero is positive.  Equality of values
is equality of their canonical forms, and so it is an equivalence.

Main definitions:

- {lit}`Value.canonical`: the canonical form of a value.
- {lit}`Value.DistinctKeys`: no key is repeated in any map at or below a value.

Main results:

- Theorem {lit}`sortByKey_eq_iff`: entries are sorted alike if they are the same but for their
  order.
- Theorem {lit}`Value.same_iff_canonical_eq`: values are equal if their canonical forms are the
  same.
- Theorem {lit}`Value.same_canonical`: a value is equal to its canonical form.
- Theorem {lit}`Value.equality_by_canonical_form`: what follows from this for equality.
- Theorem {lit}`Json.distinctKeys_of_typedAs`: no typed value of a value without repeated keys has
  repeated keys.
-/

namespace Casebook

/-! ## Zeros -/

namespace Double

/-- The double without the sign of a zero. -/
def canonical (d : Double) : Double :=
  if d.units = 0 then zero false else d

/-- Doubles are equal exactly if they are the same but for the sign of a zero. -/
theorem same_iff_canonical_eq (a b : Double) : a.same b = true ↔ a.canonical = b.canonical := by
  rcases a with ⟨negative, units⟩
  rcases b with ⟨twin, others⟩
  simp only [same, canonical, zero, Bool.and_eq_true, Bool.or_eq_true, beq_iff_eq]
  by_cases hunits : units = 0
  · by_cases hothers : others = 0
    · simp [hunits, hothers]
    · simp [hunits, hothers, Ne.symm hothers]
  · by_cases hothers : others = 0
    · simp [hunits, hothers]
    · simp [hunits, hothers, and_comm]

/-- A double without the sign of a zero stays as it is. -/
theorem canonical_canonical (d : Double) : d.canonical.canonical = d.canonical := by
  by_cases h : d.units = 0 <;> simp [canonical, zero, h]

end Double

/-! ## Entries in the order of their keys -/

section Sorting

variable {α : Type}

/-- The key of an entry does not come after that of another one. -/
def keyLe (a b : String × α) : Bool :=
  decide (a.1 ≤ b.1)

/-- Entries in the order of their keys. -/
def sortByKey (entries : List (String × α)) : List (String × α) :=
  entries.mergeSort keyLe

/-- Sorting changes nothing but the order. -/
theorem sortByKey_perm (entries : List (String × α)) : (sortByKey entries).Perm entries :=
  List.mergeSort_perm entries keyLe

/-- Sorted entries stand in the order of their keys. -/
theorem pairwise_sortByKey (entries : List (String × α)) :
    (sortByKey entries).Pairwise fun a b => a.1 ≤ b.1 := by
  have htrans : ∀ a b c : String × α, keyLe a b = true → keyLe b c = true → keyLe a c = true :=
    fun _ _ _ hab hbc =>
      decide_eq_true (String.le_trans (of_decide_eq_true hab) (of_decide_eq_true hbc))
  have htotal : ∀ a b : String × α, (keyLe a b || keyLe b a) = true := by
    intro a b
    simpa [keyLe] using String.le_total a.1 b.1
  exact (List.pairwise_mergeSort htrans htotal entries).imp fun h => of_decide_eq_true h

/-- Entries with distinct keys are sorted alike exactly if they are the same but for their order. -/
theorem sortByKey_eq_iff {entries others : List (String × α)}
    (hdistinct : (entries.map Prod.fst).Nodup) :
    sortByKey entries = sortByKey others ↔ entries.Perm others := by
  constructor
  · intro h
    exact (sortByKey_perm entries).symm.trans (h ▸ sortByKey_perm others)
  · intro h
    have hsorted := (sortByKey_perm entries).trans (h.trans (sortByKey_perm others).symm)
    refine List.Perm.eq_of_pairwise ?_ (pairwise_sortByKey entries) (pairwise_sortByKey others)
      hsorted
    -- Two of the entries with one key are the same entry.
    intro a b ha hb hab hba
    have hleft : a ∈ entries := (sortByKey_perm entries).mem_iff.mp ha
    have hright : b ∈ entries := h.mem_iff.mpr ((sortByKey_perm others).mem_iff.mp hb)
    exact List.inj_on_of_nodup_map hdistinct hleft hright (String.le_antisymm hab hba)

/-- Sorted entries with distinct keys stay as they are. -/
theorem sortByKey_sortByKey {entries : List (String × α)}
    (hdistinct : (entries.map Prod.fst).Nodup) :
    sortByKey (sortByKey entries) = sortByKey entries := by
  have hsorted : ((sortByKey entries).map Prod.fst).Nodup :=
    ((sortByKey_perm entries).map Prod.fst).nodup_iff.mpr hdistinct
  exact (sortByKey_eq_iff hsorted).mpr (sortByKey_perm entries)

end Sorting

namespace Value

/-! ## Canonical forms -/

mutual

/-- The canonical form of a value: the entries of all maps stand in the order of their keys, and no
zero is negative. -/
def canonical : Value → Value
  | .null => .null
  | .bool b => .bool b
  | .int z => .int z
  | .double d => .double d.canonical
  | .string s => .string s
  | .array items => .array (canonicalItems items)
  | .map entries => .map (sortByKey (canonicalEntries entries))
  | .error message => .error message

/-- The canonical forms of the items of an array, in their order. -/
def canonicalItems : List Value → List Value
  | [] => []
  | item :: items => canonical item :: canonicalItems items

/-- The entries of a map with the canonical forms of their values, in their order. -/
def canonicalEntries : List (String × Value) → List (String × Value)
  | [] => []
  | (key, value) :: entries => (key, canonical value) :: canonicalEntries entries

end

/-- No key is repeated in any map at or below a value. -/
inductive DistinctKeys : Value → Prop
  | null : DistinctKeys .null
  | bool (b : Bool) : DistinctKeys (.bool b)
  | int (z : Int) : DistinctKeys (.int z)
  | double (d : Double) : DistinctKeys (.double d)
  | string (s : String) : DistinctKeys (.string s)
  | array {items : List Value} (hitems : ∀ item ∈ items, DistinctKeys item) :
      DistinctKeys (.array items)
  | map {entries : List (String × Value)} (hkeys : (entries.map Prod.fst).Nodup)
      (hentries : ∀ entry ∈ entries, DistinctKeys entry.2) : DistinctKeys (.map entries)
  | error (message : String) : DistinctKeys (.error message)

/-- The canonical forms of items are computed one by one. -/
theorem canonicalItems_eq_map (items : List Value) :
    canonicalItems items = items.map canonical := by
  induction items with
  | nil => rfl
  | cons item items ih => rw [canonicalItems, ih, List.map_cons]

/-- The entries with the canonical forms of their values are computed one by one. -/
theorem canonicalEntries_eq_map (entries : List (String × Value)) :
    canonicalEntries entries = entries.map fun entry => (entry.1, entry.2.canonical) := by
  induction entries with
  | nil => rfl
  | cons entry entries ih => rw [canonicalEntries, ih, List.map_cons]

/-- Entries keep their keys in the canonical form. -/
theorem map_fst_canonicalEntries (entries : List (String × Value)) :
    (canonicalEntries entries).map Prod.fst = entries.map Prod.fst := by
  rw [canonicalEntries_eq_map, List.map_map]
  rfl

/-- The canonical form of a value without repeated keys has none. -/
theorem DistinctKeys.canonical {value : Value} (h : value.DistinctKeys) :
    value.canonical.DistinctKeys := by
  induction h with
  | null => exact .null
  | bool b => exact .bool b
  | int z => exact .int z
  | double d => exact .double d.canonical
  | string s => exact .string s
  | array _ ih =>
      rw [Value.canonical, canonicalItems_eq_map]
      refine .array fun item hmem => ?_
      rcases List.mem_map.mp hmem with ⟨source, hsource, rfl⟩
      exact ih source hsource
  | @map entries hkeys _ ih =>
      have hperm := sortByKey_perm (canonicalEntries entries)
      have hsorted : ((sortByKey (canonicalEntries entries)).map Prod.fst).Nodup := by
        rw [(hperm.map Prod.fst).nodup_iff, map_fst_canonicalEntries]
        exact hkeys
      refine .map hsorted fun entry hmem => ?_
      rw [hperm.mem_iff, canonicalEntries_eq_map] at hmem
      rcases List.mem_map.mp hmem with ⟨source, hsource, rfl⟩
      exact ih source hsource
  | error message => exact .error message

/-- The canonical form is its own canonical form. -/
theorem canonical_canonical {value : Value} (h : value.DistinctKeys) :
    value.canonical.canonical = value.canonical := by
  induction h with
  | double d => rw [canonical, canonical, Double.canonical_canonical]
  | array _ ih =>
      simp only [canonical, canonicalItems_eq_map, List.map_map]
      exact congrArg array (List.map_congr_left ih)
  | @map entries hkeys _ ih =>
      have hsorted : canonicalEntries (sortByKey (canonicalEntries entries)) =
          sortByKey (canonicalEntries entries) := by
        rw [canonicalEntries_eq_map (sortByKey _)]
        refine (List.map_congr_left fun entry hmem => ?_).trans (List.map_id _)
        rw [(sortByKey_perm _).mem_iff, canonicalEntries_eq_map] at hmem
        rcases List.mem_map.mp hmem with ⟨source, hsource, rfl⟩
        exact congrArg (source.1, ·) (ih source hsource)
      rw [canonical, canonical, hsorted, sortByKey_sortByKey]
      rw [map_fst_canonicalEntries]
      exact hkeys
  | _ => rfl

/-! ## Equal values -/

/-- Arrays are equal exactly if they are equal item by item. -/
theorem same_array_iff (items others : List Value) :
    Same (.array items) (.array others) ↔ List.Forall₂ Same items others :=
  sameItems_iff items others

/-- Maps are equal exactly if they are equally long and every entry is found with an equal value. -/
theorem same_map_iff (entries others : List (String × Value)) :
    Same (.map entries) (.map others) ↔
      entries.length = others.length ∧
        ∀ entry ∈ entries, ∃ value, others.lookup entry.1 = some value ∧ Same entry.2 value := by
  rw [← sameEntries_iff, ← beq_iff_eq, ← Bool.and_eq_true]
  rfl

/-- Items are equal one by one exactly if their canonical forms are the same, provided that this
holds of each of them. -/
theorem forall₂_same_iff {items others : List Value}
    (h : ∀ item ∈ items, ∀ other ∈ others, Same item other ↔ item.canonical = other.canonical) :
    List.Forall₂ Same items others ↔ canonicalItems items = canonicalItems others := by
  induction items generalizing others with
  | nil => cases others <;> simp [canonicalItems]
  | cons item items ih =>
      cases others with
      | nil => simp [canonicalItems]
      | cons other others =>
          rw [List.forall_mem_cons] at h
          have hhere := (List.forall_mem_cons.mp h.1).1
          have hrest := ih fun item hitem => (List.forall_mem_cons.mp (h.2 item hitem)).2
          rw [List.forall₂_cons, hhere, hrest, canonicalItems, canonicalItems, List.cons.injEq]

/-- An entry is found among the canonical entries exactly if an entry with this canonical form is
found. -/
theorem lookup_canonicalEntries (entries : List (String × Value)) (key : String) :
    (canonicalEntries entries).lookup key = (entries.lookup key).map canonical := by
  induction entries with
  | nil => rfl
  | cons entry entries ih =>
      rcases entry with ⟨name, value⟩
      rw [canonicalEntries, Table.lookup_cons_eq_ite, Table.lookup_cons_eq_ite]
      split
      · rfl
      · exact ih

/-- Maps with distinct keys are equal exactly if their canonical forms are, provided that this holds
of their values. -/
theorem same_map_iff_canonical {entries others : List (String × Value)}
    (hentries : (entries.map Prod.fst).Nodup) (hothers : (others.map Prod.fst).Nodup)
    (h : ∀ entry ∈ entries, ∀ other ∈ others,
      Same entry.2 other.2 ↔ entry.2.canonical = other.2.canonical) :
    Same (.map entries) (.map others) ↔
      sortByKey (canonicalEntries entries) = sortByKey (canonicalEntries others) := by
  have hkeys := map_fst_canonicalEntries entries
  have hotherKeys := map_fst_canonicalEntries others
  rw [sortByKey_eq_iff (hkeys ▸ hentries), perm_iff_lookup (hkeys ▸ hentries)
    (hotherKeys ▸ hothers), same_map_iff]
  have hlength : ∀ list, (canonicalEntries list).length = list.length := by
    simp [canonicalEntries_eq_map]
  rw [hlength, hlength, canonicalEntries_eq_map entries, List.forall_mem_map]
  refine and_congr_right fun _ => forall₂_congr fun entry hentry => ?_
  rw [lookup_canonicalEntries, Option.map_eq_some_iff]
  refine exists_congr fun value => and_congr_right fun hvalue => ?_
  have hmem : (entry.1, value) ∈ others := (Table.lookup_eq_some_iff hothers _ _).mp hvalue
  rw [h entry hentry _ hmem, eq_comm]

/-- Values without repeated keys are equal exactly if their canonical forms are the same. -/
theorem same_iff_canonical_eq {value other : Value} (h : value.DistinctKeys)
    (hother : other.DistinctKeys) : Same value other ↔ value.canonical = other.canonical := by
  induction h generalizing other with
  | null => cases other <;> simp [Same, same, canonical]
  | bool b => cases other <;> simp [Same, same, canonical]
  | int z => cases other <;> simp [Same, same, canonical]
  | double d => cases other <;> simp [Same, same, canonical, Double.same_iff_canonical_eq]
  | string s => cases other <;> simp [Same, same, canonical]
  | array hitems ih =>
      cases hother with
      | array hothers =>
          rw [same_array_iff, canonical, canonical, array.injEq]
          exact forall₂_same_iff fun item hitem other hmem => ih item hitem (hothers other hmem)
      | _ => simp [Same, same, canonical]
  | map hkeys hentries ih =>
      cases hother with
      | map hotherKeys hothers =>
          rw [canonical, canonical, map.injEq]
          exact same_map_iff_canonical hkeys hotherKeys fun entry hentry other hmem =>
            ih entry hentry (hothers other hmem)
      | _ => simp [Same, same, canonical]
  | error message => cases other <;> simp [Same, same, canonical]

/-- A value without repeated keys is equal to its canonical form. -/
theorem same_canonical {value : Value} (h : value.DistinctKeys) : Same value value.canonical :=
  (same_iff_canonical_eq h h.canonical).mpr (canonical_canonical h).symm

/-- What stands one step inside a value without repeated keys has none. -/
theorem DistinctKeys.into? {value inner : Value} (h : value.DistinctKeys) {step : Step}
    (hinner : value.into? step = some inner) : inner.DistinctKeys := by
  rcases mem_of_into? hinner with ⟨items, rfl, hmem⟩ | ⟨entries, key, rfl, hmem⟩
  · cases h with
    | array hitems => exact hitems inner hmem
  · cases h with
    | map _ hentries => exact hentries (key, inner) hmem

/-- What stands at a location inside a value without repeated keys has none. -/
theorem DistinctKeys.at? {value inner : Value} (h : value.DistinctKeys) {location : Location}
    (hinner : value.at? location = some inner) : inner.DistinctKeys :=
  at?_induction (fun h hinner => h.into? hinner) h hinner

/-- Equality is an equivalence of the values without repeated keys. -/
theorem equivalence_same :
    Equivalence fun a b : {value : Value // value.DistinctKeys} => Same a.1 b.1 where
  refl a := (same_iff_canonical_eq a.2 a.2).mpr rfl
  symm {a b} h := by
    rw [same_iff_canonical_eq a.2 b.2] at h
    exact (same_iff_canonical_eq b.2 a.2).mpr h.symm
  trans {a b c} h hnext := by
    rw [same_iff_canonical_eq a.2 b.2] at h
    rw [same_iff_canonical_eq b.2 c.2] at hnext
    exact (same_iff_canonical_eq a.2 c.2).mpr (h.trans hnext)

/-- Equality of values without repeated keys is equality of their canonical forms.  It is therefore
an equivalence of such values, and so it is of the values inside them.  Values of different kinds
are never equal, and arrays are equal item by item only. -/
theorem equality_by_canonical_form :
    (∀ value other : Value, value.DistinctKeys → other.DistinctKeys →
        (value.same other = true ↔ value.canonical = other.canonical)) ∧
      (Equivalence fun a b : {value : Value // value.DistinctKeys} => a.1.same b.1 = true) ∧
      (∀ (value inner : Value) (location : Location), value.DistinctKeys →
        value.at? location = some inner → inner.DistinctKeys) ∧
      (∀ value other : Value, value.same other = true → value.kind = other.kind) ∧
      (∀ z d, (int z).same (double d) = false) ∧
      (∀ message s, (error message).same (string s) = false) ∧
      (array []).same (map []) = false ∧
      ∀ items others, (array items).same (array others) = true ↔
        List.Forall₂ (fun item other => item.same other = true) items others := by
  refine ⟨?_, equivalence_same, ?_, ?_, ?_, ?_, rfl, same_array_iff⟩
  · exact fun _ _ h hother => same_iff_canonical_eq h hother
  · exact fun _ _ _ h hinner => h.at? hinner
  · exact fun _ _ h => kind_eq_of_same h
  · exact fun _ _ => rfl
  · exact fun _ _ => rfl

/-- A value with two keys, a negative zero and a map inside. -/
def scatteredValue : Value :=
  .map [("b", .array [.double ⟨true, 0⟩, .int 0]),
    ("a", .map [("y", .error "none"), ("x", .map [])])]

/-- The same value with its keys in the opposite order and a positive zero. -/
def tidyValue : Value :=
  .map [("a", .map [("x", .map []), ("y", .error "none")]),
    ("b", .array [.double ⟨false, 0⟩, .int 0])]

/-- The two values are equal, though no two of their maps list their entries in one order, and
inside them a value without repeated keys is found. -/
theorem equality_by_canonical_form_scattered :
    scatteredValue.DistinctKeys ∧ tidyValue.DistinctKeys ∧ scatteredValue ≠ tidyValue ∧
      scatteredValue.same tidyValue = true ∧
      scatteredValue.canonical = tidyValue.canonical ∧ scatteredValue.kind = tidyValue.kind ∧
      ∃ inner, scatteredValue.at? [.key "a"] = some inner ∧ inner.DistinctKeys := by
  have hpair : ∀ {α : Type} {P : α → Prop} {a b : α}, P a → P b → ∀ x ∈ [a, b], P x :=
    fun ha hb => List.forall_mem_cons.mpr ⟨ha, List.forall_mem_singleton.mpr hb⟩
  have hscattered : scatteredValue.DistinctKeys :=
    .map (by decide) (hpair (.array (hpair (.double _) (.int _)))
      (.map (by decide) (hpair (.error _) (.map List.nodup_nil (by simp)))))
  have htidy : tidyValue.DistinctKeys :=
    .map (by decide) (hpair (.map (by decide) (hpair (.map List.nodup_nil (by simp)) (.error _)))
      (.array (hpair (.double _) (.int _))))
  have hsame : scatteredValue.same tidyValue = true := rfl
  have h := equality_by_canonical_form
  refine ⟨hscattered, htidy, ?_, hsame, ?_, ?_, _, rfl, ?_⟩
  · simp [scatteredValue, tidyValue]
  · exact (h.1 _ _ hscattered htidy).mp hsame
  · exact h.2.2.2.1 _ _ hsame
  · exact h.2.2.1 _ _ [.key "a"] hscattered rfl

end Value

/-! ## Typed values -/

namespace Json

/-- The counterpart of a value without repeated keys has none. -/
theorem Counterpart.distinctKeys {raw : Json} {value : Value} (h : Counterpart raw value)
    (hraw : raw.DistinctKeys) : value.DistinctKeys := by
  refine h.induction (motive := fun raw value => raw.DistinctKeys → value.DistinctKeys)
    (fun _ => .null) (fun b _ => .bool b) ?_ (fun s _ => .string s) ?_ ?_ hraw
  · intro n value hvalue _
    rcases Numeral.int_or_double_of_value? hvalue with ⟨z, rfl⟩ | ⟨d, -, rfl⟩
    · exact .int z
    · exact .double d
  · intro items values hitems hdistinct
    refine .array fun value hmem => ?_
    rcases ItemByItem.exists_left hitems value hmem with ⟨item, hitem, hvalue⟩
    exact hvalue ((distinctKeysItems_iff items).mp hdistinct item hitem)
  · intro fields entries hentries hdistinct
    refine .map ((ItemByItem.sameName_iff.mp hentries).1 ▸ hdistinct.1) fun entry hmem => ?_
    rcases ItemByItem.exists_left hentries entry hmem with ⟨field, hfield, -, hvalue⟩
    exact hvalue ((distinctKeysFields_iff fields).mp hdistinct.2 field hfield)

/-- The typed values of a value without repeated keys have none, in either role. -/
theorem distinctKeys_of_typedAs {raw : Json} {role : Role} {value : Value}
    (hraw : raw.DistinctKeys) (h : raw.TypedAs role value) : value.DistinctKeys := by
  cases role with
  | input => exact ((typedAs_input_iff raw value).mp h).2.distinctKeys hraw
  | expected =>
      rcases (typedAs_expected_iff raw value).mp h with ⟨message, -, rfl⟩ | ⟨-, hvalue⟩
      · exact .error message
      · exact hvalue.distinctKeys hraw

end Json
end Casebook
