import Casebook.Proofs.Reordering
import Casebook.Proofs.Value.Counterpart

/-!
# Equal values

Equality of values is computed by recursion.  It amounts to equality item by item for arrays and to
equality under the same names, in whatever order, for maps.

Main results:

- Theorem {lit}`Value.sameItems_iff`: lists of items are equal item by item.
- Theorem {lit}`Value.same_map_of_upToOrder`: maps whose entries are equal but for their order are
  equal.
- Theorems {lit}`Value.kind_eq_of_same` and {lit}`Value.isError_eq_of_same`: equal values have the
  same kind and announce failing calls alike.
-/

namespace Casebook

/-- A double is equal to itself. -/
theorem Double.same_self (d : Double) : d.same d = true := by
  simp [same]

namespace Value

/-- Two values are equal. -/
def Same (value other : Value) : Prop :=
  value.same other = true

/-- A truth value is equal to itself. -/
theorem same_bool (b : Bool) : Same (.bool b) (.bool b) :=
  beq_self_eq_true b

/-- A text is equal to itself. -/
theorem same_string (s : String) : Same (.string s) (.string s) :=
  beq_self_eq_true s

/-- The announcement of a failing call is equal to itself. -/
theorem same_error (message : String) : Same (.error message) (.error message) :=
  beq_self_eq_true message

/-- The typed value of a number is equal to itself. -/
theorem same_of_value? {n : Numeral} {value : Value} (h : n.value? = some value) :
    Same value value := by
  rcases Numeral.int_or_double_of_value? h with ⟨z, rfl⟩ | ⟨d, -, rfl⟩
  · exact beq_self_eq_true z
  · exact d.same_self

/-- Lists of items are equal exactly if they are equal item by item. -/
theorem sameItems_iff (items others : List Value) :
    sameItems items others = true ↔ List.Forall₂ Same items others := by
  induction items generalizing others with
  | nil => cases others <;> simp [sameItems]
  | cons item items ih =>
      cases others with
      | nil => simp [sameItems]
      | cons other others => rw [sameItems, Bool.and_eq_true, ih, List.forall₂_cons, Same]

/-- Entries are equal to some of others exactly if each of them is found there with an equal
value. -/
theorem sameEntries_iff (entries others : List (String × Value)) :
    sameEntries entries others = true ↔
      ∀ entry ∈ entries, ∃ value, others.lookup entry.1 = some value ∧ Same entry.2 value := by
  induction entries with
  | nil => simp [sameEntries]
  | cons entry entries ih =>
      rcases entry with ⟨key, value⟩
      rw [sameEntries, Bool.and_eq_true, ih, List.forall_mem_cons]
      cases others.lookup key <;> simp [Same]

/-- Arrays are equal if their items are, one by one. -/
theorem same_array {items others : List Value} (h : List.Forall₂ Same items others) :
    Same (.array items) (.array others) :=
  (sameItems_iff items others).mpr h

/-- Maps are equal if their entries are, but for their order. -/
theorem same_map_of_upToOrder {entries others : List (String × Value)}
    (h : UpToOrder Same entries others) (hdistinct : (entries.map Prod.fst).Nodup) :
    Same (.map entries) (.map others) := by
  have hlength : entries.length = others.length := by
    simpa using h.perm_names.length_eq
  suffices hentries : sameEntries entries others = true from
    (Bool.and_eq_true _ _).mpr ⟨beq_iff_eq.mpr hlength, hentries⟩
  rw [sameEntries_iff]
  intro entry hmem
  rcases h.exists_right entry hmem with ⟨other, hother, hname, hsame⟩
  refine ⟨other.2, ?_, hsame⟩
  rw [Table.lookup_eq_some_iff (h.nodup_names hdistinct), hname]
  exact hother

/-- Equal values have the same kind. -/
theorem kind_eq_of_same {value other : Value} (h : Same value other) :
    value.kind = other.kind := by
  -- Values of different kinds are told apart at once: there `h` says that `false` is `true`.
  cases value <;> cases other <;> first | rfl | exact (Bool.false_ne_true h).elim

/-- Equal values announce failing calls alike. -/
theorem isError_eq_of_same {value other : Value} (h : Same value other) :
    value.isError = other.isError := by
  cases value <;> cases other <;> first | rfl | exact (Bool.false_ne_true h).elim

end Value
end Casebook
