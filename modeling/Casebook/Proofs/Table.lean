import Casebook.Table
import Mathlib.Data.List.Basic

/-!
# Tables as partial functions

Two readings of a table are used in proofs: the partial function from names to values, and the list
of entries in order.  This module relates the two.

Main results:

- Theorem {lit}`Table.get?_put`: a put changes the partial function at one name.
- Theorem {lit}`Table.mem_keys_iff`: the names are where the partial function is defined.
- Theorem {lit}`Table.walk_eq_lookup`: a walk to the first entry with a name is a lookup.
- Theorem {lit}`Table.entries_ofList`: entries with distinct names make up a table as they are.
- Theorem {lit}`Table.get?_ofList`: of several values with one name the last one is held.
- Theorem {lit}`Table.countP_filterMap`: what is made of the entries one by one is counted at one
  name if nothing made of the other entries counts.
-/

namespace Casebook
namespace Table

variable {α β : Type}

/-- The names of a table are distinct. -/
theorem nodup_keys (t : Table α) : t.keys.Nodup :=
  t.distinct

/-- A name is present exactly if something is held under it. -/
theorem mem_keys_iff (t : Table α) (key : String) :
    key ∈ t.keys ↔ ∃ value, t.get? key = some value := by
  rw [← contains_iff_mem_keys, contains, Option.isSome_iff_exists]

/-- The value under a name is that of the first entry if it has this name. -/
theorem lookup_cons_eq_ite (key name : String) (value : α) (entries : List (String × α)) :
    ((name, value) :: entries).lookup key =
      if key = name then some value else entries.lookup key := by
  by_cases h : key = name
  · subst h
    simp
  · rw [List.lookup_cons, beq_false_of_ne h, if_neg h]

/-- A walk over entries that ends at the first entry with a name comes to what it makes of the value
under this name, and to what it makes of no entries if there is none. -/
theorem walk_eq_lookup (walk : List (String × α) → β) {key : String} {found : α → β}
    (hcons : ∀ name value rest,
      walk ((name, value) :: rest) = if name = key then found value else walk rest)
    (entries : List (String × α)) :
    walk entries = (entries.lookup key).elim (walk []) found := by
  induction entries with
  | nil => rfl
  | cons entry rest ih =>
      rcases entry with ⟨name, value⟩
      rw [hcons, lookup_cons_eq_ite, ih]
      by_cases h : name = key
      · rw [if_pos h, if_pos h.symm, Option.elim_some]
      · rw [if_neg h, if_neg (Ne.symm h)]

/-- Nothing is found under a name that no entry has. -/
theorem lookup_eq_none_of_notMem {key : String} {entries : List (String × α)}
    (h : key ∉ entries.map Prod.fst) : entries.lookup key = none := by
  induction entries with
  | nil => rfl
  | cons entry rest ih =>
      rcases entry with ⟨name, value⟩
      rw [List.map_cons, List.mem_cons, not_or] at h
      rw [lookup_cons_eq_ite, if_neg h.1]
      exact ih h.2

/-- A put changes what is held under one name. -/
theorem get?_put (t : Table α) (key other : String) (value : α) :
    (t.put key value).get? other = if other = key then some value else t.get? other := by
  by_cases h : other = key
  · subst h
    simp
  · rw [get?_put_of_ne t value h, if_neg h]

/-- Entries with what they hold already in them are left as they are. -/
theorem putEntry_of_lookup {key : String} {value : α} {entries : List (String × α)}
    (h : entries.lookup key = some value) : putEntry key value entries = entries := by
  induction entries with
  | nil => contradiction
  | cons entry rest ih =>
      rcases entry with ⟨name, held⟩
      rw [lookup_cons_eq_ite] at h
      by_cases hname : name = key
      · rw [if_pos hname.symm, Option.some.injEq] at h
        rw [putEntry, if_pos hname, h]
      · rw [if_neg (Ne.symm hname)] at h
        rw [putEntry, if_neg hname, ih h]

/-- Putting in what is held already changes nothing. -/
theorem put_eq_self {t : Table α} {key : String} {value : α} (h : t.get? key = some value) :
    t.put key value = t :=
  ext (putEntry_of_lookup h)

/-- Changing no value changes nothing. -/
theorem mapValues_eq_self {t : Table α} {f : String → α → α}
    (h : ∀ entry ∈ t.entries, f entry.1 entry.2 = entry.2) : t.mapValues f = t := by
  apply ext
  change t.entries.map (fun entry => (entry.1, f entry.1 entry.2)) = t.entries
  conv_rhs => rw [← List.map_id t.entries]
  apply List.map_congr_left
  intro entry hmem
  rw [h entry hmem, id]

/-! ## Entries in order -/

/-- A new name is appended. -/
theorem putEntry_of_notMem {key : String} (value : α) {entries : List (String × α)}
    (h : key ∉ entries.map Prod.fst) : putEntry key value entries = entries ++ [(key, value)] := by
  induction entries with
  | nil => rfl
  | cons entry rest ih =>
      rcases entry with ⟨name, held⟩
      simp only [List.map_cons, List.mem_cons, not_or] at h
      rw [putEntry, if_neg (Ne.symm h.1), ih h.2, List.cons_append]

/-- A new name is appended to the entries. -/
theorem entries_put_of_notMem (t : Table α) {key : String} (value : α) (h : key ∉ t.keys) :
    (t.put key value).entries = t.entries ++ [(key, value)] :=
  putEntry_of_notMem value h

/-- Putting in entries with new and distinct names appends them all. -/
theorem entries_foldl_put (t : Table α) (entries : List (String × α))
    (h : (t.keys ++ entries.map Prod.fst).Nodup) :
    (entries.foldl (fun t entry => t.put entry.1 entry.2) t).entries = t.entries ++ entries := by
  induction entries generalizing t with
  | nil => simp
  | cons entry rest ih =>
      have hnew : entry.1 ∉ t.keys := by
        intro hmem
        exact (List.nodup_append.mp h).2.2 _ hmem _ (by simp) rfl
      have hkeys : (t.put entry.1 entry.2).keys = t.keys ++ [entry.1] := by
        rw [keys_put, if_neg hnew]
      have hrest : ((t.put entry.1 entry.2).keys ++ rest.map Prod.fst).Nodup := by
        rw [hkeys, List.append_assoc]
        exact h
      rw [List.foldl_cons, ih _ hrest, entries_put_of_notMem t entry.2 hnew, List.append_assoc]
      rfl

/-- Entries with distinct names make up a table as they are. -/
theorem entries_ofList {entries : List (String × α)} (h : (entries.map Prod.fst).Nodup) :
    (ofList entries).entries = entries := by
  rw [ofList, entries_foldl_put empty entries (by simpa using h)]
  rfl

/-- The value under a name after some entries were put into a table is the last one put in, if there
is one. -/
theorem get?_foldl_put (t : Table α) (entries : List (String × α)) (key : String) :
    (entries.foldl (fun t entry => t.put entry.1 entry.2) t).get? key =
      (entries.reverse.lookup key).or (t.get? key) := by
  induction entries generalizing t with
  | nil => rfl
  | cons entry entries ih =>
      rw [List.foldl_cons, ih, get?_put, List.reverse_cons, List.lookup_append,
        lookup_cons_eq_ite, List.lookup_nil, Option.or_assoc]
      by_cases h : key = entry.1
      · rw [if_pos h, if_pos h, Option.some_or]
      · rw [if_neg h, if_neg h, Option.none_or]

/-- The table of a list of entries holds the last value of each name. -/
theorem get?_ofList (entries : List (String × α)) (key : String) :
    (ofList entries).get? key = entries.reverse.lookup key := by
  rw [ofList, get?_foldl_put, get?_empty, Option.or_none]

/-- The entries of a table of entries are among these. -/
theorem mem_of_mem_ofList {entries : List (String × α)} {entry : String × α}
    (h : entry ∈ (ofList entries).entries) : entry ∈ entries := by
  rcases entry with ⟨key, value⟩
  rw [← get?_eq_some_iff, get?_ofList] at h
  rcases List.lookup_eq_some_iff.mp h with ⟨before, after, hsplit, -⟩
  have hmem : (key, value) ∈ entries.reverse := by simp [hsplit]
  exact List.mem_reverse.mp hmem

/-- What is made of the entries one by one may be made of the names and what is held under them. -/
theorem filterMap_entries (t : Table α) (f : String → Option α → Option β) :
    (t.entries.filterMap fun entry => f entry.1 (some entry.2)) =
      t.keys.filterMap fun name => f name (t.get? name) := by
  rw [keys, List.filterMap_map]
  apply List.filterMap_congr
  rintro ⟨name, value⟩ hmem
  have hvalue := (t.get?_eq_some_iff name value).mpr hmem
  simp [hvalue]

/-! ## Counting -/

/-- What is made of the entries one by one is counted at one name, if nothing that is made of the
other entries counts. -/
theorem countP_filterMap (t : Table α) (f : String × α → Option β) (p : β → Bool) (key : String)
    (h : ∀ entry ∈ t.entries, entry.1 ≠ key → ∀ b, f entry = some b → p b = false) :
    (t.entries.filterMap f).countP p =
      ((t.get? key).bind fun value => f (key, value)).toList.countP p := by
  rcases t with ⟨entries, distinct⟩
  simp only [get?]
  induction entries with
  | nil => rfl
  | cons entry rest ih =>
      rcases entry with ⟨name, value⟩
      rw [List.map_cons, List.nodup_cons] at distinct
      have hrest := ih distinct.2 fun entry hentry => h entry (List.mem_cons_of_mem _ hentry)
      have hsplit : ((name, value) :: rest).filterMap f =
          (f (name, value)).toList ++ rest.filterMap f := by
        cases hf : f (name, value) <;> simp [hf]
      rw [hsplit, List.countP_append, hrest]
      by_cases hname : key = name
      · subst hname
        simp [lookup_eq_none_of_notMem distinct.1]
      · have hzero : (f (name, value)).toList.countP p = 0 := by
          rw [List.countP_eq_zero]
          intro b hb
          rw [Option.mem_toList] at hb
          simp [h (name, value) List.mem_cons_self (Ne.symm hname) b hb]
        rw [hzero, Nat.zero_add, lookup_cons_eq_ite, if_neg hname]

end Table
end Casebook
