/-!
# Insertion-ordered tables

A table pairs names with values.  Names are distinct and keep the order in which they were first
put in; putting a name in again replaces its value where it stands.

Main results:

- Theorem {lit}`Table.get?_eq_some_iff`: the entries are the names with what they hold.
- Theorem {lit}`Table.get?_put_self`: a name that was put in holds the value put in last.
- Theorem {lit}`Table.get?_put_of_ne`: no other name is affected.
- Theorem {lit}`Table.keys_put`: the names after a put are the old names, followed by the new one if
  it was not among them.
-/

namespace Casebook

/-- Names with values, the names being distinct and in order of first insertion. -/
structure Table (α : Type) where
  entries : List (String × α)
  distinct : (entries.map Prod.fst).Nodup
  deriving DecidableEq, Repr

namespace Table

variable {α β : Type}

/-- Two tables with the same entries are the same table. -/
@[ext]
theorem ext {s t : Table α} (h : s.entries = t.entries) : s = t := by
  cases s
  cases t
  cases h
  rfl

/-- The table without entries. -/
def empty : Table α :=
  ⟨[], List.nodup_nil⟩

instance : Inhabited (Table α) :=
  ⟨empty⟩

/-- The names in order. -/
def keys (t : Table α) : List String :=
  t.entries.map Prod.fst

/-- The value under a name. -/
def get? (t : Table α) (key : String) : Option α :=
  t.entries.lookup key

/-- A name is present. -/
def contains (t : Table α) (key : String) : Bool :=
  (t.get? key).isSome

/-- The table without entries has no names. -/
@[simp]
theorem keys_empty : (empty : Table α).keys = [] :=
  rfl

/-- The table without entries has nothing under any name. -/
@[simp]
theorem get?_empty (key : String) : (empty : Table α).get? key = none :=
  rfl

/-- Looking a name up in entries with distinct names finds the entry with that name. -/
theorem lookup_eq_some_iff {entries : List (String × α)} (h : (entries.map Prod.fst).Nodup)
    (key : String) (value : α) :
    entries.lookup key = some value ↔ (key, value) ∈ entries := by
  induction entries with
  | nil => simp
  | cons entry rest ih =>
      obtain ⟨name, held⟩ := entry
      rw [List.map_cons, List.nodup_cons] at h
      by_cases hk : key = name
      · subst hk
        have hrest : (key, value) ∉ rest := fun hm =>
          h.1 (List.mem_map.mpr ⟨(key, value), hm, rfl⟩)
        simp [hrest, eq_comm]
      · have hne : (key == name) = false := by simpa using hk
        simp [List.lookup_cons, hne, hk, ih h.2]

/-- The entries are the names with what they hold. -/
theorem get?_eq_some_iff (t : Table α) (key : String) (value : α) :
    t.get? key = some value ↔ (key, value) ∈ t.entries :=
  lookup_eq_some_iff t.distinct key value

/-- A name is present exactly if it is among the names. -/
theorem contains_iff_mem_keys (t : Table α) (key : String) :
    t.contains key = true ↔ key ∈ t.keys := by
  rw [contains, Option.isSome_iff_exists]
  constructor
  · rintro ⟨value, h⟩
    exact List.mem_map.mpr ⟨(key, value), (t.get?_eq_some_iff key value).mp h, rfl⟩
  · intro h
    obtain ⟨⟨name, value⟩, hm, rfl⟩ := List.mem_map.mp h
    exact ⟨value, (t.get?_eq_some_iff name value).mpr hm⟩

/-! ## Putting in -/

/-- Replace the value of a name where it stands, or append the name with the value. -/
def putEntry (key : String) (value : α) : List (String × α) → List (String × α)
  | [] => [(key, value)]
  | (name, held) :: rest =>
      if name = key then (name, value) :: rest else (name, held) :: putEntry key value rest

/-- The names after a replacement or an append. -/
theorem keys_putEntry (key : String) (value : α) (entries : List (String × α)) :
    (putEntry key value entries).map Prod.fst =
      if key ∈ entries.map Prod.fst then entries.map Prod.fst
      else entries.map Prod.fst ++ [key] := by
  induction entries with
  | nil => simp [putEntry]
  | cons entry rest ih =>
      obtain ⟨name, held⟩ := entry
      by_cases h : name = key
      · simp [putEntry, h]
      · have hne : key ≠ name := fun e => h e.symm
        by_cases hk : key ∈ rest.map Prod.fst <;>
          simp_all [putEntry]

/-- A replacement or an append keeps the names distinct. -/
theorem nodup_putEntry (key : String) (value : α) {entries : List (String × α)}
    (h : (entries.map Prod.fst).Nodup) :
    ((putEntry key value entries).map Prod.fst).Nodup := by
  rw [keys_putEntry]
  split
  · exact h
  · next hk =>
      refine List.nodup_append.mpr ⟨h, by simp, ?_⟩
      intro a ha b hb hab
      rw [List.mem_singleton] at hb
      exact hk (hb ▸ hab ▸ ha)

/-- Put a value under a name. -/
def put (t : Table α) (key : String) (value : α) : Table α :=
  ⟨putEntry key value t.entries, nodup_putEntry key value t.distinct⟩

/-- The table of a list of entries: a repeated name keeps its first place and its last value. -/
def ofList (entries : List (String × α)) : Table α :=
  entries.foldl (fun t entry => t.put entry.1 entry.2) empty

/-- The names after a put. -/
theorem keys_put (t : Table α) (key : String) (value : α) :
    (t.put key value).keys = if key ∈ t.keys then t.keys else t.keys ++ [key] :=
  keys_putEntry key value t.entries

/-- A name that was put in holds the value put in. -/
@[simp]
theorem get?_put_self (t : Table α) (key : String) (value : α) :
    (t.put key value).get? key = some value := by
  obtain ⟨entries, distinct⟩ := t
  simp only [get?, put]
  clear distinct
  induction entries with
  | nil => simp [putEntry]
  | cons entry rest ih =>
      obtain ⟨name, held⟩ := entry
      by_cases h : name = key
      · simp [putEntry, h]
      · have hne : (key == name) = false := by simpa using fun e => h e.symm
        simp [putEntry, h, List.lookup_cons, hne, ih]

/-- Putting a value under one name leaves the others as they were. -/
theorem get?_put_of_ne (t : Table α) {key other : String} (value : α) (h : other ≠ key) :
    (t.put key value).get? other = t.get? other := by
  obtain ⟨entries, distinct⟩ := t
  simp only [get?, put]
  clear distinct
  have hkey : (other == key) = false := by simpa using h
  induction entries with
  | nil => simp [putEntry, List.lookup_cons, hkey]
  | cons entry rest ih =>
      obtain ⟨name, held⟩ := entry
      by_cases hn : name = key
      · simp [putEntry, hn, List.lookup_cons, hkey]
      · simp [putEntry, hn, List.lookup_cons, ih]

/-! ## Changing values -/

/-- Compute a new value for each name from the name and its value. -/
def mapValues (f : String → α → β) (t : Table α) : Table β :=
  ⟨t.entries.map fun entry => (entry.1, f entry.1 entry.2), by
    simpa [List.map_map, Function.comp_def] using t.distinct⟩

/-- A name holds the new value computed from its old one. -/
@[simp]
theorem get?_mapValues (f : String → α → β) (t : Table α) (key : String) :
    (t.mapValues f).get? key = (t.get? key).map (f key) := by
  obtain ⟨entries, distinct⟩ := t
  simp only [get?, mapValues]
  clear distinct
  induction entries with
  | nil => rfl
  | cons entry rest ih =>
      obtain ⟨name, held⟩ := entry
      by_cases h : key = name
      · simp [h]
      · have hne : (key == name) = false := by simpa using h
        simp [List.lookup_cons, hne, ih]

/-- Changing values keeps the names and their order. -/
@[simp]
theorem keys_mapValues (f : String → α → β) (t : Table α) :
    (t.mapValues f).keys = t.keys := by
  simp [keys, mapValues, List.map_map, Function.comp_def]

end Table

end Casebook
