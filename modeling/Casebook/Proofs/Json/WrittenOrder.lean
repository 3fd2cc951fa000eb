import Casebook.Proofs.ItemByItem
import Casebook.Proofs.Json.Places

/-!
# The order in which a value is written

A value is written from its beginning to its end, item by item and field by field.  Which of two
locations comes first is decided at the first step in which they differ, by the smaller index or by
the key that comes first.  The numbers in a value are listed in this order, and none is left out.

Main definitions:

- {lit}`Json.Precedes`: a location in a value comes before another one.

Main results:

- Theorem {lit}`Json.Precedes.asymm`: of two locations at most one comes before the other.
- Theorem {lit}`Json.mem_numbers_iff`: the numbers that are listed are those in the value.
- Theorem {lit}`Json.pairwise_numbers`: they are listed in the order in which they are written.
-/

namespace Casebook

/-- The head of a list that is in some order is what comes before all others. -/
theorem head?_eq_some_iff_of_pairwise {α : Type} {R : α → α → Prop} {items : List α}
    (hitems : items.Pairwise R) (hasymm : ∀ a b, R a b → ¬ R b a) (a : α) :
    items.head? = some a ↔ a ∈ items ∧ ∀ b ∈ items, b ≠ a → R a b := by
  cases items with
  | nil => simp
  | cons item rest =>
      have hrest := (List.pairwise_cons.mp hitems).1
      rw [List.head?_cons, Option.some.injEq]
      constructor
      · intro h
        subst h
        refine ⟨List.mem_cons_self, fun b hb hne => ?_⟩
        exact hrest b ((List.mem_cons.mp hb).resolve_left hne)
      · intro h
        by_contra hne
        have hlater : a ∈ rest := (List.mem_cons.mp h.1).resolve_left (Ne.symm hne)
        exact hasymm _ _ (hrest a hlater) (h.2 item List.mem_cons_self hne)

namespace Json

/-- What stands at a location in a value is written before what stands at another one. -/
inductive Precedes : Json → Location → Location → Prop
  | index {items : List Json} {i j : Nat} {rest others : Location} (h : i < j) :
      Precedes (.array items) (.index i :: rest) (.index j :: others)
  | key {fields : List (String × Json)} {name other : String} {rest others : Location}
      (h : (fields.map Prod.fst).idxOf name < (fields.map Prod.fst).idxOf other) :
      Precedes (.object fields) (.key name :: rest) (.key other :: others)
  | inside {raw inner : Json} {step : Step} {rest others : Location}
      (hinner : raw.into? step = some inner) (h : Precedes inner rest others) :
      Precedes raw (step :: rest) (step :: others)

/-- Of two locations at most one comes before the other. -/
theorem Precedes.asymm {raw : Json} {location other : Location}
    (h : raw.Precedes location other) : ¬ raw.Precedes other location := by
  induction h with
  | index hlt =>
      intro hback
      cases hback with
      | index hgt => exact Nat.lt_asymm hlt hgt
      | inside _ _ => exact Nat.lt_irrefl _ hlt
  | key hlt =>
      intro hback
      cases hback with
      | key hgt => exact Nat.lt_asymm hlt hgt
      | inside _ _ => exact Nat.lt_irrefl _ hlt
  | inside hinner _ ih =>
      intro hback
      cases hback with
      | index hlt => exact Nat.lt_irrefl _ hlt
      | key hlt => exact Nat.lt_irrefl _ hlt
      | inside hsame hback =>
          rw [hinner, Option.some.injEq] at hsame
          subst hsame
          exact ih hback

/-! ## All numbers are listed -/

/-- The numbers in the items of an array are those in each of them. -/
theorem mem_numbersOfItems_iff {here : Location} {first : Nat} {items : List Json}
    {entry : Location × Numeral} :
    entry ∈ numbersOfItems here first items ↔
      ∃ (i : Nat) (item : Json), items[i]? = some item ∧
        entry ∈ numbers (here.index (first + i)) item :=
  ItemByItem.mem_collected_iff (fun i => numbers (here.index i)) (numbersOfItems here)
    (fun _ => by rw [numbersOfItems]) fun _ _ _ => by rw [numbersOfItems]

/-- The numbers in a field are among those in the object. -/
theorem mem_numbersOfFields {here : Location} {fields : List (String × Json)} {key : String}
    {field : Json} (hfield : (key, field) ∈ fields) {entry : Location × Numeral}
    (h : entry ∈ numbers (here.key key) field) : entry ∈ numbersOfFields here fields := by
  induction fields with
  | nil => contradiction
  | cons head rest ih =>
      rcases head with ⟨name, value⟩
      rw [numbersOfFields, List.mem_append]
      rw [List.mem_cons] at hfield
      cases hfield with
      | inl hhead =>
          cases hhead
          exact Or.inl h
      | inr hrest => exact Or.inr (ih hrest)

/-- A number that stands inside a value is listed. -/
theorem mem_numbers_of_at? (here : Location) {raw : Json} {location : Location} {n : Numeral}
    (h : raw.at? location = some (.number n)) : (here ++ location, n) ∈ raw.numbers here := by
  induction location generalizing raw here with
  | nil =>
      cases h
      simp [numbers]
  | cons step rest ih =>
      rw [at?_cons, Option.bind_eq_some_iff] at h
      obtain ⟨inner, hinner, hrest⟩ := h
      have hlisted := ih (here ++ [step]) hrest
      rw [List.append_assoc, List.singleton_append] at hlisted
      cases raw with
      | array items =>
          cases step with
          | key name => contradiction
          | index i =>
              refine mem_numbersOfItems_iff.mpr ⟨i, inner, hinner, ?_⟩
              rw [Nat.zero_add]
              exact hlisted
      | object fields =>
          cases step with
          | key name =>
              have hlookup : fields.lookup name = some inner := hinner
              rw [List.lookup_eq_some_iff] at hlookup
              obtain ⟨before, after, hsplit, -⟩ := hlookup
              exact mem_numbersOfFields (by simp [hsplit]) hlisted
          | index i => contradiction
      | _ => cases step <;> contradiction

/-- The numbers that are listed are those in the value. -/
theorem mem_numbers_iff {raw : Json} (hkeys : raw.DistinctKeys) (location : Location)
    (n : Numeral) : (location, n) ∈ raw.numbers .root ↔ raw.at? location = some (.number n) := by
  constructor
  · intro h
    obtain ⟨inner, hlocation, hinner⟩ := at?_of_mem_numbers .root raw hkeys _ h
    rw [Location.root, List.nil_append] at hlocation
    subst hlocation
    exact hinner
  · exact mem_numbers_of_at? .root

/-! ## They are listed in order -/

/-- The numbers in what stands one step inside a value come in order if they do so inside. -/
theorem pairwise_numbers_inside {raw inner : Json} {step : Step}
    (hinner : raw.into? step = some inner)
    (h : (inner.numbers .root).Pairwise fun a b => inner.Precedes a.1 b.1) :
    (inner.numbers [step]).Pairwise fun a b => raw.Precedes a.1 b.1 := by
  have hmoved := numbers_append [step] .root inner
  rw [Location.root, List.append_nil] at hmoved
  rw [hmoved, List.pairwise_map]
  exact h.imp fun hbefore => .inside hinner hbefore

mutual

/-- The numbers in a value are listed in the order in which they are written. -/
theorem pairwise_numbers : (raw : Json) → raw.DistinctKeys →
    (raw.numbers .root).Pairwise fun a b => raw.Precedes a.1 b.1
  | .null, _ => .nil
  | .bool _, _ => .nil
  | .string _, _ => .nil
  | .number _, _ => List.pairwise_singleton _ _
  | .array items, h => pairwise_numbersOfItems items 0 items (by simp) h
  | .object fields, h => pairwise_numbersOfFields [] fields h.1 h.2

/-- The numbers in the last items of an array are listed in order. -/
theorem pairwise_numbersOfItems (all : List Json) (first : Nat) : (items : List Json) →
    (∀ i : Nat, items[i]? = all[first + i]?) → DistinctKeysItems items →
      (numbersOfItems .root first items).Pairwise fun a b => (array all).Precedes a.1 b.1
  | [], _, _ => .nil
  | item :: items, hall, h => by
      rw [numbersOfItems, List.pairwise_append]
      refine ⟨?_, ?_, ?_⟩
      · have hitem : (array all).into? (.index first) = some item := (hall 0).symm
        exact pairwise_numbers_inside hitem (pairwise_numbers item h.1)
      · apply pairwise_numbersOfItems all (first + 1) items _ h.2
        intro i
        rw [Nat.add_assoc, Nat.add_comm 1 i, ← hall (i + 1), List.getElem?_cons_succ]
      · intro a ha b hb
        obtain ⟨inner, hinner, -⟩ := at?_of_mem_numbers (Location.root.index first) item h.1 a ha
        obtain ⟨i, -, others, hothers, -⟩ :=
          getElem?_of_mem_numbersOfItems .root (first + 1) items h.2 b hb
        rw [hinner, hothers]
        exact .index (by omega)

/-- The numbers in the last fields of an object are listed in order. -/
theorem pairwise_numbersOfFields (before : List (String × Json)) :
    (fields : List (String × Json)) → ((before ++ fields).map Prod.fst).Nodup →
      DistinctKeysFields fields →
      (numbersOfFields .root fields).Pairwise fun a b =>
        (object (before ++ fields)).Precedes a.1 b.1
  | [], _, _ => .nil
  | (key, field) :: fields, hnodup, h => by
      rw [numbersOfFields, List.pairwise_append]
      have hkeys := hnodup
      rw [List.map_append, List.map_cons, List.nodup_append] at hkeys
      refine ⟨?_, ?_, ?_⟩
      · have hfield : (object (before ++ (key, field) :: fields)).into? (.key key) = some field :=
          (Table.lookup_eq_some_iff hnodup key field).mpr (by simp)
        exact pairwise_numbers_inside hfield (pairwise_numbers field h.1)
      · have hlater := pairwise_numbersOfFields (before ++ [(key, field)]) fields
          (by simpa using hnodup) h.2
        simpa using hlater
      -- The key of a later field stands behind this one, because no key is repeated.
      · intro a ha b hb
        obtain ⟨inner, hinner, -⟩ := at?_of_mem_numbers (Location.root.key key) field h.1 a ha
        obtain ⟨name, value, others, hothers, hmem, -⟩ :=
          mem_of_mem_numbersOfFields .root fields h.2 b hb
        have hname : name ∈ fields.map Prod.fst := List.mem_map.mpr ⟨(name, value), hmem, rfl⟩
        have hnew : key ∉ before.map Prod.fst := fun hold =>
          hkeys.2.2 key hold key List.mem_cons_self rfl
        have hlater : name ∉ before.map Prod.fst := fun hold =>
          hkeys.2.2 name hold name (List.mem_cons_of_mem _ hname) rfl
        have hne : key ≠ name := by
          intro hsame
          exact (List.nodup_cons.mp hkeys.2.1).1 (hsame ▸ hname)
        rw [hinner, hothers]
        apply Precedes.key
        rw [List.map_append, List.map_cons, List.idxOf_append_of_notMem hnew,
          List.idxOf_append_of_notMem hlater, List.idxOf_cons_self, List.idxOf_cons_ne _ hne]
        omega

end

end Json
end Casebook
