import Casebook.Document.Basic
import Casebook.Proofs.ItemByItem
import Mathlib.Algebra.Order.Ring.Nat

/-!
# The addresses of tests

The address of a test is made of indices: that of the outermost item it belongs to, that of the item
below, and so on down to the test itself.  The tests of some items are listed in the lexicographic
order of their addresses, so that a group gives way to its items where it stands.

Main definitions:

- {lit}`Item.atAddress?`: what stands at an address among some items.
- {lit}`Item.SplicedAt`: the group at an address gives way to the items in it.

Main results:

- Theorem {lit}`Item.mem_addressedFrom_iff`: the tests that are listed with their addresses are
  those that stand at an address.
- Theorem {lit}`Item.pairwise_addressedFrom`: they are listed in the order of their addresses.
- Theorem {lit}`Item.exists_splicedAt_iff`: exactly the groups can give way to their items.
- Theorem {lit}`Item.SplicedAt.leavesOf_eq`: the tests stay the same when a group gives way.
- Theorem {lit}`Item.leavesOf_by_address`: the tests of some items are listed by their addresses.
-/

namespace Casebook

/-- The indices that lead from some items to one of them or to one below. -/
abbrev Address := List Nat

/-- An address comes before another one in lexicographic order. -/
def Address.Before (address other : Address) : Prop :=
  List.Lex (fun i j => i < j) address other

/-- Below one item the order is that below the item. -/
theorem Address.before_cons_iff (i : Nat) (address other : Address) :
    Before (i :: address) (i :: other) ↔ Before address other := by
  constructor
  · intro h
    cases h with
    | cons h => exact h
    | rel h => exact (Nat.lt_irrefl i h).elim
  · exact List.Lex.cons

namespace Item

/-! ## What stands at an address -/

/-- What stands at an address below an item, the item itself standing at the empty one. -/
def below? (item : Item) : Address → Option Item
  | [] => some item
  | i :: rest =>
      match item with
      | .test _ => none
      | .group _ items => items[i]?.bind fun inner => inner.below? rest

/-- What stands at an address among some items. -/
def atAddress? (items : List Item) : Address → Option Item
  | [] => none
  | i :: rest => items[i]?.bind fun item => item.below? rest

/-! ## Tests with their addresses -/

mutual

/-- The tests at or below an item, from left to right, with their addresses below the item. -/
def addressed : Item → List (Address × Leaf)
  | .test leaf => [([], leaf)]
  | .group _ items => addressedFrom 0 items

/-- The tests at or below some items, from left to right, with their addresses, the first item
having a given index. -/
def addressedFrom (first : Nat) : List Item → List (Address × Leaf)
  | [] => []
  | item :: items =>
      (addressed item).map (fun entry => (first :: entry.1, entry.2))
        ++ addressedFrom (first + 1) items

end

mutual

/-- The tests with their addresses are the leaves of an item. -/
theorem map_snd_addressed : (item : Item) → item.addressed.map Prod.snd = item.leaves
  | .test _ => by simp [addressed]
  | .group _ items => by
      rw [addressed, leaves_group]
      exact map_snd_addressedFrom 0 items

/-- The tests with their addresses are the leaves of some items. -/
theorem map_snd_addressedFrom (first : Nat) : (items : List Item) →
    (addressedFrom first items).map Prod.snd = leavesOf items
  | [] => by simp [addressedFrom]
  | item :: items => by
      rw [addressedFrom, leavesOf_cons, List.map_append, List.map_map,
        map_snd_addressedFrom (first + 1) items, ← map_snd_addressed item]
      rfl

end

/-- The address of a test among some items starts with an index of one of them. -/
theorem exists_index_of_mem_addressedFrom {first : Nat} {items : List Item}
    {entry : Address × Leaf} (h : entry ∈ addressedFrom first items) :
    ∃ i rest, first ≤ i ∧ entry.1 = i :: rest := by
  induction items generalizing first with
  | nil => simp [addressedFrom] at h
  | cons item items ih =>
      rw [addressedFrom, List.mem_append] at h
      cases h with
      | inl hhere =>
          obtain ⟨inner, -, rfl⟩ := List.mem_map.mp hhere
          exact ⟨first, inner.1, Nat.le_refl first, rfl⟩
      | inr hlater =>
          obtain ⟨i, rest, hle, haddress⟩ := ih hlater
          exact ⟨i, rest, Nat.le_of_succ_le hle, haddress⟩

/-- The tests of one item are those whose addresses start with its index. -/
theorem mem_addressedFrom_cons_iff (first : Nat) (item : Item) (items : List Item) (i : Nat)
    (rest : Address) (leaf : Leaf) :
    (i :: rest, leaf) ∈ addressedFrom first (item :: items) ↔
      first = i ∧ (rest, leaf) ∈ item.addressed ∨
        (i :: rest, leaf) ∈ addressedFrom (first + 1) items := by
  rw [addressedFrom, List.mem_append, List.mem_map]
  apply or_congr_left
  constructor
  · rintro ⟨⟨address, inner⟩, hmem, hsame⟩
    cases hsame
    exact ⟨rfl, hmem⟩
  · rintro ⟨rfl, hmem⟩
    exact ⟨(rest, leaf), hmem, rfl⟩

mutual

/-- The tests that are listed below an item are those that stand at an address below it. -/
theorem mem_addressed_iff : (item : Item) → (address : Address) → (leaf : Leaf) →
    ((address, leaf) ∈ item.addressed ↔ item.below? address = some (.test leaf))
  | .test _, [], _ => by simp [addressed, below?, eq_comm]
  | .test _, _ :: _, _ => by simp [addressed, below?]
  | .group _ items, [], leaf => by
      have hnone : ([], leaf) ∉ addressedFrom 0 items := by
        intro hmem
        obtain ⟨i, rest, -, haddress⟩ := exists_index_of_mem_addressedFrom hmem
        contradiction
      simp [addressed, below?, hnone]
  | .group _ items, i :: rest, leaf => by
      have hlisted := mem_addressedFrom_iff 0 items i rest leaf
      rw [Nat.zero_add] at hlisted
      exact hlisted

/-- The tests that are listed among some items are those that stand at an address. -/
theorem mem_addressedFrom_iff (first : Nat) : (items : List Item) → (i : Nat) → (rest : Address) →
    (leaf : Leaf) →
      (((first + i) :: rest, leaf) ∈ addressedFrom first items ↔
        atAddress? items (i :: rest) = some (.test leaf))
  | [], _, _, _ => by simp [addressedFrom, atAddress?]
  | item :: items, 0, rest, leaf => by
      have hlater : (first :: rest, leaf) ∉ addressedFrom (first + 1) items := by
        intro hmem
        obtain ⟨i, others, hle, haddress⟩ := exists_index_of_mem_addressedFrom hmem
        cases haddress
        omega
      rw [mem_addressedFrom_cons_iff, Nat.add_zero, mem_addressed_iff item rest leaf]
      simp [hlater, atAddress?]
  | item :: items, i + 1, rest, leaf => by
      have hothers := mem_addressedFrom_iff (first + 1) items i rest leaf
      rw [Nat.add_assoc, Nat.add_comm 1 i] at hothers
      rw [mem_addressedFrom_cons_iff, hothers]
      simp [atAddress?]

end

mutual

/-- The tests below an item are listed in the order of their addresses. -/
theorem pairwise_addressed : (item : Item) →
    item.addressed.Pairwise fun a b => Address.Before a.1 b.1
  | .test leaf => List.pairwise_singleton _ ([], leaf)
  | .group _ items => pairwise_addressedFrom 0 items

/-- The tests of some items are listed in the order of their addresses. -/
theorem pairwise_addressedFrom (first : Nat) : (items : List Item) →
    (addressedFrom first items).Pairwise fun a b => Address.Before a.1 b.1
  | [] => .nil
  | item :: items => by
      rw [addressedFrom, List.pairwise_append, List.pairwise_map]
      refine ⟨?_, pairwise_addressedFrom (first + 1) items, ?_⟩
      · refine (pairwise_addressed item).imp fun hbefore => ?_
        exact (Address.before_cons_iff first _ _).mpr hbefore
      -- A later item has a larger index.
      · intro a ha b hb
        obtain ⟨inner, -, rfl⟩ := List.mem_map.mp ha
        obtain ⟨i, rest, hle, haddress⟩ := exists_index_of_mem_addressedFrom hb
        rw [haddress]
        exact .rel hle

end

/-! ## Groups that give way -/

/-- Some items with the group at an address replaced by the items in it. -/
inductive SplicedAt : Address → List Item → List Item → Prop
  | here (before after : List Item) (heading : GroupHeading) (items : List Item) :
      SplicedAt [before.length] (before ++ .group heading items :: after)
        (before ++ items ++ after)
  | inside (before after : List Item) (heading : GroupHeading) {address : Address}
      {items others : List Item} (h : SplicedAt address items others) :
      SplicedAt (before.length :: address) (before ++ .group heading items :: after)
        (before ++ .group heading others :: after)

/-- The tests stay the same when a group gives way to the items in it. -/
theorem SplicedAt.leavesOf_eq {address : Address} {items others : List Item}
    (h : SplicedAt address items others) : leavesOf others = leavesOf items := by
  induction h with
  | here before after heading items => simp [leavesOf_append]
  | inside before after heading h ih => simp [leavesOf_append, ih]

/-- An item with an index stands between the items before and after it. -/
theorem exists_append_of_getElem? {items : List Item} {i : Nat} {item : Item}
    (h : items[i]? = some item) :
    ∃ before after, items = before ++ item :: after ∧ before.length = i := by
  obtain ⟨hlt, rfl⟩ := List.getElem?_eq_some_iff.mp h
  refine ⟨items.take i, items.drop (i + 1), ?_, List.length_take_of_le (Nat.le_of_lt hlt)⟩
  rw [← List.drop_eq_getElem_cons hlt, List.take_append_drop]

/-- A group gives way to the items in it wherever it stands. -/
theorem exists_splicedAt {address : Address} {items inner : List Item} {heading : GroupHeading}
    (h : atAddress? items address = some (.group heading inner)) :
    ∃ others, SplicedAt address items others := by
  induction address generalizing items with
  | nil => contradiction
  | cons i rest ih =>
      obtain ⟨item, hitem, hbelow⟩ := Option.bind_eq_some_iff.mp h
      obtain ⟨before, after, rfl, rfl⟩ := exists_append_of_getElem? hitem
      cases rest with
      | nil =>
          cases hbelow
          exact ⟨_, .here before after heading inner⟩
      | cons j rest =>
          cases item with
          | test leaf => contradiction
          | group outer items =>
              obtain ⟨others, hothers⟩ := ih hbelow
              exact ⟨_, .inside before after outer hothers⟩

/-- Nothing but a group gives way to the items in it. -/
theorem SplicedAt.exists_group {address : Address} {items others : List Item}
    (h : SplicedAt address items others) :
    ∃ heading inner, atAddress? items address = some (.group heading inner) := by
  induction h with
  | here before after heading items => exact ⟨heading, items, by simp [atAddress?, below?]⟩
  | @inside before after heading address items others h ih =>
      obtain ⟨outer, inner, hgroup⟩ := ih
      refine ⟨outer, inner, ?_⟩
      cases h <;> simpa [atAddress?, below?] using hgroup

/-- Exactly the groups can give way to the items in them. -/
theorem exists_splicedAt_iff (address : Address) (items : List Item) :
    (∃ others, SplicedAt address items others) ↔
      ∃ heading inner, atAddress? items address = some (.group heading inner) := by
  constructor
  · rintro ⟨others, h⟩
    exact h.exists_group
  · rintro ⟨heading, inner, h⟩
    exact exists_splicedAt h

/-! ## Everything together -/

/-- Some tests are those among some items, each of them once, in the order of their addresses. -/
def ListedByAddress (items : List Item) (leaves : List Leaf) : Prop :=
  ∃ addresses : List Address, addresses.Pairwise Address.Before ∧
    (∀ address, address ∈ addresses ↔ ∃ leaf, atAddress? items address = some (.test leaf)) ∧
    List.Forall₂ (fun address leaf => atAddress? items address = some (.test leaf))
      addresses leaves

/-- The leaves of some items are listed by their addresses. -/
theorem listedByAddress_leavesOf (items : List Item) :
    ListedByAddress items (leavesOf items) := by
  have hmem : ∀ entry : Address × Leaf, entry ∈ addressedFrom 0 items ↔
      atAddress? items entry.1 = some (.test entry.2) := by
    -- The items are those of a group, and an address among them is one below the group.
    rintro ⟨address, leaf⟩
    have hgroup := mem_addressed_iff (.group default items) address leaf
    cases address with
    | nil => simpa [addressed, below?, atAddress?] using hgroup
    | cons i rest => exact hgroup
  refine ⟨(addressedFrom 0 items).map Prod.fst, ?_, ?_, ?_⟩
  · rw [List.pairwise_map]
    exact pairwise_addressedFrom 0 items
  · intro address
    constructor
    · intro h
      obtain ⟨entry, hentry, rfl⟩ := List.mem_map.mp h
      exact ⟨entry.2, (hmem entry).mp hentry⟩
    · rintro ⟨leaf, hleaf⟩
      exact List.mem_map.mpr ⟨(address, leaf), (hmem _).mpr hleaf, rfl⟩
  · rw [← map_snd_addressedFrom 0 items, List.forall₂_map_left_iff, List.forall₂_map_right_iff,
      List.forall₂_same]
    exact fun entry hentry => (hmem entry).mp hentry

/-- The count of some items is the sum of their counts. -/
theorem leafCountOf_eq_sum (items : List Item) : leafCountOf items = (items.map leafCount).sum := by
  induction items with
  | nil => rfl
  | cons item items ih => rw [leafCountOf, ih, List.map_cons, List.sum_cons]

/-- Tests that are in no group are listed as they are. -/
theorem leavesOf_map_test (tests : List Leaf) : leavesOf (tests.map .test) = tests := by
  induction tests with
  | nil => rfl
  | cons leaf tests ih => simp [ih]

/-- The leaves of some items are the tests among them, each of them once, in the order of their
addresses, and there are as many as the counts of the items say.  They can be taken part by part,
any group may give way to the items in it, and the leaves alone, out of all groups, are themselves
again. -/
theorem leavesOf_by_address (items : List Item) :
    ListedByAddress items (leavesOf items) ∧
      (leavesOf items).length = (items.map leafCount).sum ∧
      (∀ later, leavesOf (items ++ later) = leavesOf items ++ leavesOf later) ∧
      (∀ address, (∃ others, SplicedAt address items others) ↔
        ∃ heading inner, atAddress? items address = some (.group heading inner)) ∧
      (∀ address others, SplicedAt address items others → leavesOf others = leavesOf items) ∧
      leavesOf ((leavesOf items).map .test) = leavesOf items := by
  refine ⟨listedByAddress_leavesOf items, ?_, leavesOf_append items, ?_, ?_, ?_⟩
  · rw [length_leavesOf, leafCountOf_eq_sum]
  · exact fun address => exists_splicedAt_iff address items
  · exact fun address others h => h.leavesOf_eq
  · exact leavesOf_map_test (leavesOf items)

/-- A test of which nothing but its description matters. -/
def plainTest (description : String) : Item :=
  .test ⟨description, "sum", .empty, .null, none, none⟩

/-- Tests between groups: one group holds another one, and one is empty. -/
def nestedItems : List Item :=
  [plainTest "a",
    .group ⟨"outer", none, none⟩
      [plainTest "b", .group ⟨"inner", none, none⟩ [plainTest "c", plainTest "d"], plainTest "e"],
    .group ⟨"empty", none, none⟩ [],
    plainTest "f"]

/-- The inner group gives way to its two tests, and the tests stay the same. -/
theorem leavesOf_by_address_nested :
    ∃ others, SplicedAt [1, 1] nestedItems others ∧ leavesOf others = leavesOf nestedItems ∧
      (leavesOf others).map Leaf.description = ["a", "b", "c", "d", "e", "f"] := by
  have hspliced := SplicedAt.inside [plainTest "a"]
    [.group ⟨"empty", none, none⟩ [], plainTest "f"] ⟨"outer", none, none⟩
    (.here [plainTest "b"] [plainTest "e"] ⟨"inner", none, none⟩ [plainTest "c", plainTest "d"])
  exact ⟨_, hspliced, (leavesOf_by_address nestedItems).2.2.2.2.1 _ _ hspliced, rfl⟩

end Item
end Casebook
