import Mathlib.Data.List.Forall2

/-!
# Lists item by item

Two lists are related item by item if they are equally long and the items at each index are
related.  What is collected from the items of one list, one after another with their indices, is
what each of them yields.

Main definitions:

- {lit}`SameName`: two entries have the same name and related values.

Main results:

- Theorems {lit}`ItemByItem.exists_left` and {lit}`ItemByItem.exists_right`: every item of one list
  has its counterpart in the other.
- Theorem {lit}`ItemByItem.exists_forall₂`: items that each have a counterpart make up a list that
  has one.
- Theorem {lit}`ItemByItem.trans`: relations item by item can be followed one after the other.
- Theorem {lit}`ItemByItem.exists_image`: what related items come to is related.
- Theorem {lit}`ItemByItem.getElem?`: related items are found at the same indices.
- Theorem {lit}`ItemByItem.mem_collected_iff`: what is collected from items and their indices.
- Theorem {lit}`ItemByItem.lookup`: entries that are related under the same names are found under
  the same names.
-/

namespace Casebook
namespace ItemByItem

open List

variable {α β γ : Type} {R : α → β → Prop} {S : β → γ → Prop}

/-- An item of the second list has its counterpart in the first. -/
theorem exists_left {as : List α} {bs : List β} (h : Forall₂ R as bs) :
    ∀ b ∈ bs, ∃ a ∈ as, R a b := by
  induction h with
  | nil => simp
  | cons hhere _ ih =>
      intro b hmem
      rcases mem_cons.mp hmem with rfl | hlater
      · exact ⟨_, mem_cons_self, hhere⟩
      · rcases ih b hlater with ⟨a, ha, hab⟩
        exact ⟨a, mem_cons_of_mem _ ha, hab⟩

/-- An item of the first list has its counterpart in the second. -/
theorem exists_right {as : List α} {bs : List β} (h : Forall₂ R as bs) :
    ∀ a ∈ as, ∃ b ∈ bs, R a b :=
  exists_left h.flip

/-- Items that each have a counterpart make up a list that has one. -/
theorem exists_forall₂ {as : List α} (h : ∀ a ∈ as, ∃ b, R a b) : ∃ bs, Forall₂ R as bs := by
  induction as with
  | nil => exact ⟨[], .nil⟩
  | cons a as ih =>
      rcases h a mem_cons_self with ⟨b, hab⟩
      rcases ih fun later hmem => h later (mem_cons_of_mem _ hmem) with ⟨bs, hbs⟩
      exact ⟨b :: bs, .cons hab hbs⟩

/-- Two relations item by item can be followed one after the other. -/
theorem trans {as : List α} {bs : List β} {cs : List γ} (hab : Forall₂ R as bs)
    (hbc : Forall₂ S bs cs) : Forall₂ (fun a c => ∃ b, R a b ∧ S b c) as cs := by
  induction hab generalizing cs with
  | nil =>
      cases hbc
      exact .nil
  | cons hhere _ ih =>
      cases hbc with
      | cons hthere hrest => exact .cons ⟨_, hhere, hthere⟩ (ih hrest)

/-- What is found at an index of lists that are related item by item. -/
theorem getElem? {as : List α} {bs : List β} (h : Forall₂ R as bs) (i : Nat) :
    Option.Rel R as[i]? bs[i]? := by
  induction h generalizing i with
  | nil => exact .none
  | cons hhere _ ih =>
      cases i with
      | zero => exact .some hhere
      | succ i => exact ih i

/-- If everything that an item comes to has its counterpart among what the related item comes to,
then so has every list that the items come to one by one. -/
theorem exists_image {δ : Type} {T : β → δ → Prop} {Q : γ → δ → Prop} {R : α → γ → Prop}
    {as : List α} {bs : List β} {cs : List γ}
    (h : Forall₂ (fun a b => ∀ c, R a c → ∃ d, T b d ∧ Q c d) as bs) (hcs : Forall₂ R as cs) :
    ∃ ds, Forall₂ T bs ds ∧ Forall₂ Q cs ds := by
  induction h generalizing cs with
  | nil =>
      cases hcs
      exact ⟨[], .nil, .nil⟩
  | cons hhere _ ih =>
      cases hcs with
      | cons hitem hrest =>
          rcases hhere _ hitem with ⟨d, hd, hrelated⟩
          rcases ih hrest with ⟨ds, hds, hothers⟩
          exact ⟨d :: ds, .cons hd hds, .cons hrelated hothers⟩

/-- What is collected from items and their indices, one item after another, is what the items
yield. -/
theorem mem_collected_iff (yield : Nat → α → List β) (collect : Nat → List α → List β)
    (hnil : ∀ first, collect first [] = [])
    (hcons : ∀ first a as, collect first (a :: as) = yield first a ++ collect (first + 1) as)
    {first : Nat} {as : List α} {b : β} :
    b ∈ collect first as ↔ ∃ (i : Nat) (a : α), as[i]? = some a ∧ b ∈ yield (first + i) a := by
  induction as generalizing first with
  | nil => simp [hnil]
  | cons a as ih =>
      rw [hcons, mem_append, ih]
      constructor
      · intro h
        rcases h with hhere | ⟨i, later, hlater, hyield⟩
        · exact ⟨0, a, rfl, hhere⟩
        · refine ⟨i + 1, later, hlater, ?_⟩
          rw [Nat.add_comm i 1, ← Nat.add_assoc]
          exact hyield
      · intro h
        obtain ⟨i, found, hfound, hyield⟩ := h
        cases i with
        | zero =>
            cases hfound
            exact Or.inl hyield
        | succ i =>
            refine Or.inr ⟨i, found, hfound, ?_⟩
            rw [Nat.add_assoc, Nat.add_comm 1 i]
            exact hyield

end ItemByItem

/-! ## Entries under the same names -/

section SameName

open List

variable {α β : Type} {R : α → β → Prop}

/-- Two entries have the same name and related values. -/
def SameName (R : α → β → Prop) (a : String × α) (b : String × β) : Prop :=
  a.1 = b.1 ∧ R a.2 b.2

namespace ItemByItem

/-- Entries are related under the same names exactly if the names are the same ones, in the same
order, and the values are related. -/
theorem sameName_iff {as : List (String × α)} {bs : List (String × β)} :
    Forall₂ (SameName R) as bs ↔
      as.map Prod.fst = bs.map Prod.fst ∧ Forall₂ R (as.map Prod.snd) (bs.map Prod.snd) := by
  induction as generalizing bs with
  | nil => cases bs <;> simp
  | cons a as ih =>
      cases bs with
      | nil => simp
      | cons b bs =>
          simp only [forall₂_cons, map_cons, cons.injEq, ih, SameName]
          exact and_and_and_comm

/-- Where nothing is found, nothing related is. -/
theorem eq_none_of_rel {b? : Option β} (h : Option.Rel R none b?) : b? = none := by
  cases h
  rfl

/-- Where something is found, something related is. -/
theorem exists_of_rel_some {a : α} {b? : Option β} (h : Option.Rel R (some a) b?) :
    ∃ b, b? = some b ∧ R a b := by
  cases h with
  | some hvalue => exact ⟨_, rfl, hvalue⟩

/-- What is found under a name among entries that are related under the same names. -/
theorem lookup {as : List (String × α)} {bs : List (String × β)} (h : Forall₂ (SameName R) as bs)
    (name : String) : Option.Rel R (as.lookup name) (bs.lookup name) := by
  induction h with
  | nil => exact .none
  | @cons a b as bs hhere _ ih =>
      rcases a with ⟨key, x⟩
      rcases b with ⟨other, y⟩
      rcases hhere with ⟨hname, hvalue⟩
      simp only at hname hvalue
      subst hname
      rw [lookup_cons, lookup_cons]
      split
      · exact .some hvalue
      · exact ih

end ItemByItem
end SameName
end Casebook
