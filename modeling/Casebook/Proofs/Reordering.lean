import Casebook.Proofs.ItemByItem
import Casebook.Proofs.Table
import Mathlib.Data.List.Nodup
import Mathlib.Data.List.Perm.Basic

/-!
# Entries in whatever order

The order in which entries are listed does not matter for what is found under a name, as long as no
name is repeated.

Main definitions:

- {lit}`UpToOrder`: entries have the same names and related values, but for their order.
- {lit}`Table.Related`: two tables hold related values under the same names.

Main results:

- Theorem {lit}`UpToOrder.lookup`: entries that are related but for their order are found under the
  same names.
- Theorem {lit}`UpToOrder.exists_image`: what some entries come to, one by one, has its counterpart
  among what the others come to.
- Theorem {lit}`Table.entries_perm`: tables that hold the same have the same entries but for their
  order.
-/

namespace Casebook

open List

variable {α β γ δ : Type}

/-- Entries have the same names and related values, but for their order. -/
def UpToOrder (R : α → β → Prop) (as : List (String × α)) (bs : List (String × β)) : Prop :=
  ∃ middle, Forall₂ (SameName R) as middle ∧ middle.Perm bs

/-- What is found under a name among entries with distinct names does not depend on their order. -/
theorem lookup_eq_of_perm {as bs : List (String × α)} (h : as.Perm bs)
    (hdistinct : (as.map Prod.fst).Nodup) (name : String) : as.lookup name = bs.lookup name := by
  apply Option.ext
  intro value
  have hother : (bs.map Prod.fst).Nodup := (h.map Prod.fst).nodup_iff.mp hdistinct
  rw [Table.lookup_eq_some_iff hdistinct, Table.lookup_eq_some_iff hother, h.mem_iff]

/-- Entries with distinct names are the same but for their order exactly if there are equally many and
each of the first is found among the others. -/
theorem perm_iff_lookup {as bs : List (String × α)} (has : (as.map Prod.fst).Nodup)
    (hbs : (bs.map Prod.fst).Nodup) :
    as.Perm bs ↔ as.length = bs.length ∧ ∀ a ∈ as, bs.lookup a.1 = some a.2 := by
  simp only [Table.lookup_eq_some_iff hbs]
  constructor
  · intro h
    exact ⟨h.length_eq, fun a hmem => h.mem_iff.mp hmem⟩
  · rintro ⟨hlength, hsubset⟩
    exact (subperm_of_subset (Nodup.of_map _ has) hsubset).perm_of_length_le
      (Nat.le_of_eq hlength.symm)

namespace UpToOrder

variable {R : α → β → Prop} {as : List (String × α)} {bs : List (String × β)}

/-- Entries that are related but for their order can be compared the other way round. -/
theorem symm (h : UpToOrder R as bs) : UpToOrder (fun b a => R a b) bs as := by
  rcases h with ⟨middle, hmiddle, horder⟩
  have hflip : Forall₂ (SameName fun b a => R a b) middle as :=
    hmiddle.flip.imp fun _ _ hsame => ⟨hsame.1.symm, hsame.2⟩
  exact perm_comp_forall₂ horder.symm hflip

/-- Entries that are related but for their order have the same names but for their order. -/
theorem perm_names (h : UpToOrder R as bs) : (as.map Prod.fst).Perm (bs.map Prod.fst) := by
  rcases h with ⟨middle, hmiddle, horder⟩
  rw [(ItemByItem.sameName_iff.mp hmiddle).1]
  exact horder.map Prod.fst

/-- Entries that are related but for their order repeat no name if the others do not. -/
theorem nodup_names (h : UpToOrder R as bs) (hdistinct : (as.map Prod.fst).Nodup) :
    (bs.map Prod.fst).Nodup :=
  h.perm_names.nodup_iff.mp hdistinct

/-- Entries that are related but for their order are found under the same names. -/
theorem lookup (h : UpToOrder R as bs) (hdistinct : (as.map Prod.fst).Nodup) (name : String) :
    Option.Rel R (as.lookup name) (bs.lookup name) := by
  rcases h with ⟨middle, hmiddle, horder⟩
  have hnames : (middle.map Prod.fst).Nodup :=
    (ItemByItem.sameName_iff.mp hmiddle).1 ▸ hdistinct
  rw [← lookup_eq_of_perm horder hnames]
  exact ItemByItem.lookup hmiddle name

/-- Every entry has its counterpart under the same name. -/
theorem exists_right (h : UpToOrder R as bs) : ∀ a ∈ as, ∃ b ∈ bs, SameName R a b := by
  rcases h with ⟨middle, hmiddle, horder⟩
  intro a hmem
  rcases ItemByItem.exists_right hmiddle a hmem with ⟨b, hb, hsame⟩
  exact ⟨b, horder.mem_iff.mp hb, hsame⟩

/-- A relation between entries but for their order is weakened with that between the values. -/
theorem imp {S : α → β → Prop} (h : UpToOrder R as bs) (hvalues : ∀ a b, R a b → S a b) :
    UpToOrder S as bs := by
  rcases h with ⟨middle, hmiddle, horder⟩
  exact ⟨middle, hmiddle.imp fun a b hentry => ⟨hentry.1, hvalues a.2 b.2 hentry.2⟩, horder⟩

/-- What holds of all values of the first entries can be added to the relation. -/
theorem and_left {P : α → Prop} (h : UpToOrder R as bs) (hvalues : ∀ a ∈ as, P a.2) :
    UpToOrder (fun a b => P a ∧ R a b) as bs := by
  rcases h with ⟨middle, hmiddle, horder⟩
  have hboth := (forall₂_and_left _ _).mpr ⟨hvalues, hmiddle⟩
  exact ⟨middle, hboth.imp fun _ _ hentry => ⟨hentry.2.1, hentry.1, hentry.2.2⟩, horder⟩

/-- If everything that a value can come to has its counterpart among what a related value can come
to, then so have the entries that some entries come to, one by one. -/
theorem exists_image {S : α → γ → Prop} {T : β → δ → Prop} {Q : γ → δ → Prop}
    (h : UpToOrder (fun a b => ∀ c, S a c → ∃ d, T b d ∧ Q c d) as bs)
    {cs : List (String × γ)} (hcs : Forall₂ (SameName S) as cs) :
    ∃ ds, Forall₂ (SameName T) bs ds ∧ UpToOrder Q cs ds := by
  rcases h with ⟨middle, hmiddle, horder⟩
  have hentries : Forall₂ (fun a b => ∀ c, SameName S a c → ∃ d, SameName T b d ∧ SameName Q c d)
      as middle := by
    refine hmiddle.imp ?_
    rintro a b ⟨hname, hvalue⟩ c ⟨hsame, hc⟩
    rcases hvalue c.2 hc with ⟨d, hd, hrelated⟩
    exact ⟨(b.1, d), ⟨rfl, hd⟩, hsame.symm.trans hname, hrelated⟩
  rcases ItemByItem.exists_image hentries hcs with ⟨images, himages, hrelated⟩
  -- The images stand in the order of the entries between; they are put into that of the others.
  rcases perm_comp_forall₂ horder.symm himages with ⟨ds, hds, hmoved⟩
  exact ⟨ds, hds, images, hrelated, hmoved.symm⟩

end UpToOrder

/-! ## Tables -/

/-- A value that is put in under the same name keeps entries related under the same names. -/
theorem ItemByItem.putEntry {R : α → β → Prop} {as : List (String × α)}
    {bs : List (String × β)} (h : Forall₂ (SameName R) as bs) (name : String) {a : α} {b : β}
    (hvalue : R a b) :
    Forall₂ (SameName R) (Table.putEntry name a as) (Table.putEntry name b bs) := by
  induction h with
  | nil => exact .cons ⟨rfl, hvalue⟩ .nil
  | @cons first second rest others hhere hrest ih =>
      rcases first with ⟨key, held⟩
      rcases second with ⟨other, twin⟩
      rcases hhere with ⟨hname, hheld⟩
      simp only at hname hheld
      subst hname
      rw [Table.putEntry, Table.putEntry]
      split
      · exact .cons ⟨rfl, hvalue⟩ hrest
      · exact .cons ⟨rfl, hheld⟩ ih

namespace Table

/-- Two tables hold related values under the same names. -/
def Related (R : α → β → Prop) (s : Table α) (t : Table β) : Prop :=
  ∀ name, Option.Rel R (s.get? name) (t.get? name)

/-- Tables that hold the same have the same entries but for their order. -/
theorem entries_perm {s t : Table α} (h : ∀ name, s.get? name = t.get? name) :
    s.entries.Perm t.entries := by
  rw [perm_ext_iff_of_nodup (Nodup.of_map _ s.distinct) (Nodup.of_map _ t.distinct)]
  rintro ⟨name, value⟩
  rw [← get?_eq_some_iff, ← get?_eq_some_iff, h]

/-- Tables that hold related values under the same names have the same names but for their
order. -/
theorem Related.perm_keys {R : α → β → Prop} {s : Table α} {t : Table β} (h : s.Related R t) :
    s.keys.Perm t.keys := by
  rw [perm_ext_iff_of_nodup s.nodup_keys t.nodup_keys]
  intro name
  have hname := h name
  rw [mem_keys_iff, mem_keys_iff]
  generalize s.get? name = value at hname
  generalize t.get? name = other at hname
  cases hname <;> simp

end Table
end Casebook
