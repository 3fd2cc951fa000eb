import Mathlib.Data.List.Induction
import Mathlib.Data.List.Nodup

/-!
# First occurrences

A list without its repetitions keeps the first occurrence of every item.  It grows at its end, and
only by items that are new.

Main results:

- Theorem {lit}`eraseDups_append_singleton`: one more item is kept exactly if it is new.
- Theorem {lit}`eraseDups_append_replicate`: repeating an item does not matter.
- Theorem {lit}`nodup_eraseDups`: no item is left twice.
- Theorem {lit}`eraseDups_eraseDups_append`: repetitions may be dropped step by step.
- Theorem {lit}`exists_eraseDups_append_eq`: distinct items stay where they are, and new ones follow.
- Theorem {lit}`pairwise_idxOf_eraseDups`: the items that are left stand in the order of their first
  occurrences.
- Theorem {lit}`find?_eq_some_iff_of_nodup`: among items with distinct names, the one with a name is
  found.
- Theorem {lit}`find?_reverse_of_nodup`: it is found from either end.
-/

namespace Casebook

variable {α : Type}

/-! ## Without repetitions -/

section

variable [DecidableEq α]

/-- One more item is kept exactly if it is new. -/
theorem eraseDups_append_singleton (items : List α) (item : α) :
    (items ++ [item]).eraseDups =
      if item ∈ items then items.eraseDups else items.eraseDups ++ [item] := by
  rw [List.eraseDups_append]
  by_cases hmem : item ∈ items <;> simp [List.removeAll, List.eraseDups_cons, hmem]

/-- Several times the same item more are kept once, and only if the item is new. -/
theorem eraseDups_append_replicate (items : List α) (count : Nat) (item : α) :
    (items ++ List.replicate count item).eraseDups =
      if count = 0 ∨ item ∈ items then items.eraseDups else items.eraseDups ++ [item] := by
  induction count with
  | zero => simp
  | succ count ih =>
      rw [List.replicate_succ', ← List.append_assoc, eraseDups_append_singleton, ih]
      by_cases hmem : item ∈ items <;> by_cases hcount : count = 0 <;> simp [hmem, hcount]

/-- No item is left twice. -/
theorem nodup_eraseDups (items : List α) : items.eraseDups.Nodup := by
  induction items using List.reverseRecOn with
  | nil => simp
  | append_singleton items item ih =>
      rw [eraseDups_append_singleton]
      split <;> rename_i hmem
      · exact ih
      · have hnew : item ∉ items.eraseDups := by simpa using hmem
        simpa using ih.concat hnew

/-- Distinct items are all kept. -/
theorem eraseDups_of_nodup {items : List α} (h : items.Nodup) : items.eraseDups = items := by
  induction items using List.reverseRecOn with
  | nil => rfl
  | append_singleton items item ih =>
      rw [List.nodup_append] at h
      have hnew : item ∉ items := fun hmem => h.2.2 item hmem item (by simp) rfl
      rw [eraseDups_append_singleton, if_neg hnew, ih h.1]

/-- Dropping repetitions among the first items beforehand does not matter. -/
theorem eraseDups_eraseDups_append (items later : List α) :
    (items.eraseDups ++ later).eraseDups = (items ++ later).eraseDups := by
  induction later using List.reverseRecOn with
  | nil => simpa using eraseDups_of_nodup (nodup_eraseDups items)
  | append_singleton later item ih =>
      rw [← List.append_assoc, ← List.append_assoc, eraseDups_append_singleton, ih,
        eraseDups_append_singleton]
      simp only [List.mem_append, List.mem_eraseDups]

/-- Distinct items stay where they are whatever comes later, and only new items follow. -/
theorem exists_eraseDups_append_eq {items : List α} (h : items.Nodup) (later : List α) :
    ∃ new : List α, (∀ item ∈ new, item ∉ items) ∧ (items ++ later).eraseDups = items ++ new := by
  refine ⟨(later.removeAll items).eraseDups, fun item hmem => ?_, ?_⟩
  · rw [List.mem_eraseDups, List.removeAll, List.mem_filter] at hmem
    simpa using hmem.2
  · rw [List.eraseDups_append, eraseDups_of_nodup h]

/-- The items that are left stand in the order of their first occurrences. -/
theorem pairwise_idxOf_eraseDups (items : List α) :
    items.eraseDups.Pairwise fun item later => items.idxOf item < items.idxOf later := by
  induction items using List.reverseRecOn with
  | nil => simp
  | append_singleton items item ih =>
      have hstay : ∀ earlier ∈ items, (items ++ [item]).idxOf earlier = items.idxOf earlier :=
        fun earlier hmem => List.idxOf_append_of_mem hmem
      have hold : items.eraseDups.Pairwise fun earlier later =>
          (items ++ [item]).idxOf earlier < (items ++ [item]).idxOf later := by
        refine ih.imp_of_mem fun {earlier later} hearlier hlater hlt => ?_
        rw [hstay earlier (List.mem_eraseDups.mp hearlier),
          hstay later (List.mem_eraseDups.mp hlater)]
        exact hlt
      rw [eraseDups_append_singleton]
      split <;> rename_i hmem
      · exact hold
      · -- A new item first occurs at the end, behind all others.
        rw [List.pairwise_append]
        refine ⟨hold, List.pairwise_singleton _ _, ?_⟩
        intro earlier hearlier last hlast
        rw [List.mem_eraseDups] at hearlier
        rw [List.mem_singleton] at hlast
        subst hlast
        rw [hstay earlier hearlier, List.idxOf_append_of_notMem hmem]
        exact Nat.lt_of_lt_of_le (List.idxOf_lt_length_of_mem hearlier) (Nat.le_add_right _ _)

end

/-! ## Items with distinct names -/

variable {nameOf : α → String} {items : List α}

/-- Among items with distinct names, the one with a name is found. -/
theorem find?_eq_some_iff_of_nodup (h : (items.map nameOf).Nodup) (name : String) (item : α) :
    items.find? (fun item => nameOf item == name) = some item ↔
      item ∈ items ∧ nameOf item = name := by
  constructor
  · intro hfound
    exact ⟨List.mem_of_find?_eq_some hfound, by simpa using List.find?_some hfound⟩
  · rintro ⟨hmem, hname⟩
    cases hfound : items.find? (fun item => nameOf item == name) with
    | none =>
        rw [List.find?_eq_none] at hfound
        have hother := hfound item hmem
        simp [hname] at hother
    | some found =>
        have hsame : nameOf found = name := by simpa using List.find?_some hfound
        have heq : found = item :=
          List.inj_on_of_nodup_map h (List.mem_of_find?_eq_some hfound) hmem
            (hsame.trans hname.symm)
        rw [heq]

/-- An item with distinct names is found from either end. -/
theorem find?_reverse_of_nodup (h : (items.map nameOf).Nodup) (name : String) :
    items.reverse.find? (fun item => nameOf item == name) =
      items.find? (fun item => nameOf item == name) := by
  have hreverse : (items.reverse.map nameOf).Nodup := by
    rw [List.map_reverse]
    exact List.nodup_reverse.mpr h
  apply Option.ext
  intro item
  rw [find?_eq_some_iff_of_nodup hreverse, find?_eq_some_iff_of_nodup h, List.mem_reverse]

end Casebook
