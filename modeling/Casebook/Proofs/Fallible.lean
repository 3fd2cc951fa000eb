import Mathlib.Data.List.Forall2

/-!
# Computations that can fail

A computation that can fail is described by what it returns when it succeeds, or by the list of all
faults that its input has: it ends with the first of them, and succeeds if there is none.

Main definitions:

- {lit}`StopsAtFirst`: a computation ends with the first of some faults.

Main results:

- Theorems {lit}`bind_eq_ok_iff` and {lit}`map_eq_ok_iff`: a sequence of computations succeeds
  exactly if each of them does.
- Theorem {lit}`cons_eq_ok_iff`: the same for the items of a list, one after another.
- Theorem {lit}`mapM_eq_ok_iff`: a computation succeeds for all items exactly if it does for each of
  them.
- Theorem {lit}`StopsAtFirst.ok_iff`: it succeeds exactly if there is no fault.
- Theorem {lit}`StopsAtFirst.error_iff`: it fails with a fault exactly if that is the first one.
- Theorem {lit}`StopsAtFirst.followedBy`: the faults of one computation come before those of the
  computation that follows it.
- Theorem {lit}`StopsAtFirst.mapM`: the faults of items are those of one item after another.
-/

namespace Casebook

variable {ε α β : Type}

/-! ## Success -/

/-- Two computations in sequence succeed exactly if the first one does and then the second one. -/
theorem bind_eq_ok_iff {result : Except ε α} {next : α → Except ε β} {b : β} :
    (result >>= next) = .ok b ↔ ∃ a, result = .ok a ∧ next a = .ok b := by
  cases result with
  | ok a =>
      constructor
      · intro h
        exact ⟨a, rfl, h⟩
      · intro h
        rcases h with ⟨_, heq, h⟩
        cases heq
        exact h
  | error fault =>
      constructor
      · intro h
        cases h
      · intro h
        rcases h with ⟨_, heq, -⟩
        cases heq

/-- What is done with the value of a computation does not make it fail. -/
theorem map_eq_ok_iff {result : Except ε α} {f : α → β} {b : β} :
    result.map f = .ok b ↔ ∃ a, result = .ok a ∧ f a = b := by
  cases result with
  | ok a => simp [Except.map]
  | error fault => simp [Except.map]

/-- A first item and the others after it are computed exactly if both computations succeed. -/
theorem cons_eq_ok_iff {here : Except ε β} {rest : Except ε (List β)} {bs : List β} :
    (do let b ← here; let others ← rest; return b :: others) = .ok bs ↔
      ∃ b others, here = .ok b ∧ rest = .ok others ∧ bs = b :: others := by
  simp only [bind_eq_ok_iff]
  constructor
  · intro h
    rcases h with ⟨b, hhere, others, hothers, hcons⟩
    cases hcons
    exact ⟨b, others, hhere, hothers, rfl⟩
  · intro h
    rcases h with ⟨b, others, hhere, hothers, rfl⟩
    exact ⟨b, hhere, others, hothers, rfl⟩

/-- A computation succeeds for all items exactly if it does for each of them, and its values are
those of the items. -/
theorem mapM_eq_ok_iff {f : α → Except ε β} {as : List α} {bs : List β} :
    as.mapM f = .ok bs ↔ List.Forall₂ (fun a b => f a = .ok b) as bs := by
  induction as generalizing bs with
  | nil => cases bs <;> simp [pure, Except.pure]
  | cons a as ih =>
      rw [List.mapM_cons, cons_eq_ok_iff, List.forall₂_cons_left_iff]
      simp only [ih]

/-- A computation that succeeds has a value. -/
theorem exists_of_isOk {result : Except ε α} (h : result.isOk = true) :
    ∃ a, result = .ok a := by
  cases result with
  | ok a => exact ⟨a, rfl⟩
  | error fault => contradiction

/-! ## The first fault -/

/-- The result of a computation is the first of some faults if there are any, and a value
otherwise. -/
def StopsAtFirst (result : Except ε α) (faults : List ε) : Prop :=
  match result with
  | .ok _ => faults = []
  | .error fault => faults.head? = some fault

namespace StopsAtFirst

/-- A computation succeeds exactly if there is no fault. -/
theorem ok_iff {result : Except ε α} {faults : List ε} (h : StopsAtFirst result faults) :
    (∃ value, result = .ok value) ↔ faults = [] := by
  cases result with
  | ok value =>
      have hnone : faults = [] := h
      simp [hnone]
  | error fault =>
      have hfirst : faults.head? = some fault := h
      simp only [reduceCtorEq, exists_false, false_iff]
      rintro rfl
      contradiction

/-- A computation fails with a fault exactly if that is the first one. -/
theorem error_iff {result : Except ε α} {faults : List ε} (h : StopsAtFirst result faults)
    (fault : ε) : result = .error fault ↔ faults.head? = some fault := by
  cases result with
  | ok value =>
      have hnone : faults = [] := h
      simp [hnone]
  | error found =>
      have hfirst : faults.head? = some found := h
      simp [hfirst]

/-- What is done with the value does not change the faults. -/
theorem map {result : Except ε α} {faults : List ε} (h : StopsAtFirst result faults)
    (f : α → β) : StopsAtFirst (result.map f) faults := by
  cases result with
  | ok value => exact h
  | error fault => exact h

/-- The faults of a computation come before those of the computation that follows it. -/
theorem followedBy {result : Except ε α} {next : α → Except ε β} {faults later : List ε}
    (h : StopsAtFirst result faults)
    (hnext : ∀ value, result = .ok value → StopsAtFirst (next value) later) :
    StopsAtFirst (result >>= next) (faults ++ later) := by
  cases result with
  | ok value =>
      have hnone : faults = [] := h
      rw [hnone, List.nil_append]
      exact hnext value rfl
  | error fault =>
      have hfirst : faults.head? = some fault := h
      change (faults ++ later).head? = some fault
      rw [List.head?_append, hfirst, Option.some_or]

/-- The faults of items, one computed after another, are those of the first item, then those of the
second one, and so on. -/
theorem mapM {f : α → Except ε β} {faults : α → List ε} {as : List α}
    (h : ∀ a ∈ as, StopsAtFirst (f a) (faults a)) :
    StopsAtFirst (as.mapM f) (as.flatMap faults) := by
  induction as with
  | nil => rfl
  | cons a as ih =>
      rw [List.mapM_cons, List.flatMap_cons]
      have hothers := ih fun later hmem => h later (List.mem_cons_of_mem _ hmem)
      refine (h a List.mem_cons_self).followedBy fun b _ => ?_
      exact hothers.map (b :: ·)

end StopsAtFirst
end Casebook
