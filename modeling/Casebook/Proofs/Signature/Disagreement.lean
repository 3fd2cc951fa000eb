import Casebook.Proofs.Signature.Agreement
import Mathlib.Data.Nat.Find

/-!
# Functions whose calls disagree

A survey compares every call with what is held of its function, and what is held has been widened by
the calls before.  Which functions have a conflict can nevertheless be told by comparing the tests
of a function two by two, and the functions stand in the order in which the first test of each
disagrees with an earlier one.

Main definitions:

- {lit}`Leaf.Disagrees`: two tests disagree on the call of their function.
- {lit}`FirstDissent`: where a test of a function first disagrees with an earlier one.
- {lit}`NamesDivided`: some functions are those whose tests disagree, in that order.

Main results:

- Theorem {lit}`Profile.held_eq_unknown_iff`: a slot is widened exactly if two calls disagree over
  it.
- Theorem {lit}`mem_conflictedFunctions_iff`: a function has a conflict exactly if two of its tests
  disagree.
- Theorem {lit}`divided_iff_exists_firstDissent`: if two tests disagree, there is a first one that
  disagrees with an earlier one.
- Theorem {lit}`namesDivided_infer`: the functions with conflicts are named in this order.
-/

namespace Casebook

/-! ## Two calls -/

/-- Two tests disagree on the call of their function: one of them lacks an input of the other, an
input that both have is of two kinds, or both expect results, of two kinds. -/
inductive Leaf.Disagrees (leaf other : Leaf) : Prop where
  | names (h : ¬ ∀ name, name ∈ leaf.input.keys ↔ name ∈ other.input.keys)
  | input {name : String} {value twin : Value} (hvalue : leaf.input.get? name = some value)
      (htwin : other.input.get? name = some twin) (h : value.kind ≠ twin.kind)
  | result (hleaf : leaf.expected.isError = false) (hother : other.expected.isError = false)
      (h : leaf.expected.kind ≠ other.expected.kind)

/-- Two calls disagree over a slot: they show different things of a parameter, of which showing
nothing is one, or two results that differ. -/
def CallShape.DisagreesOver (shape other : CallShape) : Slot → Prop
  | .parameter name => shape.inputs.get? name ≠ other.inputs.get? name
  | .result => ∃ kind twin, shape.returns = some kind ∧ other.returns = some twin ∧ kind ≠ twin

/-- Two tests disagree exactly if their calls disagree over some slot. -/
theorem Leaf.disagrees_iff (leaf other : Leaf) :
    leaf.Disagrees other ↔ ∃ slot, leaf.shape.DisagreesOver other.shape slot := by
  constructor
  · intro h
    cases h with
    | names h =>
        rw [not_forall] at h
        rcases h with ⟨name, hname⟩
        refine ⟨.parameter name, fun hsame => hname ?_⟩
        simp only [shape, Table.get?_mapValues] at hsame
        have hsome := congrArg Option.isSome hsame
        rw [← Table.contains_iff_mem_keys, ← Table.contains_iff_mem_keys, Table.contains,
          Table.contains]
        simpa using hsome
    | @input name value twin hvalue htwin h =>
        refine ⟨.parameter name, fun hsame => h ?_⟩
        simpa [shape, hvalue, htwin] using hsame
    | result hleaf hother h =>
        exact ⟨.result, leaf.expected.kind, other.expected.kind, by simp [shape, hleaf],
          by simp [shape, hother], h⟩
  · rintro ⟨slot, hslot⟩
    cases slot with
    | parameter name =>
        simp only [CallShape.DisagreesOver, shape, Table.get?_mapValues] at hslot
        by_cases hkeys : ∀ name, name ∈ leaf.input.keys ↔ name ∈ other.input.keys
        · have hname := hkeys name
          rw [Table.mem_keys_iff, Table.mem_keys_iff] at hname
          cases hvalue : leaf.input.get? name with
          | none =>
              cases htwin : other.input.get? name with
              | none => simp [hvalue, htwin] at hslot
              | some twin => simp [hvalue, htwin] at hname
          | some value =>
              rcases hname.mp ⟨value, hvalue⟩ with ⟨twin, htwin⟩
              refine .input hvalue htwin ?_
              simpa [hvalue, htwin] using hslot
        · exact .names hkeys
    | result =>
        rcases hslot with ⟨kind, twin, hkind, htwin, hne⟩
        simp only [shape] at hkind htwin
        split at hkind <;> rename_i hleaf
        · contradiction
        · split at htwin <;> rename_i hother
          · contradiction
          · rw [Option.some.injEq] at hkind htwin
            subst hkind htwin
            exact .result (by simpa using hleaf) (by simpa using hother) hne

/-- Disagreement is mutual. -/
theorem Leaf.Disagrees.symm {leaf other : Leaf} (h : leaf.Disagrees other) :
    other.Disagrees leaf := by
  cases h with
  | names h => exact .names fun hsame => h fun name => (hsame name).symm
  | input hvalue htwin h => exact .input htwin hvalue (Ne.symm h)
  | result hleaf hother h => exact .result hother hleaf (Ne.symm h)

/-- No test disagrees with itself. -/
theorem Leaf.not_disagrees_self (leaf : Leaf) : ¬ leaf.Disagrees leaf := by
  intro h
  cases h with
  | names h => exact h fun _ => Iff.rfl
  | input hvalue htwin h =>
      rw [hvalue, Option.some.injEq] at htwin
      exact h (congrArg Value.kind htwin)
  | result _ _ h => exact h rfl

/-! ## All calls of a function -/

namespace Profile

variable {function : String} {shapes : List CallShape} {profile : Profile}

/-- If all calls are definite, a parameter is unknown exactly if two of them disagree over it. -/
theorem parameter_ofCalls_eq_unknown_iff (h : ofCalls function shapes = some profile)
    (hdefinite : ∀ shape ∈ shapes, shape.Definite) (name : String) :
    profile.parameters.get? name = some .unknown ↔
      ∃ shape ∈ shapes, ∃ other ∈ shapes, shape.DisagreesOver other (.parameter name) := by
  constructor
  · intro hunknown
    by_contra hagree
    push Not at hagree
    cases shapes with
    | nil => contradiction
    | cons first rest =>
        -- If the calls agreed, what the first one shows would be held.
        have hfirst := (hdefinite first List.mem_cons_self).parameter name
        have hall : ∀ shape ∈ first :: rest, shape.inputs.get? name = first.inputs.get? name := by
          intro shape hmem
          have hsame := hagree shape hmem first List.mem_cons_self
          simpa [CallShape.DisagreesOver] using hsame
        have hheld := (parameter_ofCalls_iff h name hfirst).mpr hall
        exact hfirst (hheld.symm.trans hunknown)
  · rintro ⟨shape, hshape, other, hother, hne⟩
    by_contra hknown
    have hall := (parameter_ofCalls_iff h name hknown).mp rfl
    exact hne ((hall shape hshape).trans (hall other hother).symm)

/-- If all calls are definite, the result is unknown exactly if two of them disagree over it. -/
theorem returns_ofCalls_eq_unknown_iff (h : ofCalls function shapes = some profile)
    (hdefinite : ∀ shape ∈ shapes, shape.Definite) :
    profile.returns = some .unknown ↔
      ∃ shape ∈ shapes, ∃ other ∈ shapes, shape.DisagreesOver other .result := by
  constructor
  · intro hunknown
    have hsome : ¬ profile.returns = none := by simp [hunknown]
    rw [returns_ofCalls_eq_none_iff h] at hsome
    push Not at hsome
    rcases hsome with ⟨shape, hshape, hshown⟩
    rcases Option.ne_none_iff_exists'.mp hshown with ⟨kind, hkind⟩
    have hknown : kind ≠ .unknown := by
      rintro rfl
      exact (hdefinite shape hshape).result hkind
    -- The result of this call is not held, so that another call shows another one.
    have hother : ¬ (profile.returns = none ∨ profile.returns = some kind) := by
      simp [hunknown, Ne.symm hknown]
    rw [returns_ofCalls_none_or_iff h hknown] at hother
    push Not at hother
    rcases hother with ⟨other, hmem, hreturns, hne⟩
    rcases Option.ne_none_iff_exists'.mp hreturns with ⟨twin, htwin⟩
    refine ⟨shape, hshape, other, hmem, kind, twin, hkind, htwin, ?_⟩
    rintro rfl
    exact hne htwin
  · rintro ⟨shape, hshape, other, hother, kind, twin, hkind, htwin, hne⟩
    by_contra hknown
    cases hheld : profile.returns with
    | none =>
        have hnone := (returns_ofCalls_eq_none_iff h).mp hheld shape hshape
        rw [hkind] at hnone
        contradiction
    | some held =>
        have hdefinite : held ≠ .unknown := by
          rintro rfl
          exact hknown hheld
        have hall := (returns_ofCalls_none_or_iff h hdefinite).mp (Or.inr hheld)
        have hshape := hall shape hshape
        have hother := hall other hother
        simp only [hkind, htwin, reduceCtorEq, Option.some.injEq, false_or] at hshape hother
        exact hne (hshape.trans hother.symm)

/-- If all calls are definite, a slot is unknown exactly if two of them disagree over it. -/
theorem held_eq_unknown_iff (h : ofCalls function shapes = some profile)
    (hdefinite : ∀ shape ∈ shapes, shape.Definite) (slot : Slot) :
    profile.held slot = some .unknown ↔
      ∃ shape ∈ shapes, ∃ other ∈ shapes, shape.DisagreesOver other slot := by
  cases slot with
  | parameter name => exact parameter_ofCalls_eq_unknown_iff h hdefinite name
  | result => exact returns_ofCalls_eq_unknown_iff h hdefinite

end Profile

/-! ## All tests -/

/-- Two tests of a function disagree. -/
def Divided (leaves : List Leaf) (function : String) : Prop :=
  ∃ leaf ∈ leaves, ∃ other ∈ leaves, leaf.property = function ∧ other.property = function ∧
    leaf.Disagrees other

/-- A function is among those of some conflicts exactly if a conflict over one of its slots is
counted. -/
theorem Conflict.mem_functions_iff (conflicts : List Conflict) (function : String) :
    function ∈ functions conflicts ↔
      ∃ slot, 0 < conflicts.countP (concerns function slot) := by
  simp only [functions, List.mem_eraseDups, List.mem_map, List.countP_pos_iff,
    concerns_eq_true_iff]
  constructor
  · rintro ⟨conflict, hmem, hfunction⟩
    exact ⟨conflict.slot, conflict, hmem, hfunction, rfl⟩
  · rintro ⟨slot, conflict, hmem, hfunction, -⟩
    exact ⟨conflict, hmem, hfunction⟩

section

variable {leaves : List Leaf}

/-- If all calls are definite, a slot of a function is unknown exactly if two calls of the function
disagree over it. -/
theorem Survey.held_ofLeaves_eq_unknown_iff (h : ∀ leaf ∈ leaves, leaf.shape.Definite)
    (function : String) (slot : Slot) :
    (ofLeaves leaves).held function slot = some .unknown ↔
      ∃ shape ∈ callsOf leaves function, ∃ other ∈ callsOf leaves function,
        shape.DisagreesOver other slot := by
  have hdefinite : ∀ shape ∈ callsOf leaves function, shape.Definite := by
    intro shape hmem
    rcases List.mem_map.mp hmem with ⟨leaf, hleaf, rfl⟩
    exact h leaf (List.mem_of_mem_filter hleaf)
  rw [held, get?_ofLeaves]
  cases hprofile : Profile.ofCalls function (callsOf leaves function) with
  | none =>
      rw [Profile.ofCalls_eq_none_iff] at hprofile
      simp [hprofile]
  | some profile => exact Profile.held_eq_unknown_iff hprofile hdefinite slot

/-- If all calls are definite, a function has a conflict exactly if two of its tests disagree. -/
theorem mem_conflictedFunctions_iff (h : ∀ leaf ∈ leaves, leaf.shape.Definite)
    (function : String) :
    function ∈ (infer leaves).conflictedFunctions ↔ Divided leaves function := by
  have hcount : ∀ slot, 0 < (Survey.ofLeaves leaves).conflicts.countP
        (Conflict.concerns function slot) ↔
      (Survey.ofLeaves leaves).held function slot = some .unknown := by
    intro slot
    rw [(Survey.recorded_ofLeaves h).countP_eq]
    split <;> simp_all
  have hconflicts : (infer leaves).conflicts = (Survey.ofLeaves leaves).conflicts := rfl
  rw [Inferred.conflictedFunctions, Conflict.mem_functions_iff, hconflicts]
  simp only [hcount, Survey.held_ofLeaves_eq_unknown_iff h, callsOf, List.mem_map, List.mem_filter,
    beq_iff_eq]
  constructor
  · rintro ⟨slot, _, ⟨leaf, ⟨hleaf, hfunction⟩, rfl⟩, _, ⟨other, ⟨hother, hsame⟩, rfl⟩, hslot⟩
    have hdisagrees := (leaf.disagrees_iff other).mpr ⟨slot, hslot⟩
    exact ⟨leaf, hleaf, other, hother, hfunction, hsame, hdisagrees⟩
  · rintro ⟨leaf, hleaf, other, hother, hfunction, hsame, hdisagrees⟩
    rcases (leaf.disagrees_iff other).mp hdisagrees with ⟨slot, hslot⟩
    exact ⟨slot, _, ⟨leaf, ⟨hleaf, hfunction⟩, rfl⟩, _, ⟨other, ⟨hother, hsame⟩, rfl⟩, hslot⟩

end

/-! ## Where it shows -/

/-- The test at a position is one of a function and disagrees with an earlier test of it. -/
def DissentAt (leaves : List Leaf) (function : String) (position : Nat) : Prop :=
  ∃ leaf, leaves[position]? = some leaf ∧ leaf.property = function ∧
    ∃ earlier < position, ∃ other, leaves[earlier]? = some other ∧ other.property = function ∧
      leaf.Disagrees other

/-- The test at a position is the first one of a function that disagrees with an earlier test of
it. -/
structure FirstDissent (leaves : List Leaf) (function : String) (position : Nat) : Prop where
  dissent : DissentAt leaves function position
  first : ∀ earlier < position, ¬ DissentAt leaves function earlier

/-- A test of one function first disagrees with an earlier one before a test of the other does. -/
def DissentsBefore (leaves : List Leaf) (function later : String) : Prop :=
  ∃ i j, FirstDissent leaves function i ∧ FirstDissent leaves later j ∧ i < j

section

variable {leaves : List Leaf} {function : String} {position : Nat}

/-- Only where there is a test can one disagree. -/
theorem DissentAt.lt_length (h : DissentAt leaves function position) :
    position < leaves.length := by
  rcases h with ⟨leaf, hleaf, -⟩
  exact (List.getElem?_eq_some_iff.mp hleaf).1

/-- Later tests have no influence on whether a test disagrees with an earlier one. -/
theorem dissentAt_append (hposition : position < leaves.length) (later : List Leaf) :
    DissentAt (leaves ++ later) function position ↔ DissentAt leaves function position := by
  have hbefore : ∀ earlier < position, (leaves ++ later)[earlier]? = leaves[earlier]? :=
    fun earlier hearlier => List.getElem?_append_left (by omega)
  unfold DissentAt
  rw [List.getElem?_append_left hposition]
  constructor
  · rintro ⟨leaf, hleaf, hfunction, earlier, hearlier, other, hother, hdissent⟩
    rw [hbefore earlier hearlier] at hother
    exact ⟨leaf, hleaf, hfunction, earlier, hearlier, other, hother, hdissent⟩
  · rintro ⟨leaf, hleaf, hfunction, earlier, hearlier, other, hother, hdissent⟩
    rw [← hbefore earlier hearlier] at hother
    exact ⟨leaf, hleaf, hfunction, earlier, hearlier, other, hother, hdissent⟩

/-- The first test that disagrees with an earlier one stays the first whatever comes later. -/
theorem FirstDissent.append (h : FirstDissent leaves function position) (later : List Leaf) :
    FirstDissent (leaves ++ later) function position := by
  have hlength := h.dissent.lt_length
  constructor
  · exact (dissentAt_append hlength later).mpr h.dissent
  · intro earlier hearlier hdissent
    exact h.first earlier hearlier ((dissentAt_append (by omega) later).mp hdissent)

/-- The order in which functions come to disagree stays as it is whatever comes later. -/
theorem DissentsBefore.append {other : String} (h : DissentsBefore leaves function other)
    (later : List Leaf) : DissentsBefore (leaves ++ later) function other := by
  rcases h with ⟨i, j, hi, hj, hlt⟩
  exact ⟨i, j, hi.append later, hj.append later, hlt⟩

/-- Two tests of a function disagree if one disagrees with an earlier one. -/
theorem DissentAt.divided (h : DissentAt leaves function position) : Divided leaves function := by
  rcases h with ⟨leaf, hleaf, hfunction, earlier, -, other, hother, hsame, hdisagrees⟩
  exact ⟨leaf, List.mem_of_getElem? hleaf, other, List.mem_of_getElem? hother, hfunction, hsame,
    hdisagrees⟩

/-- Of two tests that disagree one comes later. -/
theorem Divided.exists_dissentAt (h : Divided leaves function) :
    ∃ position, DissentAt leaves function position := by
  rcases h with ⟨leaf, hleaf, other, hother, hfunction, hsame, hdisagrees⟩
  rcases List.mem_iff_getElem?.mp hleaf with ⟨i, hi⟩
  rcases List.mem_iff_getElem?.mp hother with ⟨j, hj⟩
  rcases Nat.lt_trichotomy i j with hlt | heq | hlt
  · exact ⟨j, other, hj, hsame, i, hlt, leaf, hi, hfunction, hdisagrees.symm⟩
  · rw [heq, hj, Option.some.injEq] at hi
    rw [hi] at hdisagrees
    exact (leaf.not_disagrees_self hdisagrees).elim
  · exact ⟨i, leaf, hi, hfunction, j, hlt, other, hj, hsame, hdisagrees⟩

/-- Two tests of a function disagree exactly if there is a first one that disagrees with an earlier
one. -/
theorem divided_iff_exists_firstDissent :
    Divided leaves function ↔ ∃ position, FirstDissent leaves function position := by
  classical
  constructor
  · intro h
    have hexists := h.exists_dissentAt
    exact ⟨Nat.find hexists, Nat.find_spec hexists, fun _ => Nat.find_min hexists⟩
  · rintro ⟨position, h⟩
    exact h.dissent.divided

end

/-! ## The order of the functions -/

/-- Some functions are those of which two tests disagree, each named once, in the order in which
the first test of each disagrees with an earlier one. -/
structure NamesDivided (leaves : List Leaf) (functions : List String) : Prop where
  mem : ∀ function, function ∈ functions ↔ Divided leaves function
  nodup : functions.Nodup
  first : ∀ function ∈ functions, ∃ position, FirstDissent leaves function position
  ordered : functions.Pairwise (DissentsBefore leaves)

/-- One more test adds its function to those with conflicts, or none. -/
theorem Survey.functions_observe (survey : Survey) (leaf : Leaf) :
    Conflict.functions (survey.observe leaf).conflicts = Conflict.functions survey.conflicts ∨
      leaf.property ∉ Conflict.functions survey.conflicts ∧
        Conflict.functions (survey.observe leaf).conflicts =
          Conflict.functions survey.conflicts ++ [leaf.property] := by
  cases hheld : survey.profiles.get? leaf.property with
  | none =>
      rw [observe_of_new hheld]
      exact Or.inl rfl
  | some held =>
      rw [observe_of_known hheld]
      simp only [Conflict.functions, List.map_append, Profile.functions_compare,
        eraseDups_append_replicate, List.mem_eraseDups]
      split <;> rename_i hnew
      · exact Or.inl rfl
      · exact Or.inr ⟨fun hmem => hnew (Or.inr hmem), rfl⟩

/-- If all calls are definite, the functions with conflicts are in the order in which the first
test of each disagrees with an earlier one. -/
theorem pairwise_conflictedFunctions {leaves : List Leaf}
    (h : ∀ leaf ∈ leaves, leaf.shape.Definite) :
    (infer leaves).conflictedFunctions.Pairwise (DissentsBefore leaves) := by
  induction leaves using List.reverseRecOn with
  | nil => exact .nil
  | append_singleton leaves leaf ih =>
      have hearlier : ∀ earlier ∈ leaves, earlier.shape.Definite :=
        fun earlier hmem => h earlier (List.mem_append_left _ hmem)
      have hold : (infer leaves).conflictedFunctions.Pairwise
          (DissentsBefore (leaves ++ [leaf])) :=
        (ih hearlier).imp fun hbefore => hbefore.append [leaf]
      have hall : (infer (leaves ++ [leaf])).conflictedFunctions =
          Conflict.functions ((Survey.ofLeaves leaves).observe leaf).conflicts := by
        rw [← Survey.ofLeaves_append_singleton]
        rfl
      rcases Survey.functions_observe (Survey.ofLeaves leaves) leaf with hsame | ⟨hnew, hadded⟩
      · rw [hall, hsame]
        exact hold
      · have hmem : leaf.property ∈ (infer (leaves ++ [leaf])).conflictedFunctions := by
          rw [hall, hadded]
          simp
        rw [mem_conflictedFunctions_iff h, divided_iff_exists_firstDissent] at hmem
        rcases hmem with ⟨j, hj⟩
        -- The function is new: no earlier test of it disagrees with one before.
        have hlast : leaves.length ≤ j := by
          by_contra hshort
          have hdissent := (dissentAt_append (by omega) [leaf]).mp hj.dissent
          exact hnew ((mem_conflictedFunctions_iff hearlier _).mpr hdissent.divided)
        rw [hall, hadded, List.pairwise_append]
        refine ⟨hold, List.pairwise_singleton _ _, ?_⟩
        intro function hfunction later hlater
        rw [List.mem_singleton] at hlater
        subst hlater
        have hdivided := (mem_conflictedFunctions_iff hearlier function).mp hfunction
        rcases divided_iff_exists_firstDissent.mp hdivided with ⟨i, hi⟩
        have hlength := hi.dissent.lt_length
        exact ⟨i, j, hi.append [leaf], hj, by omega⟩

/-- If all calls are definite, the functions with conflicts are those of which two tests disagree,
in the order in which the first test of each disagrees with an earlier one. -/
theorem namesDivided_infer {leaves : List Leaf} (h : ∀ leaf ∈ leaves, leaf.shape.Definite) :
    NamesDivided leaves (infer leaves).conflictedFunctions := by
  constructor
  case mem => exact mem_conflictedFunctions_iff h
  case nodup => exact nodup_eraseDups _
  case first =>
    intro function hmem
    exact divided_iff_exists_firstDissent.mp ((mem_conflictedFunctions_iff h function).mp hmem)
  case ordered => exact pairwise_conflictedFunctions h

end Casebook
