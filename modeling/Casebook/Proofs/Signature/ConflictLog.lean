import Casebook.Proofs.Signature.Disagreement
import Casebook.Proofs.Signature.Summary

/-!
# The log of conflicts

The survey records a conflict where it widens what it holds.  The log of all conflicts can be
written down without it: a test adds a conflict over a slot exactly if all earlier tests of its
function show the same of the slot and it is the first one to show something else.  This settles
which conflicts there are, in which order they stand and what each of them tells.

Main definitions:

- {lit}`inputDissent?`, {lit}`resultDissent?`: the conflict that a test adds over an input, or over
  the result.
- {lit}`dissents`: the conflicts that a test adds, given the earlier tests of its function.
- {lit}`conflictLog`: the conflicts that some tests add one after another.

Main results:

- Theorems {lit}`Profile.between?_parameter_eq` and {lit}`Profile.betweenResults?_eq`: a comparison
  finds a conflict over a slot exactly if the call breaks with all earlier ones.
- Theorem {lit}`Profile.conflicts_compare_eq_dissents`: the conflicts of a comparison in their order.
- Theorem {lit}`conflicts_infer_eq_log`: the conflicts that are inferred are the log, and no slot is
  met twice in it.
-/

namespace Casebook

/-! ## What a test adds -/

/-- The conflict that a test adds over an input that it has or lacks: all earlier tests, the first
one and some others, show the same of it, and the test does not. -/
def inputDissent? (first : Leaf) (others : List Leaf) (leaf : Leaf) (name : String) :
    Option Conflict :=
  if (∀ other ∈ others, other.inputKind? name = first.inputKind? name) ∧
      leaf.inputKind? name ≠ first.inputKind? name then
    some ⟨leaf.property, .parameter name, first.inputKind? name, leaf.inputKind? name⟩
  else
    none

/-- The kind of result that a test expects; none if the call is to fail. -/
def Leaf.resultKind? (leaf : Leaf) : Option Kind :=
  if leaf.expected.isError then none else some leaf.expected.kind

/-- A test expects no result of an unknown kind. -/
theorem Leaf.ne_unknown_of_resultKind? (leaf : Leaf) {kind : Kind}
    (h : leaf.resultKind? = some kind) : kind ≠ .unknown := by
  unfold resultKind? at h
  split at h <;> rename_i hresult
  · contradiction
  · cases h
    exact Value.kind_ne_unknown (by simpa using hresult)

/-- The conflict that a test adds over the result: all earlier tests that expect a result expect one
kind, and the test expects another. -/
def resultDissent? (earlier : List Leaf) (leaf : Leaf) : Option Conflict :=
  match earlier.filterMap Leaf.resultKind?, leaf.resultKind? with
  | previous :: others, some kind =>
      if (∀ other ∈ others, other = previous) ∧ kind ≠ previous then
        some ⟨leaf.property, .result, some previous, some kind⟩
      else
        none
  | _, _ => none

/-- The conflicts that a test adds, given the earlier tests of its function: first those over its
inputs in their order, then those over the inputs of the first test that it lacks, in their order,
then the one over the result. -/
def dissents (earlier : List Leaf) (leaf : Leaf) : List Conflict :=
  match earlier with
  | [] => []
  | first :: others =>
      leaf.input.keys.filterMap (inputDissent? first others leaf)
        ++ (first.input.keys.filter fun name => !leaf.input.contains name).filterMap
          (inputDissent? first others leaf)
        ++ (resultDissent? (first :: others) leaf).toList

/-- The conflicts that some tests add one after another. -/
def conflictLog (leaves : List Leaf) : List Conflict :=
  leaves.zipIdx.flatMap fun entry =>
    dissents (testsOf (leaves.take entry.2) entry.1.property) entry.1

/-- One more test adds its conflicts at the end. -/
theorem conflictLog_append_singleton (leaves : List Leaf) (leaf : Leaf) :
    conflictLog (leaves ++ [leaf]) =
      conflictLog leaves ++ dissents (testsOf leaves leaf.property) leaf := by
  have hearlier : (leaves.zipIdx.flatMap fun entry =>
      dissents (testsOf ((leaves ++ [leaf]).take entry.2) entry.1.property) entry.1) =
      conflictLog leaves := by
    apply List.flatMap_congr
    rintro ⟨earlier, position⟩ hmem
    have hposition : position ≤ leaves.length := by
      have hbound := (List.mem_zipIdx hmem).2.1
      omega
    simp only [List.take_append_of_le_length hposition]
  rw [conflictLog, List.zipIdx_append, List.flatMap_append, hearlier]
  simp

/-! ## What the earlier tests have come to -/

/-- A test with a definite call has no input of an unknown kind. -/
theorem CallShape.Definite.inputKind?_ne_unknown {leaf : Leaf} (h : leaf.shape.Definite)
    (name : String) : leaf.inputKind? name ≠ some .unknown := by
  rw [← Leaf.get?_inputs_shape]
  exact h.parameter name

namespace Profile

variable {first leaf : Leaf} {others : List Leaf} {profile : Profile}

/-- What all tests of a function show of an input is held of it; otherwise it is unknown. -/
theorem get?_parameters_eq
    (h : ofCalls leaf.property ((first :: others).map Leaf.shape) = some profile)
    (hdefinite : ∀ earlier ∈ first :: others, earlier.shape.Definite) (name : String) :
    profile.parameters.get? name =
      if ∀ other ∈ others, other.inputKind? name = first.inputKind? name then
        first.inputKind? name
      else some .unknown := by
  have hfirst := (hdefinite first List.mem_cons_self).inputKind?_ne_unknown name
  split <;> rename_i hsame
  · rw [parameter_ofCalls_iff h name hfirst, List.forall_mem_map]
    simp only [Leaf.get?_inputs_shape]
    exact List.forall_mem_cons.mpr ⟨rfl, hsame⟩
  · push Not at hsame
    rcases hsame with ⟨other, hmem, hne⟩
    have hshapes : ∀ shape ∈ (first :: others).map Leaf.shape, shape.Definite :=
      List.forall_mem_map.mpr hdefinite
    rw [parameter_ofCalls_eq_unknown_iff h hshapes]
    refine ⟨other.shape, List.mem_map_of_mem (List.mem_cons_of_mem _ hmem), first.shape,
      List.mem_map_of_mem List.mem_cons_self, ?_⟩
    simpa [CallShape.DisagreesOver, Leaf.get?_inputs_shape] using hne

/-- A test is in conflict with what is held of an input exactly if it breaks with all earlier
tests. -/
theorem between?_parameter_eq
    (h : ofCalls leaf.property ((first :: others).map Leaf.shape) = some profile)
    (hdefinite : ∀ earlier ∈ first :: others, earlier.shape.Definite) (name : String) :
    Conflict.between? leaf.property (.parameter name) (profile.parameters.get? name)
        (leaf.inputKind? name) =
      inputDissent? first others leaf name := by
  have hfirst := (hdefinite first List.mem_cons_self).inputKind?_ne_unknown name
  rw [get?_parameters_eq h hdefinite, Conflict.between?, inputDissent?]
  by_cases hsame : ∀ other ∈ others, other.inputKind? name = first.inputKind? name
  · rw [if_pos hsame]
    by_cases hleaf : leaf.inputKind? name = first.inputKind? name
    · rw [if_pos (Or.inl hleaf.symm), if_neg (fun hdissent => hdissent.2 hleaf)]
    · have hheld : ¬ (first.inputKind? name = leaf.inputKind? name ∨
          first.inputKind? name = some .unknown) := by
        rintro (hequal | hunknown)
        · exact hleaf hequal.symm
        · exact hfirst hunknown
      rw [if_neg hheld, if_pos ⟨hsame, hleaf⟩]
  · rw [if_neg hsame, if_pos (Or.inr rfl), if_neg (fun hdissent => hsame hdissent.1)]

/-- The kind that all results have is held of the result; if there are several kinds, it is
unknown. -/
theorem returns_eq {function : String} {tests : List Leaf}
    (h : ofCalls function (tests.map Leaf.shape) = some profile)
    (hdefinite : ∀ test ∈ tests, test.shape.Definite) :
    profile.returns =
      match tests.filterMap Leaf.resultKind? with
      | [] => none
      | previous :: later =>
          if ∀ other ∈ later, other = previous then some previous else some .unknown := by
  cases hresults : tests.filterMap Leaf.resultKind? with
  | nil =>
      rw [List.filterMap_eq_nil_iff] at hresults
      exact (returns_ofCalls_eq_none_iff h).mpr (List.forall_mem_map.mpr hresults)
  | cons previous later =>
      have hshown : ∀ kind, kind ∈ previous :: later ↔
          ∃ test ∈ tests, test.shape.returns = some kind := by
        intro kind
        rw [← hresults]
        exact List.mem_filterMap
      rcases (hshown previous).mp List.mem_cons_self with ⟨test, hmem, hprevious⟩
      have hknown : previous ≠ .unknown := test.ne_unknown_of_resultKind? hprevious
      simp only
      split <;> rename_i hsame
      · rw [returns_ofCalls_eq_some_iff h hknown]
        refine ⟨⟨test.shape, List.mem_map_of_mem hmem, by simp [hprevious]⟩, ?_⟩
        rw [List.forall_mem_map]
        intro other hother
        cases hkind : other.shape.returns with
        | none => exact Or.inl rfl
        | some kind =>
            have hlisted := (hshown kind).mpr ⟨other, hother, hkind⟩
            rcases List.mem_cons.mp hlisted with rfl | hlater
            · exact Or.inr rfl
            · exact Or.inr (congrArg some (hsame kind hlater))
      · push Not at hsame
        rcases hsame with ⟨kind, hlater, hne⟩
        rcases (hshown kind).mp (List.mem_cons_of_mem _ hlater) with ⟨other, hother, hkind⟩
        rw [returns_ofCalls_eq_unknown_iff h (List.forall_mem_map.mpr hdefinite)]
        exact ⟨other.shape, List.mem_map_of_mem hother, test.shape, List.mem_map_of_mem hmem,
          kind, previous, hkind, hprevious, hne⟩

/-- A test is in conflict with what is held of the result exactly if it breaks with all earlier
tests that expect a result. -/
theorem betweenResults?_eq {earlier : List Leaf}
    (h : ofCalls leaf.property (earlier.map Leaf.shape) = some profile)
    (hdefinite : ∀ test ∈ earlier, test.shape.Definite) :
    Conflict.betweenResults? leaf.property profile.returns leaf.shape.returns =
      resultDissent? earlier leaf := by
  have hleaf : leaf.shape.returns = leaf.resultKind? := rfl
  rw [returns_eq h hdefinite, hleaf, resultDissent?]
  cases hresults : earlier.filterMap Leaf.resultKind? with
  | nil => rfl
  | cons previous later =>
      cases hkind : leaf.resultKind? with
      | none =>
          simp only
          split <;> rfl
      | some kind =>
          have hmem : previous ∈ earlier.filterMap Leaf.resultKind? := by simp [hresults]
          rcases List.mem_filterMap.mp hmem with ⟨test, -, hprevious⟩
          have hknown : previous ≠ .unknown := test.ne_unknown_of_resultKind? hprevious
          by_cases hsame : ∀ other ∈ later, other = previous
          · simp only [if_pos hsame, Conflict.betweenResults?, Conflict.between?]
            by_cases hequal : kind = previous
            · simp [hequal]
            · simpa [hequal, hknown, Ne.symm hequal] using hsame
          · simp [hsame, Conflict.betweenResults?, Conflict.between?]

/-! ## The conflicts of a comparison -/

/-- The conflicts over the inputs of a test are those that it adds over them. -/
theorem conflicts_inputs_eq
    (h : ofCalls leaf.property ((first :: others).map Leaf.shape) = some profile)
    (hdefinite : ∀ earlier ∈ first :: others, earlier.shape.Definite) :
    (leaf.shape.inputs.entries.filterMap fun input =>
        Conflict.between? leaf.property (.parameter input.1) (profile.parameters.get? input.1)
          (some input.2)) =
      leaf.input.keys.filterMap (inputDissent? first others leaf) := by
  rw [leaf.shape.inputs.filterMap_entries fun name observed =>
    Conflict.between? leaf.property (.parameter name) (profile.parameters.get? name) observed]
  simp only [Leaf.get?_inputs_shape, between?_parameter_eq h hdefinite]
  simp [Leaf.shape]

/-- The conflict over a parameter that a test lacks is the one that it adds over it. -/
theorem lacking?_eq_inputDissent?
    (h : ofCalls leaf.property ((first :: others).map Leaf.shape) = some profile)
    (hdefinite : ∀ earlier ∈ first :: others, earlier.shape.Definite) (name : String) :
    (((compareInputs leaf.property profile.parameters leaf.shape.inputs.entries).1.get? name).bind
        fun held => lacking? leaf.property leaf.shape.inputs (name, held)) =
      if !leaf.input.contains name then inputDissent? first others leaf name else none := by
  rw [lacking?_compareInputs, ← between?_parameter_eq h hdefinite, Leaf.get?_inputs_shape,
    Leaf.inputKind?, Table.contains]
  cases leaf.input.get? name <;> rfl

/-- The conflicts over the parameters that a test lacks are those that it adds over the inputs of the
first test: a parameter that came later is unknown already. -/
theorem conflicts_lacking_eq
    (h : ofCalls leaf.property ((first :: others).map Leaf.shape) = some profile)
    (hdefinite : ∀ earlier ∈ first :: others, earlier.shape.Definite) :
    (compareInputs leaf.property profile.parameters leaf.shape.inputs.entries).1.entries.filterMap
        (lacking? leaf.property leaf.shape.inputs) =
      (first.input.keys.filter fun name => !leaf.input.contains name).filterMap
        (inputDissent? first others leaf) := by
  have hentries := (compareInputs leaf.property profile.parameters
    leaf.shape.inputs.entries).1.filterMap_entries fun name held =>
      held.bind fun kind => lacking? leaf.property leaf.shape.inputs (name, kind)
  simp only [lacking?_eq_inputDissent? h hdefinite] at hentries
  -- The parameters are the inputs of the first test, followed by some that it lacks.
  have hkeys : ∃ later : List String, (∀ name ∈ later, name ∉ first.input.keys) ∧
      (compareInputs leaf.property profile.parameters leaf.shape.inputs.entries).1.keys =
        first.input.keys ++ later := by
    rw [keys_compareInputs, keys_ofCalls h, eraseDups_eraseDups_append, List.map_cons,
      List.flatMap_cons, List.append_assoc, Leaf.keys_inputs_shape]
    exact exists_eraseDups_append_eq first.input.nodup_keys _
  rcases hkeys with ⟨later, hlater, hkeys⟩
  have hnone : later.filterMap (fun name =>
      if !leaf.input.contains name then inputDissent? first others leaf name else none) = [] := by
    rw [List.filterMap_eq_nil_iff]
    intro name hmem
    have hfirst : first.input.get? name = none := by
      rw [Option.eq_none_iff_forall_ne_some]
      intro value hvalue
      exact hlater name hmem ((Table.mem_keys_iff _ name).mpr ⟨value, hvalue⟩)
    cases hleaf : leaf.input.get? name <;>
      simp [Table.contains, inputDissent?, Leaf.inputKind?, hfirst, hleaf]
  rw [List.filterMap_filter]
  refine hentries.trans ?_
  rw [hkeys, List.filterMap_append, hnone, List.append_nil]

/-- The conflicts of a comparison are those that the test adds to the earlier ones. -/
theorem conflicts_compare_eq_dissents
    (h : ofCalls leaf.property ((first :: others).map Leaf.shape) = some profile)
    (hdefinite : ∀ earlier ∈ first :: others, earlier.shape.Definite) :
    (profile.compare leaf.property leaf.shape).2 = dissents (first :: others) leaf := by
  rw [conflicts_compare, conflicts_inputs_eq h hdefinite, conflicts_lacking_eq h hdefinite,
    betweenResults?_eq h hdefinite, dissents]

end Profile

/-! ## All tests -/

/-- If all calls are definite, the conflicts of a survey are the log. -/
theorem Survey.conflicts_ofLeaves_eq_log {leaves : List Leaf}
    (h : ∀ leaf ∈ leaves, leaf.shape.Definite) :
    (ofLeaves leaves).conflicts = conflictLog leaves := by
  induction leaves using List.reverseRecOn with
  | nil => rfl
  | append_singleton leaves leaf ih =>
      have hearlier : ∀ earlier ∈ leaves, earlier.shape.Definite :=
        fun earlier hmem => h earlier (List.mem_append_left _ hmem)
      have htests : ∀ test ∈ testsOf leaves leaf.property, test.shape.Definite :=
        fun test hmem => hearlier test (List.mem_of_mem_filter hmem)
      have hprofile := get?_ofLeaves leaves leaf.property
      rw [← map_shape_testsOf] at hprofile
      rw [ofLeaves_append_singleton, conflictLog_append_singleton, ← ih hearlier]
      cases hcalls : testsOf leaves leaf.property with
      | nil =>
          rw [hcalls] at hprofile
          rw [observe_of_new hprofile, dissents, List.append_nil]
      | cons first others =>
          rw [hcalls] at hprofile htests
          cases hheld : Profile.ofCalls leaf.property ((first :: others).map Leaf.shape) with
          | none => simp [Profile.ofCalls_eq_none_iff] at hheld
          | some profile =>
              rw [hheld] at hprofile
              rw [observe_of_known hprofile, Profile.conflicts_compare_eq_dissents hheld htests]

/-- If a survey is recorded, there are not two conflicts over one slot. -/
theorem Survey.Recorded.nodup_places {survey : Survey} (h : survey.Recorded) :
    (survey.conflicts.map Conflict.place).Nodup := by
  rw [List.nodup_iff_count]
  rintro ⟨function, slot⟩
  have hcount := h.countP_eq function slot
  rw [List.count_eq_countP, List.countP_map]
  calc survey.conflicts.countP (Conflict.concerns function slot)
      = if survey.held function slot = some .unknown then 1 else 0 := hcount
    _ ≤ 1 := by split <;> omega

/-- If no input announces a failing call, the conflicts that are inferred are those that the tests
add one after another, and no slot of a function is in conflict twice. -/
theorem conflicts_infer_eq_log {leaves : List Leaf}
    (h : ∀ leaf ∈ leaves, ∀ entry ∈ leaf.input.entries, entry.2.isError = false) :
    (infer leaves).conflicts = conflictLog leaves ∧
      ((infer leaves).conflicts.map Conflict.place).Nodup := by
  have hdefinite : ∀ leaf ∈ leaves, leaf.shape.Definite :=
    fun leaf hmem => Leaf.definite_shape (h leaf hmem)
  exact ⟨Survey.conflicts_ofLeaves_eq_log hdefinite,
    (Survey.recorded_ofLeaves hdefinite).nodup_places⟩

/-- Tests of two functions in turn.  An input is lacked and comes back, another one comes late, and
the first test of a function is to fail. -/
def interleavedLeaves : List Leaf := [
  ⟨"no limit below zero", "cut", .ofList [("text", .string "abc"), ("limit", .int (-1))],
    .error "negative limit", none, none⟩,
  ⟨"three letters", "count", .ofList [("text", .string "abc")], .int 3, none, none⟩,
  ⟨"nothing to cut", "cut", .ofList [("text", .string "")], .null, none, none⟩,
  ⟨"two letters are left", "cut",
    .ofList [("text", .string "abc"), ("limit", .int 2), ("mark", .string ".")], .string "ab.",
    none, none⟩,
  ⟨"nothing to count", "count", .ofList [("text", .null)], .error "no text", none, none⟩,
  ⟨"no text", "cut", .ofList [("mark", .null), ("text", .null)], .bool false, none, none⟩]

/-- Every slot of the two functions is met once, with what all earlier tests show of it. -/
theorem conflicts_infer_eq_log_interleaved :
    (infer interleavedLeaves).conflicts = conflictLog interleavedLeaves ∧
      ((infer interleavedLeaves).conflicts.map Conflict.place).Nodup ∧
      conflictLog interleavedLeaves = [
        ⟨"cut", .parameter "limit", some .int, none⟩,
        ⟨"cut", .parameter "mark", none, some .string⟩,
        ⟨"cut", .result, some .null, some .string⟩,
        ⟨"count", .parameter "text", some .string, some .null⟩,
        ⟨"cut", .parameter "text", some .string, some .null⟩] := by
  have hinputs : ∀ leaf ∈ interleavedLeaves, ∀ entry ∈ leaf.input.entries,
      entry.2.isError = false := by
    decide
  have h := conflicts_infer_eq_log hinputs
  exact ⟨h.1, h.2, by decide⟩

end Casebook
