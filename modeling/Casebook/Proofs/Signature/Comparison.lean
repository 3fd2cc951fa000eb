import Casebook.Proofs.Table
import Casebook.Signature.Inference
import Mathlib.Data.List.Basic

/-!
# What one comparison does

A comparison treats every slot of a profile on its own: what is held of the slot and what the call
shows of it decide what is held afterwards and whether a conflict is recorded.  For a parameter
both are partial, since a parameter may be new and a call may lack it.

Main definitions:

- {lit}`Kind.widen`: what is held of a parameter after one more observation.
- {lit}`Kind.widenResult`: what is held of the result after one more call.
- {lit}`Conflict.between?`: the conflict between what is held of a slot and what is observed.

Main results:

- Theorem {lit}`Profile.get?_compare`: every parameter is widened by what the call shows of it.
- Theorem {lit}`Profile.conflicts_compare`: the conflicts of a comparison in their order.
- Theorems {lit}`Profile.countP_compare_parameter` and {lit}`Profile.countP_compare_result`: how
  many conflicts a comparison causes over one slot.
-/

namespace Casebook

/-! ## One slot -/

namespace Kind

/-- What is held of a parameter after one more observation: two observations that differ leave
nothing definite. -/
def widen (held observed : Option Kind) : Option Kind :=
  if held = observed then held else some .unknown

/-- The observation that is held already changes nothing. -/
@[simp]
theorem widen_self (held : Option Kind) : widen held held = held := by
  simp [widen]

/-- What is unknown stays unknown. -/
@[simp]
theorem widen_unknown (observed : Option Kind) :
    widen (some .unknown) observed = some .unknown := by
  simp [widen]

/-- What is held after an observation is the observation, or unknown. -/
theorem widen_eq_or (held observed : Option Kind) :
    widen held observed = observed ∨ widen held observed = some .unknown := by
  unfold widen
  split <;> rename_i h
  · exact Or.inl h
  · exact Or.inr rfl

/-- What was held before an observation is held after it, or it has become unknown. -/
theorem widen_eq_held_or (held observed : Option Kind) :
    widen held observed = held ∨ widen held observed = some .unknown := by
  unfold widen
  split
  · exact Or.inl rfl
  · exact Or.inr rfl

/-- What is held of the result after one more call: a call that fails shows nothing, and the first
result is taken as it is. -/
def widenResult (held observed : Option Kind) : Option Kind :=
  match held, observed with
  | held, none => held
  | none, some kind => some kind
  | some previous, some kind => widen (some previous) (some kind)

/-- What is held of a result after a call is the result of the call, or unknown. -/
theorem widenResult_some (held : Option Kind) (kind : Kind) :
    widenResult held (some kind) = some kind ∨
      widenResult held (some kind) = some .unknown := by
  rcases held with _ | previous
  · exact Or.inl rfl
  · exact widen_eq_or (some previous) (some kind)

/-- What was held of a result before a call is held after it, or it has become unknown. -/
theorem widenResult_held (previous : Kind) (observed : Option Kind) :
    widenResult (some previous) observed = some previous ∨
      widenResult (some previous) observed = some .unknown := by
  rcases observed with _ | kind
  · exact Or.inl rfl
  · exact widen_eq_held_or (some previous) (some kind)

end Kind

namespace Conflict

/-- The conflict between what is held of a slot and what is observed of it.  What is unknown is in
conflict with nothing. -/
def between? (function : String) (slot : Slot) (held observed : Option Kind) : Option Conflict :=
  if held = observed ∨ held = some .unknown then none
  else some ⟨function, slot, held, observed⟩

/-- The conflict between the result that is held and the one observed, if there are two results. -/
def betweenResults? (function : String) (held observed : Option Kind) : Option Conflict :=
  match held, observed with
  | some previous, some kind => between? function .result (some previous) (some kind)
  | _, _ => none

/-- The conflict is over a slot of a function. -/
def concerns (function : String) (slot : Slot) (conflict : Conflict) : Bool :=
  conflict.function == function && conflict.slot == slot

@[simp]
theorem concerns_eq_true_iff (function : String) (slot : Slot) (conflict : Conflict) :
    conflict.concerns function slot = true ↔
      conflict.function = function ∧ conflict.slot = slot := by
  simp [concerns]

/-- A conflict over another slot does not concern the one in question. -/
theorem concerns_eq_false_of_slot {function : String} {slot : Slot} {conflict : Conflict}
    (h : conflict.slot ≠ slot) : conflict.concerns function slot = false := by
  simp [concerns, h]

/-- A conflict over a slot tells the function and the slot. -/
theorem concerns_of_between? {function : String} {slot : Slot} {held observed : Option Kind}
    {conflict : Conflict} (h : between? function slot held observed = some conflict) :
    conflict.function = function ∧ conflict.slot = slot := by
  unfold between? at h
  split at h
  · contradiction
  · cases h
    exact ⟨rfl, rfl⟩

/-- A conflict between results tells the function and the slot. -/
theorem concerns_of_betweenResults? {function : String} {held observed : Option Kind}
    {conflict : Conflict} (h : betweenResults? function held observed = some conflict) :
    conflict.function = function ∧ conflict.slot = .result := by
  unfold betweenResults? at h
  split at h
  · exact concerns_of_between? h
  · contradiction

/-- The conflict over a slot is counted at that slot. -/
theorem countP_between? (function : String) (slot : Slot) (held observed : Option Kind) :
    (between? function slot held observed).toList.countP (concerns function slot) =
      (between? function slot held observed).toList.length := by
  rw [List.countP_eq_length]
  intro conflict hmem
  rw [Option.mem_toList] at hmem
  rw [concerns_eq_true_iff]
  exact concerns_of_between? hmem

/-- A slot is unknown after an observation exactly if it was so before or a conflict is recorded,
never both. -/
theorem length_between?_add (function : String) (slot : Slot) (held observed : Option Kind) :
    (if held = some .unknown then 1 else 0)
        + (between? function slot held observed).toList.length =
      if Kind.widen held observed = some .unknown then 1 else 0 := by
  unfold between? Kind.widen
  by_cases hheld : held = some .unknown
  · simp [hheld]
  · by_cases hsame : held = observed
    · simp [hsame]
    · simp [hheld, hsame]

end Conflict

/-! ## The inputs of a call -/

namespace Profile

/-- The parameters after one input of a call. -/
def widenAt (held : Table Kind) (name : String) (observed : Kind) : Table Kind :=
  if held.get? name = some observed ∨ held.get? name = some .unknown then held
  else held.put name .unknown

/-- One input widens the parameter of its name. -/
theorem get?_widenAt (held : Table Kind) (name other : String) (observed : Kind) :
    (widenAt held name observed).get? other =
      if other = name then Kind.widen (held.get? name) (some observed) else held.get? other := by
  unfold widenAt
  by_cases hother : other = name
  · subst hother
    split <;> rename_i h
    · rcases h with h | h <;> simp [h]
    · rw [not_or] at h
      simp [Kind.widen, h.1]
  · rw [if_neg hother]
    split
    · rfl
    · rw [Table.get?_put, if_neg hother]

/-- The inputs are compared one after another. -/
theorem compareInputs_cons (function : String) (held : Table Kind) (name : String)
    (observed : Kind) (rest : List (String × Kind)) :
    compareInputs function held ((name, observed) :: rest) =
      ((compareInputs function (widenAt held name observed) rest).1,
        (Conflict.between? function (.parameter name) (held.get? name) (some observed)).toList
          ++ (compareInputs function (widenAt held name observed) rest).2) := by
  unfold widenAt Conflict.between?
  rw [compareInputs]
  split
  · rfl
  · rfl

/-- The inputs of a call, whose names are distinct, widen the parameters of their names. -/
theorem get?_compareInputs (function : String) (held : Table Kind)
    {inputs : List (String × Kind)} (h : (inputs.map Prod.fst).Nodup) (name : String) :
    (compareInputs function held inputs).1.get? name =
      match inputs.lookup name with
      | none => held.get? name
      | some observed => Kind.widen (held.get? name) (some observed) := by
  induction inputs generalizing held with
  | nil => rfl
  | cons input rest ih =>
      rcases input with ⟨other, observed⟩
      rw [List.map_cons, List.nodup_cons] at h
      rw [compareInputs_cons, ih _ h.2, get?_widenAt]
      by_cases hname : name = other
      · subst hname
        simp [Table.lookup_eq_none_of_notMem h.1]
      · have hne : (name == other) = false := by simpa using hname
        simp [hname, List.lookup_cons, hne]

/-- The conflicts over the inputs of a call, whose names are distinct, in the order of the
inputs. -/
theorem conflicts_compareInputs (function : String) (held : Table Kind)
    {inputs : List (String × Kind)} (h : (inputs.map Prod.fst).Nodup) :
    (compareInputs function held inputs).2 =
      inputs.filterMap fun input =>
        Conflict.between? function (.parameter input.1) (held.get? input.1) (some input.2) := by
  induction inputs generalizing held with
  | nil => rfl
  | cons input rest ih =>
      rcases input with ⟨name, observed⟩
      rw [List.map_cons, List.nodup_cons] at h
      -- The parameters of the later inputs are held as before, their names being other ones.
      have hlater : ∀ later ∈ rest,
          (widenAt held name observed).get? later.1 = held.get? later.1 := by
        intro later hmem
        have hin : later.1 ∈ rest.map Prod.fst := List.mem_map_of_mem hmem
        have hne : later.1 ≠ name := fun heq => h.1 (heq ▸ hin)
        rw [get?_widenAt, if_neg hne]
      rw [compareInputs_cons, ih _ h.2]
      have hrest : rest.filterMap (fun input =>
            Conflict.between? function (.parameter input.1)
              ((widenAt held name observed).get? input.1) (some input.2)) =
          rest.filterMap fun input =>
            Conflict.between? function (.parameter input.1) (held.get? input.1)
              (some input.2) := by
        apply List.filterMap_congr
        intro later hmem
        rw [hlater later hmem]
      simp only [hrest]
      cases hhere : Conflict.between? function (.parameter name) (held.get? name)
          (some observed) <;> simp [hhere]

/-! ## The whole call -/

/-- Every parameter is widened by what the call shows of it. -/
theorem get?_compare (function : String) (profile : Profile) (shape : CallShape) (name : String) :
    (profile.compare function shape).1.parameters.get? name =
      Kind.widen (profile.parameters.get? name) (shape.inputs.get? name) := by
  simp only [compare, compareParameters, Table.get?_mapValues]
  rw [get?_compareInputs function profile.parameters shape.inputs.distinct name]
  change Option.map _ (match shape.inputs.get? name with
    | none => profile.parameters.get? name
    | some observed => Kind.widen (profile.parameters.get? name) (some observed)) = _
  cases hinput : shape.inputs.get? name with
  | none =>
      cases hheld : profile.parameters.get? name <;> simp [Table.contains, hinput, Kind.widen]
  | some observed => simp [Table.contains, hinput]

/-- The result is widened by the result of the call, if the call shows one. -/
theorem returns_compare (function : String) (profile : Profile) (shape : CallShape) :
    (profile.compare function shape).1.returns =
      Kind.widenResult profile.returns shape.returns := by
  simp only [compare]
  rcases profile.returns with _ | previous <;> rcases shape.returns with _ | kind <;>
    try rfl
  simp only [compareResult, Kind.widenResult, Kind.widen, Option.some.injEq]
  by_cases hsame : previous = kind
  · simp [hsame]
  · by_cases hunknown : previous = .unknown <;> simp [hsame, hunknown]

/-- The conflict over the result. -/
theorem compareResult_conflicts (function : String) (held observed : Option Kind) :
    (compareResult function held observed).2 =
      (Conflict.betweenResults? function held observed).toList := by
  rcases held with _ | previous <;> rcases observed with _ | kind <;> try rfl
  simp only [compareResult, Conflict.betweenResults?, Conflict.between?, Option.some.injEq]
  split
  · rfl
  · rfl

/-- The conflicts of a comparison: first those over the inputs of the call in their order, then
those over the parameters that the call lacks in the order of the parameters, then the one over the
result. -/
theorem conflicts_compare (function : String) (profile : Profile) (shape : CallShape) :
    (profile.compare function shape).2 =
      (shape.inputs.entries.filterMap fun input =>
          Conflict.between? function (.parameter input.1) (profile.parameters.get? input.1)
            (some input.2))
        ++ ((compareInputs function profile.parameters shape.inputs.entries).1.entries.filterMap
          (lacking? function shape.inputs))
        ++ (Conflict.betweenResults? function profile.returns shape.returns).toList := by
  simp only [compare, compareParameters, compareResult_conflicts,
    conflicts_compareInputs function profile.parameters shape.inputs.distinct]

/-- Every conflict of a comparison is over the function. -/
theorem function_of_mem_compare {function : String} {profile : Profile} {shape : CallShape}
    {conflict : Conflict} (h : conflict ∈ (profile.compare function shape).2) :
    conflict.function = function := by
  rw [conflicts_compare, List.mem_append, List.mem_append, List.mem_filterMap,
    List.mem_filterMap, Option.mem_toList] at h
  rcases h with (⟨input, -, h⟩ | ⟨parameter, -, h⟩) | h
  · exact (Conflict.concerns_of_between? h).1
  · unfold lacking? at h
    split at h
    · cases h
      rfl
    · contradiction
  · exact (Conflict.concerns_of_betweenResults? h).1

/-- The functions that the conflicts of a comparison are over. -/
theorem functions_compare (function : String) (profile : Profile) (shape : CallShape) :
    (profile.compare function shape).2.map Conflict.function =
      List.replicate (profile.compare function shape).2.length function := by
  rw [List.eq_replicate_iff, List.length_map, List.forall_mem_map]
  exact ⟨rfl, fun _ hmem => function_of_mem_compare hmem⟩

/-! ## Counting the conflicts over one slot -/

/-- A parameter that a call lacks is in conflict with what is held of it. -/
theorem lacking?_eq (function : String) (inputs : Table Kind) (name : String) (held : Kind) :
    lacking? function inputs (name, held) =
      match inputs.get? name with
      | none => Conflict.between? function (.parameter name) (some held) none
      | some _ => none := by
  unfold lacking? Conflict.between? Table.contains
  cases inputs.get? name <;> by_cases h : held = .unknown <;> simp [h]

/-- The parameters that a call lacks are compared as they were before the call. -/
theorem lacking?_compareInputs (function : String) (profile : Profile) (shape : CallShape)
    (name : String) :
    (((compareInputs function profile.parameters shape.inputs.entries).1.get? name).bind
        fun held => lacking? function shape.inputs (name, held)) =
      match shape.inputs.get? name with
      | none => Conflict.between? function (.parameter name) (profile.parameters.get? name) none
      | some _ => none := by
  rw [get?_compareInputs function profile.parameters shape.inputs.distinct name]
  simp only [lacking?_eq]
  change Option.bind (match shape.inputs.get? name with
    | none => profile.parameters.get? name
    | some observed => Kind.widen (profile.parameters.get? name) (some observed)) _ = _
  cases shape.inputs.get? name with
  | none => cases profile.parameters.get? name <;> simp [Conflict.between?]
  | some observed => simp

/-- A missing parameter is in conflict over itself. -/
theorem slot_of_lacking? {function : String} {inputs : Table Kind} {parameter : String × Kind}
    {conflict : Conflict} (h : lacking? function inputs parameter = some conflict) :
    conflict.slot = .parameter parameter.1 := by
  unfold lacking? at h
  split at h
  · cases h
    rfl
  · contradiction

/-- A comparison causes the conflicts over a parameter that its own observation causes. -/
theorem countP_compare_parameter (function : String) (profile : Profile) (shape : CallShape)
    (name : String) :
    (profile.compare function shape).2.countP (Conflict.concerns function (.parameter name)) =
      (Conflict.between? function (.parameter name) (profile.parameters.get? name)
        (shape.inputs.get? name)).toList.length := by
  have hresult : (Conflict.betweenResults? function profile.returns
      shape.returns).toList.countP (Conflict.concerns function (.parameter name)) = 0 := by
    rw [List.countP_eq_zero]
    intro conflict hmem
    rw [Option.mem_toList] at hmem
    simp [(Conflict.concerns_of_betweenResults? hmem).2]
  rw [conflicts_compare, List.countP_append, List.countP_append, hresult, Nat.add_zero]
  rw [Table.countP_filterMap shape.inputs _ _ name, Table.countP_filterMap _ _ _ name,
    lacking?_compareInputs]
  · cases hinput : shape.inputs.get? name with
    | none => simp [Conflict.countP_between?]
    | some observed => simp [Conflict.countP_between?]
  · intro parameter _ hname conflict hconflict
    apply Conflict.concerns_eq_false_of_slot
    rw [slot_of_lacking? hconflict]
    simpa using hname
  · intro input _ hname conflict hconflict
    apply Conflict.concerns_eq_false_of_slot
    rw [(Conflict.concerns_of_between? hconflict).2]
    simpa using hname

/-- A comparison causes the conflict over the result that the two results cause. -/
theorem countP_compare_result (function : String) (profile : Profile) (shape : CallShape) :
    (profile.compare function shape).2.countP (Conflict.concerns function .result) =
      (Conflict.betweenResults? function profile.returns shape.returns).toList.length := by
  have hinputs : (shape.inputs.entries.filterMap fun input =>
      Conflict.between? function (.parameter input.1) (profile.parameters.get? input.1)
        (some input.2)).countP (Conflict.concerns function .result) = 0 := by
    rw [List.countP_eq_zero]
    intro conflict hmem
    rcases List.mem_filterMap.mp hmem with ⟨input, -, hconflict⟩
    simp [(Conflict.concerns_of_between? hconflict).2]
  have hlacking : ((compareInputs function profile.parameters
      shape.inputs.entries).1.entries.filterMap
        (lacking? function shape.inputs)).countP (Conflict.concerns function .result) = 0 := by
    rw [List.countP_eq_zero]
    intro conflict hmem
    rcases List.mem_filterMap.mp hmem with ⟨parameter, -, hconflict⟩
    simp [slot_of_lacking? hconflict]
  have hresult : (Conflict.betweenResults? function profile.returns
      shape.returns).toList.countP (Conflict.concerns function .result) =
        (Conflict.betweenResults? function profile.returns shape.returns).toList.length := by
    rw [List.countP_eq_length]
    intro conflict hmem
    rw [Option.mem_toList] at hmem
    rw [Conflict.concerns_eq_true_iff]
    exact Conflict.concerns_of_betweenResults? hmem
  rw [conflicts_compare, List.countP_append, List.countP_append, hinputs, hlacking, hresult]
  omega

end Profile
end Casebook
