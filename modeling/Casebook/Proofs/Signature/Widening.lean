import Casebook.Proofs.Signature.ConflictLog
import Mathlib.Data.List.Count
import Mathlib.Data.List.Perm.Subperm

/-!
# What one more test changes

An observation only moves up and only locally.  It touches the profile of one function; what is held
of a parameter may become unknown and nothing else, and what is held of the result may in addition
appear.  Every such loss, and every parameter that comes late, is recorded by one conflict, which is
appended to those recorded before.  Nothing is lost twice, so that a function has no more conflicts
than slots.

Main definitions:

- {lit}`Profile.WidensTo`: what a comparison may do to a profile.
- {lit}`Profile.conflictSlots`: the slots that are new in a profile or have become unknown.
- {lit}`Survey.MovesUp`: what an observation may do to a survey.
- {lit}`Survey.OncePerSlot`: a function has at most one conflict over each of its slots.

Main results:

- Theorem {lit}`Profile.widensTo_compare`: a comparison widens a profile.
- Theorem {lit}`Profile.perm_slots_compare`: its conflicts are over the slots that it widens.
- Theorem {lit}`Survey.movesUp_observe`: an observation moves a survey up.
- Theorem {lit}`observe_moves_up`: this is what every observation does after any tests, and there is
  at most one conflict over each slot.
-/

namespace Casebook

/-! ## The changes of a profile -/

/-- No call of a test shows a result of an unknown kind. -/
theorem Leaf.returns_shape_ne_unknown (leaf : Leaf) : leaf.shape.returns ≠ some .unknown := by
  intro h
  exact leaf.ne_unknown_of_resultKind? h rfl

namespace Profile

/-- The parameters that are new in a profile. -/
def addedParameters (before after : Profile) : List String :=
  after.parameters.keys.filter fun name => !before.parameters.contains name

/-- The parameters of a definite kind that have become unknown. -/
def widenedParameters (before after : Profile) : List String :=
  before.parameters.keys.filter fun name =>
    before.parameters.get? name ≠ some .unknown ∧ after.parameters.get? name = some .unknown

/-- A result of a definite kind has become unknown. -/
def ResultWidened (before after : Profile) : Prop :=
  ∃ kind, kind ≠ .unknown ∧ before.returns = some kind ∧ after.returns = some .unknown

instance (before after : Profile) : Decidable (ResultWidened before after) :=
  decidable_of_iff
    (before.returns ≠ none ∧ before.returns ≠ some .unknown ∧ after.returns = some .unknown) <| by
      cases hreturns : before.returns <;> simp [ResultWidened, hreturns]

/-- The slots over which a conflict is due: new parameters, and whatever has become unknown. -/
def conflictSlots (before after : Profile) : List Slot :=
  (addedParameters before after ++ widenedParameters before after).map .parameter
    ++ if ResultWidened before after then [.result] else []

/-- A profile has been widened to another one.  The parameters stay in their order and new ones
follow. -/
structure WidensTo (before after : Profile) : Prop where
  names : before.parameters.keys <+: after.parameters.keys
  /-- What is held of a parameter stays, or something definite becomes unknown. -/
  held : ∀ name kind, before.parameters.get? name = some kind →
    after.parameters.get? name = some kind ∨
      kind ≠ .unknown ∧ after.parameters.get? name = some .unknown
  added : ∀ name ∈ addedParameters before after, after.parameters.get? name = some .unknown
  /-- What is held of the result stays, or a first result is taken, or something definite becomes
  unknown. -/
  result : after.returns = before.returns ∨
    (before.returns = none ∧ ∃ kind, kind ≠ .unknown ∧ after.returns = some kind) ∨
    ResultWidened before after

/-! ## One comparison -/

section Compare

variable (function : String) (held : Profile) (shape : CallShape)

/-- The parameters that were held stay in front. -/
theorem prefix_keys_compare :
    held.parameters.keys <+: (held.compare function shape).1.parameters.keys := by
  have hnew := exists_eraseDups_append_eq held.parameters.nodup_keys shape.inputs.keys
  obtain ⟨new, -, hkeys⟩ := hnew
  rw [keys_compare, hkeys]
  exact List.prefix_append _ _

/-- A parameter is new after a comparison exactly if the call has it and the profile had not. -/
theorem mem_addedParameters_compare (name : String) :
    name ∈ addedParameters held (held.compare function shape).1 ↔
      held.parameters.get? name = none ∧ shape.inputs.get? name ≠ none := by
  rw [addedParameters, List.mem_filter, Table.mem_keys_iff, get?_compare, Table.contains]
  cases hheld : held.parameters.get? name with
  | none =>
      cases hinput : shape.inputs.get? name <;> simp [Kind.widen]
  | some kind => simp

/-- A parameter is widened by a comparison exactly if something definite is held of it and the call
does not show that. -/
theorem mem_widenedParameters_compare (name : String) :
    name ∈ widenedParameters held (held.compare function shape).1 ↔
      held.parameters.get? name ≠ none ∧ held.parameters.get? name ≠ some .unknown ∧
        held.parameters.get? name ≠ shape.inputs.get? name := by
  simp only [widenedParameters, List.mem_filter, Table.mem_keys_iff, get?_compare,
    decide_eq_true_eq]
  rw [← Option.isSome_iff_exists, ← Option.ne_none_iff_isSome]
  by_cases hsame : held.parameters.get? name = shape.inputs.get? name
  · simp [Kind.widen, hsame]
  · simp [Kind.widen, hsame]

/-- The result is widened by a comparison exactly if something definite is held of it and the call
shows another result. -/
theorem resultWidened_compare_iff :
    ResultWidened held (held.compare function shape).1 ↔
      ∃ previous kind, held.returns = some previous ∧ shape.returns = some kind ∧
        previous ≠ .unknown ∧ previous ≠ kind := by
  rw [ResultWidened, returns_compare]
  cases hheld : held.returns with
  | none => simp
  | some previous =>
      cases hkind : shape.returns with
      | none =>
          have hkept : Kind.widenResult (some previous) none = some previous := rfl
          simp [hkept]
      | some kind =>
          by_cases hsame : previous = kind
          · simp [Kind.widenResult, hsame]
          · simp [Kind.widenResult, Kind.widen, hsame]

/-- A comparison with a call that shows no unknown result widens a profile. -/
theorem widensTo_compare (hresult : shape.returns ≠ some .unknown) :
    held.WidensTo (held.compare function shape).1 := by
  constructor
  case names => exact prefix_keys_compare function held shape
  case held =>
    intro name kind hkind
    rw [get?_compare, hkind]
    by_cases hunknown : kind = .unknown
    · subst hunknown
      exact Or.inl (Kind.widen_unknown _)
    · have hwiden := Kind.widen_eq_held_or (some kind) (shape.inputs.get? name)
      exact hwiden.imp_right fun hlost => ⟨hunknown, hlost⟩
  case added =>
    intro name hmem
    obtain ⟨hnew, hinput⟩ := (mem_addedParameters_compare function held shape name).mp hmem
    rw [get?_compare, hnew, Kind.widen, if_neg (Ne.symm hinput)]
  case result =>
    rw [resultWidened_compare_iff, returns_compare]
    cases hheld : held.returns with
    | none =>
        cases hkind : shape.returns with
        | none => exact Or.inl rfl
        | some kind =>
            have hknown : kind ≠ .unknown := by simpa [hkind] using hresult
            exact Or.inr (Or.inl ⟨rfl, kind, hknown, rfl⟩)
    | some previous =>
        cases hkind : shape.returns with
        | none => exact Or.inl rfl
        | some kind =>
            by_cases hkept : previous = kind ∨ previous = .unknown
            · apply Or.inl
              cases hkept with
              | inl hsame => simp [Kind.widenResult, hsame]
              | inr hunknown => simp [Kind.widenResult, hunknown]
            · rw [not_or] at hkept
              exact Or.inr (Or.inr ⟨previous, kind, rfl, rfl, hkept.2, hkept.1⟩)

end Compare

/-! ## The conflicts of a comparison -/

end Profile

/-- Among conflicts over one function, those over a slot are as many as the slot is told. -/
theorem Conflict.count_map_slot {function : String} {conflicts : List Conflict}
    (h : ∀ conflict ∈ conflicts, conflict.function = function) (slot : Slot) :
    (conflicts.map Conflict.slot).count slot =
      conflicts.countP (Conflict.concerns function slot) := by
  rw [List.count_eq_countP, List.countP_map]
  apply List.countP_congr
  intro conflict hmem
  simp [h conflict hmem]

namespace Profile

/-- A conflict is due over a parameter that is new or has become unknown. -/
theorem count_parameter_conflictSlots (before after : Profile) (name : String) :
    (conflictSlots before after).count (.parameter name) =
      (if name ∈ addedParameters before after then 1 else 0)
        + if name ∈ widenedParameters before after then 1 else 0 := by
  have hinjective : Function.Injective Slot.parameter := fun _ _ h => Slot.parameter.inj h
  have hadded : (addedParameters before after).Nodup := after.parameters.nodup_keys.filter _
  have hwidened : (widenedParameters before after).Nodup := before.parameters.nodup_keys.filter _
  have hresult : (if ResultWidened before after then [Slot.result] else []).count
      (.parameter name) = 0 := by
    split <;> simp
  rw [conflictSlots, List.count_append, hresult, Nat.add_zero,
    List.count_map_of_injective _ _ hinjective, List.count_append, hadded.count, hwidened.count]

/-- A conflict is due over the result if it has become unknown. -/
theorem count_result_conflictSlots (before after : Profile) :
    (conflictSlots before after).count .result =
      if ResultWidened before after then 1 else 0 := by
  have hparameters : ((addedParameters before after ++ widenedParameters before after).map
      Slot.parameter).count .result = 0 := by
    rw [List.count_eq_zero]
    simp
  rw [conflictSlots, List.count_append, hparameters, Nat.zero_add]
  split <;> simp

/-- The conflicts of a comparison are over the slots that are new or have become unknown, one over
each. -/
theorem perm_slots_compare (function : String) (held : Profile) (shape : CallShape) :
    ((held.compare function shape).2.map Conflict.slot).Perm
      (conflictSlots held (held.compare function shape).1) := by
  rw [List.perm_iff_count]
  intro slot
  rw [Conflict.count_map_slot fun conflict hmem => function_of_mem_compare hmem]
  cases slot with
  | parameter name =>
      rw [countP_compare_parameter, count_parameter_conflictSlots]
      simp only [mem_addedParameters_compare, mem_widenedParameters_compare]
      by_cases hsame : held.parameters.get? name = shape.inputs.get? name
      · cases hheld : held.parameters.get? name <;>
          simp_all [Conflict.between?]
      · cases hheld : held.parameters.get? name with
        | none =>
            have hinput : shape.inputs.get? name ≠ none := by
              intro hnone
              exact hsame (hheld.trans hnone.symm)
            simp [Conflict.between?, hinput, Ne.symm hinput]
        | some kind =>
            rw [hheld] at hsame
            by_cases hunknown : kind = .unknown
            · simp [Conflict.between?, hunknown]
            · simp [Conflict.between?, hunknown, hsame]
  | result =>
      rw [countP_compare_result, count_result_conflictSlots]
      have hwidened := resultWidened_compare_iff function held shape
      cases hheld : held.returns with
      | none => simp [Conflict.betweenResults?, hwidened, hheld]
      | some previous =>
          cases hkind : shape.returns with
          | none => simp [Conflict.betweenResults?, hwidened, hheld, hkind]
          | some kind =>
              rw [hheld, hkind] at hwidened
              by_cases hsame : previous = kind
              · simp [Conflict.betweenResults?, Conflict.between?, hwidened, hsame]
              · by_cases hunknown : previous = .unknown
                · simp [Conflict.betweenResults?, Conflict.between?, hwidened, hunknown]
                · simp [Conflict.betweenResults?, Conflict.between?, hwidened, hsame, hunknown]

/-- As many conflicts are due as there are new parameters, parameters that have become unknown and,
if it has become unknown, the result. -/
theorem length_conflictSlots (before after : Profile) :
    (conflictSlots before after).length =
      (addedParameters before after).length + (widenedParameters before after).length
        + if ResultWidened before after then 1 else 0 := by
  rw [conflictSlots, List.length_append, List.length_map, List.length_append]
  split <;> rfl

end Profile

/-! ## One observation -/

/-- A test has moved a survey up to another one. -/
structure Survey.MovesUp (before : Survey) (leaf : Leaf) (after : Survey) : Prop where
  /-- Nothing is held otherwise of another function. -/
  others : ∀ function, function ≠ leaf.property →
    after.profiles.get? function = before.profiles.get? function
  /-- The functions stay in their order, and a new one follows. -/
  functions : before.profiles.keys <+: after.profiles.keys
  /-- The first test of a function causes no conflict. -/
  first : before.profiles.get? leaf.property = none → after.conflicts = before.conflicts
  /-- A later test widens what is held of its function and adds a conflict for every slot that is
  new or has become unknown. -/
  later : ∀ held, before.profiles.get? leaf.property = some held →
    ∃ profile added, after.profiles.get? leaf.property = some profile ∧ held.WidensTo profile ∧
      after.conflicts = before.conflicts ++ added ∧
      (∀ conflict ∈ added, conflict.function = leaf.property) ∧
      (added.map Conflict.slot).Perm (held.conflictSlots profile) ∧
      added.length = (held.addedParameters profile).length
        + (held.widenedParameters profile).length + if held.ResultWidened profile then 1 else 0

namespace Survey

/-- An observation moves a survey up. -/
theorem movesUp_observe (survey : Survey) (leaf : Leaf) :
    survey.MovesUp leaf (survey.observe leaf) := by
  constructor
  case others => exact fun function hother => get?_observe_of_ne survey hother
  case functions =>
    rw [keys_observe]
    split
    · exact List.prefix_rfl
    · exact List.prefix_append _ _
  case first =>
    intro hnew
    rw [observe_of_new hnew]
  case later =>
    intro held hheld
    have hslots := Profile.perm_slots_compare leaf.property held leaf.shape
    have hlength := hslots.length_eq
    rw [List.length_map, Profile.length_conflictSlots] at hlength
    rw [observe_of_known hheld]
    refine ⟨(held.compare leaf.property leaf.shape).1, (held.compare leaf.property leaf.shape).2,
      Table.get?_put_self _ _ _, ?_, rfl, ?_, hslots, hlength⟩
    · exact held.widensTo_compare leaf.property leaf.shape leaf.returns_shape_ne_unknown
    · exact fun conflict hmem => Profile.function_of_mem_compare hmem

/-! ## All observations -/

/-- The conflicts of a survey over a function. -/
def conflictsOver (survey : Survey) (function : String) : List Conflict :=
  survey.conflicts.filter fun conflict => conflict.function == function

/-- A function has at most one conflict over each of its slots: at most one over each parameter and
one over the result. -/
structure OncePerSlot (survey : Survey) : Prop where
  nodup : ∀ function, ((survey.conflictsOver function).map Conflict.slot).Nodup
  seen : ∀ function profile, survey.profiles.get? function = some profile →
    (survey.conflictsOver function).length ≤ profile.parameters.keys.length + 1
  unseen : ∀ function, survey.profiles.get? function = none → survey.conflictsOver function = []

/-- There are no more conflicts over a slot than one, and none unless it is held to be unknown. -/
def CountsLosses (survey : Survey) : Prop :=
  ∀ function slot, survey.conflicts.countP (Conflict.concerns function slot) ≤
    if survey.held function slot = some .unknown then 1 else 0

/-- An observation that loses something definite loses it once. -/
theorem CountsLosses.observe {survey : Survey} (h : survey.CountsLosses) (leaf : Leaf) :
    (survey.observe leaf).CountsLosses := by
  intro function slot
  have hbefore := h function slot
  by_cases hsame : function = leaf.property
  · subst hsame
    cases hheld : survey.profiles.get? leaf.property with
    | none =>
        simp only [held, hheld, Option.bind_none, reduceCtorEq, if_false] at hbefore
        rw [observe_of_new hheld]
        exact Nat.le_trans hbefore (Nat.zero_le _)
    | some profile =>
        simp only [held, hheld, Option.bind_some] at hbefore
        rw [held, observe_of_known hheld, List.countP_append, Table.get?_put_self,
          Option.bind_some]
        cases slot with
        | parameter name =>
            have hadd := Conflict.length_between?_add leaf.property (.parameter name)
              (profile.parameters.get? name) (leaf.shape.inputs.get? name)
            rw [Profile.countP_compare_parameter, Profile.held, Profile.get?_compare, ← hadd]
            exact Nat.add_le_add_right hbefore _
        | result =>
            have hadd := length_betweenResults?_add leaf.property profile.returns
              leaf.returns_shape_ne_unknown
            rw [Profile.countP_compare_result, Profile.held, Profile.returns_compare, ← hadd]
            exact Nat.add_le_add_right hbefore _
  · rw [countP_observe_of_ne survey slot hsame, held, get?_observe_of_ne survey hsame]
    exact hbefore

/-- No survey loses anything twice. -/
theorem countsLosses_ofLeaves (leaves : List Leaf) : (ofLeaves leaves).CountsLosses := by
  refine ofLeaves_induction (motive := fun _ survey => survey.CountsLosses) ?_ ?_ leaves
  · intro function slot
    exact Nat.zero_le _
  · intro leaves leaf ih
    exact ih.observe leaf

/-- A slot is told as often among the conflicts over a function as there are conflicts over it. -/
theorem count_slots_conflictsOver (survey : Survey) (function : String) (slot : Slot) :
    ((survey.conflictsOver function).map Conflict.slot).count slot =
      survey.conflicts.countP (Conflict.concerns function slot) := by
  have hover : ∀ conflict ∈ survey.conflictsOver function, conflict.function = function := by
    intro conflict hmem
    simpa using (List.mem_filter.mp hmem).2
  rw [Conflict.count_map_slot hover, conflictsOver, List.countP_filter]
  apply List.countP_congr
  intro conflict _
  simp only [Bool.and_eq_true, Conflict.concerns_eq_true_iff, beq_iff_eq]
  constructor
  · exact fun h => h.1
  · exact fun h => ⟨h, h.1⟩

section Bounds

variable {survey : Survey} (h : survey.CountsLosses) (function : String)
include h

/-- If nothing is lost twice, no slot is told twice. -/
theorem CountsLosses.nodup_slots : ((survey.conflictsOver function).map Conflict.slot).Nodup := by
  rw [List.nodup_iff_count_le_one]
  intro slot
  have hbound := h function slot
  rw [count_slots_conflictsOver]
  split at hbound <;> omega

/-- If nothing is lost twice, a slot is told only if it is held to be unknown. -/
theorem CountsLosses.held_of_mem {slot : Slot}
    (hmem : slot ∈ (survey.conflictsOver function).map Conflict.slot) :
    survey.held function slot = some .unknown := by
  have hbound := h function slot
  have hpositive := List.count_pos_iff.mpr hmem
  rw [count_slots_conflictsOver] at hpositive
  by_contra hother
  rw [if_neg hother] at hbound
  omega

/-- If nothing is lost twice, the slots that are told are parameters or the result. -/
theorem CountsLosses.slots_subset {profile : Profile}
    (hprofile : survey.profiles.get? function = some profile) :
    (survey.conflictsOver function).map Conflict.slot ⊆
      profile.parameters.keys.map Slot.parameter ++ [.result] := by
  intro slot hmem
  have hheld := h.held_of_mem function hmem
  rw [held, hprofile, Option.bind_some] at hheld
  cases slot with
  | parameter name =>
      have hname := (profile.parameters.mem_keys_iff name).mpr ⟨.unknown, hheld⟩
      simp [hname]
  | result => simp

end Bounds

/-- If nothing is lost twice, a function has at most one conflict over each of its slots. -/
theorem CountsLosses.oncePerSlot {survey : Survey} (h : survey.CountsLosses) :
    survey.OncePerSlot := by
  constructor
  case nodup => exact h.nodup_slots
  case seen =>
    intro function profile hprofile
    have hsubset := List.subperm_of_subset (h.nodup_slots function)
      (h.slots_subset function hprofile)
    simpa using hsubset.length_le
  case unseen =>
    intro function hnone
    have hempty : (survey.conflictsOver function).map Conflict.slot = [] := by
      rw [List.eq_nil_iff_forall_not_mem]
      intro slot hmem
      have hheld := h.held_of_mem function hmem
      simp [held, hnone] at hheld
    exact List.map_eq_nil_iff.mp hempty

end Survey

/-- After any tests, one more test moves the survey up and changes nothing but what is held of its
own function; and there is at most one conflict over each slot of a function. -/
theorem observe_moves_up (leaves : List Leaf) :
    (∀ leaf, (Survey.ofLeaves leaves).MovesUp leaf ((Survey.ofLeaves leaves).observe leaf)) ∧
      (Survey.ofLeaves leaves).OncePerSlot :=
  ⟨fun leaf => (Survey.ofLeaves leaves).movesUp_observe leaf,
    (Survey.countsLosses_ofLeaves leaves).oncePerSlot⟩

/-- A fifth test of the sample functions.  It leaves one summand out, brings a new one and expects a
text. -/
def strayLeaf : Leaf :=
  ⟨"words are joined", "add", .ofList [("c", .string "four"), ("a", .string "twenty")],
    .string "twenty-four", none, none⟩

/-- After the four sample tests the fifth causes three more conflicts: over the new parameter, over
the one that it leaves out and over the result. -/
theorem observe_moves_up_sample :
    ∃ held added, (Survey.ofLeaves sampleLeaves).profiles.get? "add" = some held ∧
      held = ⟨.ofList [("a", .unknown), ("b", .int)], some .int⟩ ∧
      ((Survey.ofLeaves sampleLeaves).observe strayLeaf).profiles.get? "add" =
        some ⟨.ofList [("a", .unknown), ("b", .unknown), ("c", .unknown)], some .unknown⟩ ∧
      ((Survey.ofLeaves sampleLeaves).observe strayLeaf).conflicts =
        (Survey.ofLeaves sampleLeaves).conflicts ++ added ∧
      added.length = 3 := by
  have hheld : (Survey.ofLeaves sampleLeaves).profiles.get? "add" =
      some ⟨.ofList [("a", .unknown), ("b", .int)], some .int⟩ := by
    decide
  have hafter : ((Survey.ofLeaves sampleLeaves).observe strayLeaf).profiles.get? "add" =
      some ⟨.ofList [("a", .unknown), ("b", .unknown), ("c", .unknown)], some .unknown⟩ := by
    decide
  have hmoves := (observe_moves_up sampleLeaves).1 strayLeaf
  obtain ⟨profile, added, hprofile, -, hconflicts, -, -, hlength⟩ := hmoves.later _ hheld
  have hsame := Option.some.inj (hprofile.symm.trans hafter)
  subst hsame
  exact ⟨_, added, hheld, rfl, hafter, hconflicts, hlength.trans (by decide)⟩

end Casebook
