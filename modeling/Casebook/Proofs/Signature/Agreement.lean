import Casebook.Proofs.Signature.Record

/-!
# What all calls of a function agree on

The survey reads the tests in their order, sets a profile by the first call of a function and
compares the later calls with it.  In the end the profile can nevertheless be told from the calls
without their order: it holds something definite exactly where all calls show the same.  Therefore
the order of the tests has no influence on what is inferred.

Main definitions:

- {lit}`Profile.ofCalls`: the profile that the calls of one function come to.
- {lit}`Signature.Agrees`: two signatures are equal but for the order of their parameters.
- {lit}`Inferred.SameSignatures`: two inferences have the same signatures but for their order.
- {lit}`Inferred.SameConflicts`: two inferences have conflicts over the same slots.

Main results:

- Theorem {lit}`Survey.get?_ofLeaves`: the profile of a function is made by its own calls.
- Theorem {lit}`Profile.ofCalls_induction`: how invariants of such profiles are proved.
- Theorem {lit}`Profile.ofCalls_iff_forall`: how what a profile holds is told from its calls.
- Theorems {lit}`Profile.parameter_ofCalls_iff`, {lit}`Profile.returns_ofCalls_eq_none_iff` and
  {lit}`Profile.returns_ofCalls_none_or_iff`: a profile holds what all calls show.
- Theorem {lit}`Profile.held_eq_of_perm`: the order of the calls does not matter.
- Theorem {lit}`infer_order_independent`: the order of the tests does not matter.
-/

namespace Casebook

/-! ## The calls of one function -/

namespace Profile

/-- The profile that the calls of one function come to: the first one sets it, and the others are
compared with it. -/
def ofCalls (function : String) : List CallShape → Option Profile
  | [] => none
  | first :: rest =>
      some (rest.foldl (fun profile shape => (profile.compare function shape).1) (.ofShape first))

/-- One more call sets the profile if it is the first one, and is compared with it otherwise. -/
theorem ofCalls_append_singleton (function : String) (shapes : List CallShape)
    (shape : CallShape) :
    ofCalls function (shapes ++ [shape]) =
      some (match ofCalls function shapes with
        | none => .ofShape shape
        | some profile => (profile.compare function shape).1) := by
  cases shapes with
  | nil => rfl
  | cons first rest => simp [ofCalls]

/-- There is no profile exactly if there is no call. -/
theorem ofCalls_eq_none_iff (function : String) (shapes : List CallShape) :
    ofCalls function shapes = none ↔ shapes = [] := by
  cases shapes <;> simp [ofCalls]

/-- What holds of the profile that a first call sets and is kept by every comparison holds of the
profile of any calls. -/
theorem ofCalls_induction {function : String} {motive : List CallShape → Profile → Prop}
    (first : ∀ shape, motive [shape] (.ofShape shape))
    (compare : ∀ shapes profile shape, motive shapes profile →
      motive (shapes ++ [shape]) (profile.compare function shape).1)
    {shapes : List CallShape} {profile : Profile} (h : ofCalls function shapes = some profile) :
    motive shapes profile := by
  induction shapes using List.reverseRecOn generalizing profile with
  | nil => contradiction
  | append_singleton shapes shape ih =>
      rw [ofCalls_append_singleton, Option.some.injEq] at h
      subst h
      cases hearlier : ofCalls function shapes with
      | none =>
          rw [ofCalls_eq_none_iff] at hearlier
          subst hearlier
          exact first shape
      | some earlier => exact compare shapes earlier shape (ih hearlier)

/-- What holds after a comparison exactly if it held of the profile before and holds of the one that
the call would set, holds of the profile of some calls exactly if it holds of those that each of
them would set. -/
theorem ofCalls_iff_forall {function : String} {P : Profile → Prop}
    (hcompare : ∀ profile shape,
      P (profile.compare function shape).1 ↔ P profile ∧ P (.ofShape shape))
    {shapes : List CallShape} {profile : Profile} (h : ofCalls function shapes = some profile) :
    P profile ↔ ∀ shape ∈ shapes, P (.ofShape shape) := by
  refine ofCalls_induction
    (motive := fun shapes profile => P profile ↔ ∀ shape ∈ shapes, P (.ofShape shape)) ?_ ?_ h
  · intro shape
    rw [List.forall_mem_singleton]
  · intro shapes profile shape ih
    rw [hcompare, ih, List.forall_mem_append, List.forall_mem_singleton]

end Profile

/-- The calls of a function in some tests, in their order. -/
def callsOf (leaves : List Leaf) (function : String) : List CallShape :=
  (leaves.filter fun leaf => leaf.property == function).map Leaf.shape

/-- The calls of a function after one more test of it. -/
theorem callsOf_append_singleton (leaves : List Leaf) (leaf : Leaf) :
    callsOf (leaves ++ [leaf]) leaf.property = callsOf leaves leaf.property ++ [leaf.shape] := by
  simp [callsOf]

/-- A test of another function adds no call. -/
theorem callsOf_append_of_ne (leaves : List Leaf) {leaf : Leaf} {function : String}
    (h : function ≠ leaf.property) :
    callsOf (leaves ++ [leaf]) function = callsOf leaves function := by
  simp [callsOf, Ne.symm h]

/-- The same tests in another order make the same calls of a function. -/
theorem callsOf_perm {leaves others : List Leaf} (h : leaves.Perm others) (function : String) :
    (callsOf leaves function).Perm (callsOf others function) :=
  (h.filter _).map _

/-- The profile of a function is made by its own calls, whatever else is surveyed between them. -/
theorem Survey.get?_ofLeaves (leaves : List Leaf) (function : String) :
    (ofLeaves leaves).profiles.get? function =
      Profile.ofCalls function (callsOf leaves function) := by
  refine ofLeaves_induction (motive := fun leaves survey =>
    survey.profiles.get? function = Profile.ofCalls function (callsOf leaves function))
    rfl ?_ leaves
  intro leaves leaf ih
  by_cases hsame : function = leaf.property
  · subst hsame
    rw [callsOf_append_singleton, Profile.ofCalls_append_singleton, ← ih]
    cases hheld : (ofLeaves leaves).profiles.get? leaf.property with
    | none => rw [observe_of_new hheld, Table.get?_put_self]
    | some held => rw [observe_of_known hheld, Table.get?_put_self]
  · rw [get?_observe_of_ne _ hsame, callsOf_append_of_ne leaves hsame, ih]

/-! ## Agreement -/

/-- Something definite is held of a slot after an observation exactly if it was held before and is
observed. -/
theorem Kind.widen_eq_iff {held observed definite : Option Kind}
    (h : definite ≠ some .unknown) :
    widen held observed = definite ↔ held = definite ∧ observed = definite := by
  unfold widen
  split <;> rename_i hsame
  · simp [hsame]
  · constructor
    · intro hunknown
      exact (h hunknown.symm).elim
    · rintro ⟨rfl, rfl⟩
      exact (hsame rfl).elim

/-- No result is held after a call exactly if none was held before and the call shows none. -/
theorem Kind.widenResult_eq_none_iff (held observed : Option Kind) :
    widenResult held observed = none ↔ held = none ∧ observed = none := by
  rcases held with _ | previous <;> rcases observed with _ | kind <;>
    simp [widenResult, widen]
  split <;> simp

/-- At most a definite result is held after a call exactly if at most that was held before and the
call shows at most that. -/
theorem Kind.widenResult_none_or_iff (held observed : Option Kind) {kind : Kind}
    (h : kind ≠ .unknown) :
    (widenResult held observed = none ∨ widenResult held observed = some kind) ↔
      (held = none ∨ held = some kind) ∧ (observed = none ∨ observed = some kind) := by
  have hdefinite : some kind ≠ some Kind.unknown := by simpa using h
  rcases held with _ | previous <;> rcases observed with _ | shown
  · simp [widenResult]
  · simp [widenResult]
  · simp [widenResult]
  · have hsome : widenResult (some previous) (some shown) ≠ none := by
      simp [widenResult_eq_none_iff]
    simp only [hsome, false_or]
    simp [widenResult, widen_eq_iff hdefinite]

/-- What is held of a slot is determined by what definite it is, if anything. -/
theorem Kind.eq_of_definite_iff {held other : Option Kind}
    (h : ∀ definite, definite ≠ some .unknown → (held = definite ↔ other = definite)) :
    held = other := by
  by_cases hheld : held = some .unknown
  · by_cases hother : other = some .unknown
    · rw [hheld, hother]
    · exact (h other hother).mpr rfl
  · exact ((h held hheld).mp rfl).symm

namespace Profile

variable {function : String} {shapes : List CallShape} {profile : Profile}

/-- A parameter is held to be something definite, or missing, exactly if it is that in all
calls. -/
theorem parameter_ofCalls_iff (h : ofCalls function shapes = some profile) (name : String)
    {observed : Option Kind} (hdefinite : observed ≠ some .unknown) :
    profile.parameters.get? name = observed ↔
      ∀ shape ∈ shapes, shape.inputs.get? name = observed := by
  refine ofCalls_iff_forall (P := fun profile => profile.parameters.get? name = observed) ?_ h
  intro profile shape
  rw [get?_compare]
  exact Kind.widen_eq_iff hdefinite

/-- No result is held exactly if no call shows one. -/
theorem returns_ofCalls_eq_none_iff (h : ofCalls function shapes = some profile) :
    profile.returns = none ↔ ∀ shape ∈ shapes, shape.returns = none := by
  refine ofCalls_iff_forall (P := fun profile => profile.returns = none) ?_ h
  intro profile shape
  rw [returns_compare]
  exact Kind.widenResult_eq_none_iff _ _

/-- At most a definite result is held exactly if every call shows at most that. -/
theorem returns_ofCalls_none_or_iff (h : ofCalls function shapes = some profile) {kind : Kind}
    (hknown : kind ≠ .unknown) :
    (profile.returns = none ∨ profile.returns = some kind) ↔
      ∀ shape ∈ shapes, shape.returns = none ∨ shape.returns = some kind := by
  refine ofCalls_iff_forall
    (P := fun profile => profile.returns = none ∨ profile.returns = some kind) ?_ h
  intro profile shape
  rw [returns_compare]
  exact Kind.widenResult_none_or_iff _ _ hknown

/-- What is held of a slot. -/
def held (profile : Profile) : Slot → Option Kind
  | .parameter name => profile.parameters.get? name
  | .result => profile.returns

/-- The same calls in another order come to a profile that holds the same. -/
theorem held_eq_of_perm {others : List CallShape} (h : shapes.Perm others) {other : Profile}
    (hprofile : ofCalls function shapes = some profile)
    (hother : ofCalls function others = some other) (slot : Slot) :
    profile.held slot = other.held slot := by
  apply Kind.eq_of_definite_iff
  intro definite hdefinite
  cases slot with
  | parameter name =>
      rw [held, held, parameter_ofCalls_iff hprofile name hdefinite,
        parameter_ofCalls_iff hother name hdefinite]
      simp only [h.mem_iff]
  | result =>
      have hnone : profile.returns = none ↔ other.returns = none := by
        rw [returns_ofCalls_eq_none_iff hprofile, returns_ofCalls_eq_none_iff hother]
        simp only [h.mem_iff]
      cases definite with
      | none => exact hnone
      | some kind =>
          have hknown : kind ≠ .unknown := by simpa using hdefinite
          have hatMost : (profile.returns = none ∨ profile.returns = some kind) ↔
              (other.returns = none ∨ other.returns = some kind) := by
            rw [returns_ofCalls_none_or_iff hprofile hknown,
              returns_ofCalls_none_or_iff hother hknown]
            simp only [h.mem_iff]
          have hsplit : ∀ returns : Option Kind,
              returns = some kind ↔ ¬returns = none ∧ (returns = none ∨ returns = some kind) := by
            rintro (_ | _) <;> simp
          rw [held, held, hsplit profile.returns, hsplit other.returns, hatMost, hnone]

end Profile

/-! ## Surveys of the same tests -/

namespace Survey

/-- What is held of a slot of a function. -/
def held (survey : Survey) (function : String) (slot : Slot) : Option Kind :=
  (survey.profiles.get? function).bind fun profile => profile.held slot

/-- A function has a profile exactly if some test calls it. -/
theorem mem_keys_ofLeaves_iff (leaves : List Leaf) (function : String) :
    function ∈ (ofLeaves leaves).profiles.keys ↔ callsOf leaves function ≠ [] := by
  rw [Table.mem_keys_iff, ← Option.isSome_iff_exists, ← Option.ne_none_iff_isSome, get?_ofLeaves,
    Ne, Profile.ofCalls_eq_none_iff]

/-- The same tests in another order come to profiles that hold the same. -/
theorem held_ofLeaves_eq_of_perm {leaves others : List Leaf} (h : leaves.Perm others)
    (function : String) (slot : Slot) :
    (ofLeaves leaves).held function slot = (ofLeaves others).held function slot := by
  have hcalls := callsOf_perm h function
  rw [held, held, get?_ofLeaves, get?_ofLeaves]
  cases hprofile : Profile.ofCalls function (callsOf leaves function) with
  | none =>
      rw [Profile.ofCalls_eq_none_iff] at hprofile
      rw [hprofile, List.nil_perm] at hcalls
      rw [hcalls]
      rfl
  | some profile =>
      cases hother : Profile.ofCalls function (callsOf others function) with
      | none =>
          rw [Profile.ofCalls_eq_none_iff] at hother
          rw [hother, List.perm_nil] at hcalls
          rw [hcalls] at hprofile
          contradiction
      | some other => exact Profile.held_eq_of_perm hcalls hprofile hother slot

/-- If a survey is recorded, there is one conflict over a slot that is held to be unknown and none
over any other. -/
theorem Recorded.countP_eq {survey : Survey} (h : survey.Recorded) (function : String)
    (slot : Slot) :
    survey.conflicts.countP (Conflict.concerns function slot) =
      if survey.held function slot = some .unknown then 1 else 0 := by
  unfold held
  cases hprofile : survey.profiles.get? function with
  | none => simpa using h.unseen function hprofile slot
  | some profile =>
      have hrecords := h.seen function profile hprofile
      cases slot with
      | parameter name => exact hrecords.parameter name
      | result => exact hrecords.result

end Survey

/-! ## Inferences from the same tests -/

/-- Two signatures are equal but for the order of their parameters. -/
structure Signature.Agrees (signature other : Signature) : Prop where
  name : signature.name = other.name
  parameter : ∀ name, signature.parameters.get? name = other.parameters.get? name
  returns : signature.returns = other.returns

/-- The function and the slot that a conflict is over. -/
def Conflict.place (conflict : Conflict) : String × Slot :=
  (conflict.function, conflict.slot)

namespace Inferred

/-- Two inferences have the same signatures but for their order. -/
structure SameSignatures (inferred other : Inferred) : Prop where
  functions : (inferred.signatures.map Signature.name).Perm (other.signatures.map Signature.name)
  agrees : ∀ signature ∈ inferred.signatures, ∀ twin ∈ other.signatures,
    signature.name = twin.name → signature.Agrees twin

/-- Two inferences have conflicts over the same slots, whatever the conflicts tell. -/
structure SameConflicts (inferred other : Inferred) : Prop where
  functions : ∀ function,
    function ∈ inferred.conflictedFunctions ↔ function ∈ other.conflictedFunctions
  places : (inferred.conflicts.map Conflict.place).Perm (other.conflicts.map Conflict.place)

end Inferred

section Reordered

variable {leaves others : List Leaf}

/-- The same tests in another order have the same signatures. -/
theorem sameSignatures_infer_of_perm (h : leaves.Perm others) :
    (infer leaves).SameSignatures (infer others) := by
  constructor
  case functions =>
    rw [names_infer, names_infer,
      List.perm_ext_iff_of_nodup (Table.nodup_keys _) (Table.nodup_keys _)]
    intro function
    have hcalls := callsOf_perm h function
    rw [Survey.mem_keys_ofLeaves_iff, Survey.mem_keys_ofLeaves_iff, Ne, Ne,
      ← List.length_eq_zero_iff, ← List.length_eq_zero_iff, hcalls.length_eq]
  case agrees =>
    intro signature hsignature twin htwin hname
    rcases (mem_signatures_infer_iff leaves signature).mp hsignature with
      ⟨function, profile, hprofile, rfl⟩
    rcases (mem_signatures_infer_iff others twin).mp htwin with ⟨other, twin, htwin', rfl⟩
    have hfunction : function = other := hname
    subst hfunction
    have hheld : ∀ slot, profile.held slot = twin.held slot := by
      intro slot
      have hsurvey := Survey.held_ofLeaves_eq_of_perm h function slot
      simpa only [Survey.held, hprofile, htwin', Option.bind_some] using hsurvey
    have hreturns : profile.returns = twin.returns := hheld .result
    refine ⟨rfl, fun name => hheld (.parameter name), ?_⟩
    rw [Profile.signature, Profile.signature, hreturns]

/-- If no input announces a failing call, the same tests in another order have conflicts over the
same slots. -/
theorem sameConflicts_infer_of_perm (h : leaves.Perm others)
    (hinputs : ∀ leaf ∈ leaves, ∀ entry ∈ leaf.input.entries, entry.2.isError = false) :
    (infer leaves).SameConflicts (infer others) := by
  have hleaves : (Survey.ofLeaves leaves).Recorded :=
    Survey.recorded_ofLeaves fun leaf hmem => Leaf.definite_shape (hinputs leaf hmem)
  have hothers : (Survey.ofLeaves others).Recorded :=
    Survey.recorded_ofLeaves fun leaf hmem =>
      Leaf.definite_shape (hinputs leaf (h.mem_iff.mpr hmem))
  have hplaces :
      ((infer leaves).conflicts.map Conflict.place).Perm
        ((infer others).conflicts.map Conflict.place) := by
    rw [List.perm_iff_count]
    rintro ⟨function, slot⟩
    rw [List.count_eq_countP, List.count_eq_countP, List.countP_map, List.countP_map]
    calc (Survey.ofLeaves leaves).conflicts.countP (Conflict.concerns function slot)
        = if (Survey.ofLeaves leaves).held function slot = some .unknown then 1 else 0 :=
          hleaves.countP_eq function slot
      _ = if (Survey.ofLeaves others).held function slot = some .unknown then 1 else 0 := by
          rw [Survey.held_ofLeaves_eq_of_perm h]
      _ = (Survey.ofLeaves others).conflicts.countP (Conflict.concerns function slot) :=
          (hothers.countP_eq function slot).symm
  refine ⟨fun function => ?_, hplaces⟩
  have hfunctions := hplaces.map Prod.fst
  simp only [List.map_map] at hfunctions
  rw [Inferred.conflictedFunctions, Conflict.functions, List.mem_eraseDups,
    Inferred.conflictedFunctions, Conflict.functions, List.mem_eraseDups]
  exact hfunctions.mem_iff

end Reordered

/-- The order of the tests has no influence on the signatures that are inferred, nor, if no input
announces a failing call, on the slots that there are conflicts over. -/
theorem infer_order_independent {leaves others : List Leaf} (h : leaves.Perm others) :
    (infer leaves).SameSignatures (infer others) ∧
      ((∀ leaf ∈ leaves, ∀ entry ∈ leaf.input.entries, entry.2.isError = false) →
        (infer leaves).SameConflicts (infer others)) :=
  ⟨sameSignatures_infer_of_perm h, sameConflicts_infer_of_perm h⟩

/-- Four tests of two functions.  The calls of one function disagree on an input, and one of them
fails. -/
def sampleLeaves : List Leaf := [
  ⟨"nothing to divide by", "divide", .ofList [("a", .int 1)], .error "division by zero", none,
    none⟩,
  ⟨"a text is no summand", "add", .ofList [("a", .string "one"), ("b", .int 2)],
    .error "not a number", none, none⟩,
  ⟨"two summands", "add", .ofList [("b", .int 2), ("a", .int 1)], .int 3, none, none⟩,
  ⟨"a half", "divide", .ofList [("a", .int 2)], .int 1, none, none⟩]

/-- The four tests in reverse order come to other signatures, but the differences are in order
only. -/
theorem infer_order_independent_reversed :
    (infer sampleLeaves).signatures ≠ (infer sampleLeaves.reverse).signatures ∧
      (infer sampleLeaves).conflictedFunctions = ["add"] ∧
      (infer sampleLeaves).SameSignatures (infer sampleLeaves.reverse) ∧
      (infer sampleLeaves).SameConflicts (infer sampleLeaves.reverse) := by
  have hinputs : ∀ leaf ∈ sampleLeaves, ∀ entry ∈ leaf.input.entries, entry.2.isError = false := by
    decide
  have h := infer_order_independent (List.reverse_perm sampleLeaves).symm
  exact ⟨by decide, by decide, h.1, h.2 hinputs⟩

end Casebook
