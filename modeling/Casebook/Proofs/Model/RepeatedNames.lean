import Casebook.Model.Binding
import Casebook.Proofs.FirstOccurrences
import Casebook.Proofs.Table
import Mathlib.Algebra.BigOperators.Group.List.Lemmas
import Mathlib.Algebra.Order.Ring.Nat
import Mathlib.Data.Finset.Card

/-!
# Names that several test cases bear

The names of the test cases are counted one after another in a table, and every name that was
counted more than once is warned of.  What is warned of can be told from the test cases alone: how
many of them bear a name, and which of them is the first one to bear it.

Main definitions:

- {lit}`bearers`, {lit}`firstBearer`: how many test cases bear a name, and the position of the first
  of them.
- {lit}`TellsRepetitions`: some warnings tell exactly of the names that several test cases bear.

Main results:

- Theorem {lit}`nameCounts_append_singleton`: one more name adds one to its count.
- Theorems {lit}`keys_nameCounts` and {lit}`getD_nameCounts`: the names counted and their counts.
- Theorem {lit}`duplicateNames_eq`: the warnings, in their order.
- Theorem {lit}`duplicateNames_tellsRepetitions`: the warnings tell exactly of the names that
  several test cases bear.
-/

namespace Casebook

/-! ## Bearers of a name -/

/-- How many of some test cases bear a name. -/
def bearers (testCases : List TestCase) (name : String) : Nat :=
  testCases.countP fun testCase => testCase.name == name

/-- The position of the first of some test cases that bears a name. -/
def firstBearer (testCases : List TestCase) (name : String) : Nat :=
  testCases.findIdx fun testCase => testCase.name == name

/-- The bearers of a name are counted among the names. -/
theorem bearers_eq_count (testCases : List TestCase) (name : String) :
    bearers testCases name = (testCases.map TestCase.name).count name := by
  rw [List.count, List.countP_map]
  rfl

/-- The first bearer of a name stands where the name first occurs. -/
theorem firstBearer_eq_idxOf (testCases : List TestCase) (name : String) :
    firstBearer testCases name = (testCases.map TestCase.name).idxOf name := by
  rw [List.idxOf, List.findIdx_map]
  rfl

/-! ## Counting -/

/-- One more name adds one to its count. -/
theorem nameCounts_append_singleton (names : List String) (name : String) :
    nameCounts (names ++ [name]) =
      (nameCounts names).put name (((nameCounts names).get? name).getD 0 + 1) := by
  simp [nameCounts]

/-- The names that were counted, in the order in which they were first met. -/
theorem keys_nameCounts (names : List String) : (nameCounts names).keys = names.eraseDups := by
  induction names using List.reverseRecOn with
  | nil => rfl
  | append_singleton names name ih =>
      rw [nameCounts_append_singleton, Table.keys_put, ih, eraseDups_append_singleton]
      simp only [List.mem_eraseDups]

/-- Every name is counted as often as it occurs. -/
theorem getD_nameCounts (names : List String) (name : String) :
    ((nameCounts names).get? name).getD 0 = names.count name := by
  induction names using List.reverseRecOn generalizing name with
  | nil => rfl
  | append_singleton names last ih =>
      rw [nameCounts_append_singleton, Table.get?_put, List.count_append, List.count_singleton]
      by_cases h : name = last
      · subst h
        simp [ih]
      · rw [if_neg h, ih, if_neg (by simpa using Ne.symm h), Nat.add_zero]

/-! ## Warnings -/

/-- The warnings are those of the names that several test cases bear, in the order in which the
names first occur, and tell how many bear them. -/
theorem duplicateNames_eq (testCases : List TestCase) :
    duplicateNames testCases =
      ((testCases.map TestCase.name).eraseDups.filter fun name => 1 < bearers testCases name).map
        fun name => .duplicateName name (bearers testCases name) := by
  have hentries := (nameCounts (testCases.map TestCase.name)).filterMap_entries fun name count =>
    if 1 < count.getD 0 then some (Warning.duplicateName name (count.getD 0)) else none
  simp only [getD_nameCounts, keys_nameCounts, ← bearers_eq_count] at hentries
  rw [← List.filterMap_eq_map, List.filterMap_filter]
  refine hentries.trans (List.filterMap_congr fun name _ => ?_)
  simp

/-- The name that is warned of, if it is one. -/
def Warning.name? : Warning → Option String
  | .typeConflict _ => none
  | .duplicateName name _ => some name

/-- How many bearers of a name a warning counts beyond the first one. -/
def Warning.surplus : Warning → Nat
  | .typeConflict _ => 0
  | .duplicateName _ occurrences => occurrences - 1

/-- Some warnings tell exactly of the names that several of some test cases bear. -/
structure TellsRepetitions (testCases : List TestCase) (warnings : List Warning) : Prop where
  /-- Names are all that is warned of. -/
  named : ∀ warning ∈ warnings, ∃ name, warning.name? = some name
  /-- A name is warned of exactly if at least two test cases bear it. -/
  told : ∀ name, (∃ warning ∈ warnings, warning.name? = some name) ↔ 2 ≤ bearers testCases name
  /-- A warning tells how many test cases bear the name. -/
  occurrences : ∀ name occurrences, .duplicateName name occurrences ∈ warnings →
    occurrences = bearers testCases name
  /-- A name is warned of at most once. -/
  once : (warnings.filterMap Warning.name?).Nodup
  /-- The warnings are in the order of the first bearers of the names. -/
  ordered : (warnings.filterMap Warning.name?).Pairwise fun name later =>
    firstBearer testCases name < firstBearer testCases later
  /-- The bearers beyond the first ones are the test cases without which all names differ. -/
  surplus : (warnings.map Warning.surplus).sum + (testCases.map TestCase.name).toFinset.card =
    testCases.length

/-- The names that are warned of, in their order. -/
theorem filterMap_name?_duplicateNames (testCases : List TestCase) :
    (duplicateNames testCases).filterMap Warning.name? =
      (testCases.map TestCase.name).eraseDups.filter fun name => 1 < bearers testCases name := by
  rw [duplicateNames_eq, List.filterMap_map]
  exact List.filterMap_some

/-! ## Bearers beyond the first -/

section

variable {α : Type} [DecidableEq α]

/-- The items that are left when repetitions are dropped are as many as there are different
ones. -/
theorem length_eraseDups (items : List α) : items.eraseDups.length = items.toFinset.card := by
  have hsame : items.eraseDups.toFinset = items.toFinset := by
    ext item
    simp
  rw [← hsame, List.toFinset_card_of_nodup (nodup_eraseDups items)]

/-- The occurrences of the different items are all items. -/
theorem sum_count_eraseDups (items : List α) :
    (items.eraseDups.map fun item => items.count item).sum = items.length := by
  have hperm : items.eraseDups.Perm items.dedup := by
    rw [List.perm_ext_iff_of_nodup (nodup_eraseDups items) items.nodup_dedup]
    simp
  rw [(hperm.map _).sum_eq, List.sum_map_count_dedup_eq_length]

end

/-- If all of some names are borne, their bearers are the names together with the bearers of names
beyond the first one of each. -/
theorem sum_surplus_add_length {testCases : List TestCase} {names : List String}
    (h : ∀ name ∈ names, 0 < bearers testCases name) :
    ((names.filter fun name => 1 < bearers testCases name).map fun name =>
        bearers testCases name - 1).sum + names.length =
      (names.map fun name => bearers testCases name).sum := by
  induction names with
  | nil => rfl
  | cons name names ih =>
      have hname := h name List.mem_cons_self
      have hrest := ih fun other hmem => h other (List.mem_cons_of_mem _ hmem)
      by_cases hseveral : 1 < bearers testCases name
      · simp only [List.filter_cons, hseveral, decide_true, if_true, List.map_cons, List.sum_cons,
          List.length_cons]
        omega
      · simp only [List.filter_cons, hseveral, decide_false, Bool.false_eq_true, if_false,
          List.map_cons, List.sum_cons, List.length_cons]
        omega

/-- The bearers of names beyond the first one of each, together with the different names, are all
test cases. -/
theorem sum_surplus_duplicateNames (testCases : List TestCase) :
    ((duplicateNames testCases).map Warning.surplus).sum
        + (testCases.map TestCase.name).toFinset.card = testCases.length := by
  have hborne : ∀ name ∈ (testCases.map TestCase.name).eraseDups, 0 < bearers testCases name := by
    intro name hmem
    rw [bearers_eq_count, List.count_pos_iff]
    exact List.mem_eraseDups.mp hmem
  have hsum := sum_count_eraseDups (testCases.map TestCase.name)
  simp only [← bearers_eq_count, List.length_map] at hsum
  rw [← length_eraseDups, ← hsum, ← sum_surplus_add_length hborne, duplicateNames_eq, List.map_map]
  rfl

/-! ## All warnings -/

/-- The warnings on the names of some test cases tell exactly of the names that several of them
bear. -/
theorem duplicateNames_tellsRepetitions (testCases : List TestCase) :
    TellsRepetitions testCases (duplicateNames testCases) := by
  have hname : ∀ name, 2 ≤ bearers testCases name → name ∈ testCases.map TestCase.name := by
    intro name hborne
    rw [bearers_eq_count] at hborne
    exact List.count_pos_iff.mp (by omega)
  constructor
  case named =>
    intro warning hmem
    rw [duplicateNames_eq, List.mem_map] at hmem
    rcases hmem with ⟨name, -, rfl⟩
    exact ⟨name, rfl⟩
  case told =>
    intro name
    rw [← List.mem_filterMap, filterMap_name?_duplicateNames, List.mem_filter, List.mem_eraseDups,
      decide_eq_true_eq]
    exact ⟨fun h => h.2, fun h => ⟨hname name h, h⟩⟩
  case occurrences =>
    intro name occurrences hmem
    rw [duplicateNames_eq, List.mem_map] at hmem
    rcases hmem with ⟨name, -, heq⟩
    cases heq
    rfl
  case once =>
    rw [filterMap_name?_duplicateNames]
    exact (nodup_eraseDups _).filter _
  case ordered =>
    rw [filterMap_name?_duplicateNames]
    simp only [firstBearer_eq_idxOf]
    exact (pairwise_idxOf_eraseDups _).filter _
  case surplus => exact sum_surplus_duplicateNames testCases

end Casebook
