import Casebook.Proofs.Json.WrittenOrder

/-!
# Typed values mirror what they are made from

A value that announces no failing call is typed part by part.  Either one of its numbers is out of
range, and then the first one in the order in which the value is written is the culprit; or the
typed value has something at the same locations as the value, of the same form at each of them.

Main definitions:

- {lit}`Json.FirstOutOfRange`: the first number of a value that is out of range.
- {lit}`Json.SameForm`: a typed value has the form of a value, whatever stands inside.
- {lit}`Json.MirroredBy`: a typed value has the form of a value at every location.

Main results:

- Theorem {lit}`Json.head?_excess_eq_some_iff`: the first fault in a value is its first number out
  of range.
- Theorem {lit}`Json.Counterpart.mirroredBy`: a counterpart mirrors its value.
- Theorem {lit}`classify_mirrors`: a value fails to be typed at its first number out of range, and
  is mirrored by what it is typed as otherwise.
-/

namespace Casebook
namespace Json

/-! ## The first number out of range -/

/-- A number of a value is out of range, and it is written before all others that are. -/
structure FirstOutOfRange (raw : Json) (location : Location) (n : Numeral) : Prop where
  found : raw.at? location = some (.number n)
  excessive : ¬ n.InRange
  first : ∀ other m, raw.at? other = some (.number m) → ¬ m.InRange → other ≠ location →
    raw.Precedes location other

/-- The faults in a value are its numbers out of range, with their locations inside it. -/
theorem excess_eq_map (here : Location) (raw : Json) :
    raw.excess here = ((raw.numbers .root).filter fun entry => entry.2.value?.isNone).map
      fun entry => .outOfRange (here ++ entry.1) entry.2 := by
  have hmoved := numbers_append here .root raw
  rw [Location.root, List.append_nil] at hmoved
  rw [excess, hmoved, List.filterMap_map, ← List.filterMap_eq_filter, List.map_filterMap]
  congr 1
  funext entry
  cases entry.2.value?.isNone <;> simp [Option.guard]

/-- The numbers out of range that are listed are those that stand in the value. -/
theorem mem_filter_numbers_iff {raw : Json} (hkeys : raw.DistinctKeys) (location : Location)
    (n : Numeral) :
    (location, n) ∈ ((raw.numbers .root).filter fun entry => entry.2.value?.isNone) ↔
      raw.at? location = some (.number n) ∧ ¬ n.InRange := by
  rw [List.mem_filter, mem_numbers_iff hkeys, Option.isNone_iff_eq_none, n.value?_eq_none_iff]

/-- The first fault in a value is its first number out of range. -/
theorem head?_excess_eq_some_iff {raw : Json} (hkeys : raw.DistinctKeys) (here : Location)
    (fault : ValueFault) :
    (raw.excess here).head? = some fault ↔
      ∃ location n, fault = .outOfRange (here ++ location) n ∧ raw.FirstOutOfRange location n := by
  have hordered : ((raw.numbers .root).filter fun entry => entry.2.value?.isNone).Pairwise
      fun a b => raw.Precedes a.1 b.1 :=
    (pairwise_numbers raw hkeys).filter _
  have hfirst := head?_eq_some_iff_of_pairwise hordered fun a b => Precedes.asymm
  rw [excess_eq_map, List.head?_map, Option.map_eq_some_iff]
  constructor
  · intro h
    obtain ⟨⟨location, n⟩, hhead, hfault⟩ := h
    obtain ⟨hmem, hbefore⟩ := (hfirst _).mp hhead
    obtain ⟨hfound, hrange⟩ := (mem_filter_numbers_iff hkeys location n).mp hmem
    refine ⟨location, n, hfault.symm, hfound, hrange, fun other m hother hm hne => ?_⟩
    refine hbefore (other, m) ((mem_filter_numbers_iff hkeys other m).mpr ⟨hother, hm⟩) ?_
    exact fun hsame => hne (congrArg Prod.fst hsame)
  · intro h
    obtain ⟨location, n, hfault, hnumber⟩ := h
    refine ⟨(location, n), (hfirst _).mpr ⟨?_, ?_⟩, hfault.symm⟩
    · exact (mem_filter_numbers_iff hkeys location n).mpr ⟨hnumber.found, hnumber.excessive⟩
    · intro entry hmem hne
      obtain ⟨hother, hm⟩ := (mem_filter_numbers_iff hkeys entry.1 entry.2).mp hmem
      refine hnumber.first entry.1 entry.2 hother hm fun hsame => hne ?_
      rw [hsame, hnumber.found, Option.some.injEq, number.injEq] at hother
      exact Prod.ext hsame hother.symm

/-- A value has a fault exactly if one of its numbers is out of range. -/
theorem exists_head?_excess_iff {raw : Json} (hkeys : raw.DistinctKeys) (here : Location) :
    (∃ fault, (raw.excess here).head? = some fault) ↔
      ∃ location n, raw.at? location = some (.number n) ∧ ¬ n.InRange := by
  rw [← Option.isSome_iff_exists, List.isSome_head?, excess_eq_map, ne_eq, List.map_eq_nil_iff,
    List.eq_nil_iff_forall_not_mem, not_forall_not, Prod.exists]
  simp only [mem_filter_numbers_iff hkeys]

/-! ## The form of a value -/

/-- A typed value has the form of a value: scalars are the same, numbers are integers or doubles as
they are written, arrays have as many items, and maps have the same keys in the same order.  Putting
the entries of such a map into a table one after another merges none of them and moves none. -/
inductive SameForm : Json → Value → Prop
  | null : SameForm .null .null
  | bool (b : Bool) : SameForm (.bool b) (.bool b)
  | int {n : Numeral} (h : n.isInteger = true) : SameForm (.number n) (.int n.toInt)
  | double {n : Numeral} {d : Double} (h : n.isInteger = false)
      (hd : Double.ofNumeral? n = some d) : SameForm (.number n) (.double d)
  | string (s : String) : SameForm (.string s) (.string s)
  | array {items : List Json} {values : List Value} (h : items.length = values.length) :
      SameForm (.array items) (.array values)
  | object {fields : List (String × Json)} {entries : List (String × Value)}
      (h : fields.map Prod.fst = entries.map Prod.fst)
      (hkept : (Table.ofList entries).entries = entries) : SameForm (.object fields) (.map entries)

/-- A typed value has something at the same locations as a value, and of the same form at each. -/
structure MirroredBy (raw : Json) (value : Value) : Prop where
  locations : ∀ location, (value.at? location).isSome = (raw.at? location).isSome
  forms : ∀ location inner typed, raw.at? location = some inner →
    value.at? location = some typed → inner.SameForm typed

/-- The typed value of a number has its form. -/
theorem sameForm_of_value? {n : Numeral} {value : Value} (h : n.value? = some value) :
    SameForm (.number n) value := by
  unfold Numeral.value? at h
  by_cases hinteger : n.isInteger = true
  · rw [if_pos hinteger] at h
    split at h
    · cases h
      exact .int hinteger
    · contradiction
  · rw [if_neg hinteger, Option.map_eq_some_iff] at h
    obtain ⟨d, hd, rfl⟩ := h
    exact .double (Bool.eq_false_iff.mpr hinteger) hd

/-- A counterpart has the form of its value. -/
theorem Counterpart.sameForm {raw : Json} {value : Value} (h : Counterpart raw value)
    (hkeys : raw.DistinctKeys) : raw.SameForm value := by
  cases h with
  | null => exact .null
  | bool b => exact .bool b
  | number hvalue => exact sameForm_of_value? hvalue
  | string s => exact .string s
  | array hitems => exact .array hitems.length_eq
  | object hnames _ =>
      have hdistinct := hkeys.1
      rw [hnames] at hdistinct
      exact .object hnames (Table.entries_ofList hdistinct)

/-- A counterpart mirrors its value. -/
theorem Counterpart.mirroredBy {raw : Json} {value : Value} (h : Counterpart raw value)
    (hkeys : raw.DistinctKeys) : raw.MirroredBy value := by
  constructor
  case locations =>
    intro location
    have hrel := h.rel_at? location
    generalize raw.at? location = inner? at hrel
    generalize value.at? location = typed? at hrel
    cases hrel <;> rfl
  case forms =>
    intro location inner typed hinner htyped
    have hrel := h.rel_at? location
    rw [hinner, htyped] at hrel
    cases hrel with
    | some hcounterpart => exact hcounterpart.sameForm (hkeys.at? hinner)

end Json

/-- A value that announces no failing call fails to be typed exactly if one of its numbers is out of
range, and the first of these is the culprit; otherwise it is mirrored by what it is typed as.  No
object may repeat a key, which none does in a value that a text denotes. -/
theorem classify_mirrors {raw : Json} (hkeys : raw.DistinctKeys) (hcall : ¬ raw.AnnouncesFailure)
    (role : Role) (here : Location) :
    ((∃ fault, raw.classify role here = .error fault) ↔
        ∃ location n, raw.at? location = some (.number n) ∧ ¬ n.InRange) ∧
      (∀ fault, raw.classify role here = .error fault ↔
        ∃ location n, fault = .outOfRange (here ++ location) n ∧ raw.FirstOutOfRange location n) ∧
      ∀ value, raw.classify role here = .ok value → raw.MirroredBy value := by
  have hnested : raw.classify role here = raw.classifyNested here := by
    rw [Json.announcesFailure_iff, Bool.not_eq_true, Option.isSome_eq_false_iff,
      Option.isNone_iff_eq_none] at hcall
    rw [Json.classify, hcall]
  have hstops := raw.stopsAtFirst_classifyNested here
  rw [hnested]
  refine ⟨?_, ?_, ?_⟩
  · simp only [hstops.error_iff]
    exact Json.exists_head?_excess_iff hkeys here
  · intro fault
    rw [hstops.error_iff]
    exact Json.head?_excess_eq_some_iff hkeys here fault
  · intro value hvalue
    have hcounterpart := (Json.classifyNested_eq_ok_iff here raw value).mp hvalue
    exact hcounterpart.mirroredBy hkeys

/-- A value with an object inside that looks like the announcement of a failing call and holds a
number out of range, and with another such number in a later field. -/
def crowdedValue : Json :=
  .object [
    ("steps", .array [
      .number (.ofInt 1), .number (.ofInt 1),
      .object [("error", .string "overflow"), ("n", .number (.ofInt 9223372036854775808))]]),
    ("error", .null),
    ("limit", .number (.ofInt (-9223372036854775809)))]

/-- The number inside is the culprit, for its field comes first. -/
theorem classify_mirrors_crowded :
    crowdedValue.DistinctKeys ∧ ¬ crowdedValue.AnnouncesFailure ∧
      crowdedValue.classify .expected [.key "expected"] = .error (.outOfRange
        [.key "expected", .key "steps", .index 2, .key "n"] (.ofInt 9223372036854775808)) ∧
      crowdedValue.FirstOutOfRange [.key "steps", .index 2, .key "n"]
        (.ofInt 9223372036854775808) := by
  have hkeys : crowdedValue.DistinctKeys := by decide
  have hcall : ¬ crowdedValue.AnnouncesFailure := by
    rw [Json.announcesFailure_iff]
    decide
  have herror : crowdedValue.classify .expected [.key "expected"] = .error (.outOfRange
      [.key "expected", .key "steps", .index 2, .key "n"] (.ofInt 9223372036854775808)) := rfl
  have h := classify_mirrors hkeys hcall .expected [.key "expected"]
  obtain ⟨location, n, hsame, hfirst⟩ := (h.2.1 _).mp herror
  rw [ValueFault.outOfRange.injEq] at hsame
  obtain ⟨hlocation, hn⟩ := hsame
  rw [List.singleton_append, List.cons.injEq] at hlocation
  rw [← hlocation.2, ← hn] at hfirst
  exact ⟨hkeys, hcall, herror, hfirst⟩

end Casebook
