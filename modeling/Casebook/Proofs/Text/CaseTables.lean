import Casebook.Text.LetterCase

/-!
# Tables of letter case

The other form of a character comes from a table of long forms, from a table of ranges, or is the
character itself.  What holds of all other forms is checked on the tables, and on a whole range at
once where its image lies in one stretch.

Main definitions:

- {lit}`Text.rangesCover` and {lit}`Text.rangesAvoid`: an interval of code points lies in one of
  some ranges, or outside all of them.
- {lit}`Text.CaseRange.codes`: the code points of a range.
- {lit}`Text.CaseRange.formsAvoid`: the other forms of a range are kept clear of another range.

Main results:

- Theorems {lit}`Text.otherForm_cases` and {lit}`Text.forall_mem_otherForm`: where the other form of
  a character comes from, and how to show something of all its characters.
- Theorem {lit}`Text.otherForm_eq_self`: a character in neither table is its own other form.
- Theorems {lit}`Text.inRanges_of_rangesCover` and {lit}`Text.not_inRanges_of_rangesAvoid`: what an
  interval says about its characters.
- Theorem {lit}`Text.CaseRange.apply_le_apply`: a range keeps the order of its code points.
- Theorem {lit}`Text.CaseRange.not_covers_apply`: two ranges as a whole tell that the forms of the
  one are not covered by the other.
-/

namespace Casebook
namespace Text

/-! ## Intervals of code points -/

/-- All code points of an interval lie in one of the ranges. -/
def rangesCover (ranges : List CodeRange) (first last : Nat) : Bool :=
  ranges.any fun range => Nat.ble range.1 first && Nat.ble last range.2

/-- No code point of an interval lies in any of the ranges. -/
def rangesAvoid (ranges : List CodeRange) (first last : Nat) : Bool :=
  ranges.all fun range => Nat.blt last range.1 || Nat.blt range.2 first

/-- The range that covers an interval. -/
theorem rangesCover_eq_true_iff {ranges : List CodeRange} {first last : Nat} :
    rangesCover ranges first last = true ↔
      ∃ range ∈ ranges, range.1 ≤ first ∧ last ≤ range.2 := by
  simp [rangesCover]

/-- A character lies in the ranges that cover an interval around it. -/
theorem inRanges_of_rangesCover {ranges : List CodeRange} {first last : Nat} {c : Char}
    (hcover : rangesCover ranges first last = true) (hfirst : first ≤ c.toNat)
    (hlast : c.toNat ≤ last) : inRanges ranges c = true := by
  obtain ⟨range, hrange, hlow, hhigh⟩ := rangesCover_eq_true_iff.mp hcover
  have hc : range.1 ≤ c.toNat ∧ c.toNat ≤ range.2 := by omega
  simp only [inRanges, List.any_eq_true, Bool.and_eq_true, Nat.ble_eq]
  exact ⟨range, hrange, hc⟩

/-- A character lies in none of the ranges that avoid an interval around it. -/
theorem not_inRanges_of_rangesAvoid {ranges : List CodeRange} {first last : Nat} {c : Char}
    (havoid : rangesAvoid ranges first last = true) (hfirst : first ≤ c.toNat)
    (hlast : c.toNat ≤ last) : inRanges ranges c = false := by
  rw [inRanges, List.any_eq_false]
  intro range hrange
  have hside : last < range.1 ∨ range.2 < first := by
    simpa [Nat.blt_eq] using List.all_eq_true.mp havoid range hrange
  simp only [Bool.and_eq_true, Nat.ble_eq]
  omega

/-- A code point of an interval clear of the surrogates is that of a character. -/
theorem toNat_ofNat_of_valid {first last code : Nat}
    (hvalid : last < 0xD800 ∨ 0xDFFF < first ∧ last < 0x110000) (hfirst : first ≤ code)
    (hlast : code ≤ last) : (Char.ofNat code).toNat = code := by
  have hchar : code.isValidChar := by
    unfold Nat.isValidChar
    omega
  rw [Char.ofNat, dif_pos hchar]
  rfl

/-! ## Ranges with another form -/

namespace CaseRange

/-- The code points of a range. -/
def codes (range : CaseRange) : List Nat :=
  List.range' range.first ((range.last - range.first) / range.step + 1) range.step

variable {range other : CaseRange} {code : Nat}

/-- A range covers code points between its first and its last one. -/
theorem bounds_of_covers (h : range.covers code = true) :
    range.first ≤ code ∧ code ≤ range.last := by
  simp only [covers, Bool.and_eq_true, Nat.ble_eq] at h
  exact h.1

/-- The code points of a range lie whole steps after its first one. -/
theorem step_dvd_of_covers (h : range.covers code = true) : range.step ∣ code - range.first := by
  simp only [covers, Bool.and_eq_true, beq_iff_eq] at h
  exact Nat.dvd_of_mod_eq_zero h.2

/-- A range covers no code points but its own. -/
theorem mem_codes_of_covers (h : range.covers code = true) : code ∈ range.codes := by
  obtain ⟨hfirst, hlast⟩ := bounds_of_covers h
  have hmod := Nat.mod_eq_zero_of_dvd (step_dvd_of_covers h)
  have hstep := Nat.div_add_mod (code - range.first) range.step
  have hle : (code - range.first) / range.step ≤ (range.last - range.first) / range.step :=
    Nat.div_le_div_right (by omega)
  rw [codes, List.mem_range']
  exact ⟨(code - range.first) / range.step, by omega, by omega⟩

/-- A range keeps the order of its code points. -/
theorem apply_le_apply (range : CaseRange) {a b : Nat} (h : a ≤ b) :
    range.apply a ≤ range.apply b := by
  unfold apply
  omega

/-- A range that reaches no number below zero moves all its code points by the same distance. -/
theorem apply_eq_add (hstart : 0 ≤ (range.first : Int) + range.offset)
    (hfirst : range.first ≤ code) :
    range.apply code = range.apply range.first + (code - range.first) := by
  unfold apply
  omega

/-- The other forms of a range lie before another range, after it, or between its code points. -/
def formsAvoid (range other : CaseRange) : Bool :=
  Nat.blt (range.apply range.last) other.first ||
    Nat.blt other.last (range.apply range.first) ||
    ((range.step % other.step == 0 || range.first == range.last) &&
      range.apply range.first % other.step != other.first % other.step)

/-- What it is for the other forms of a range to avoid another range. -/
theorem formsAvoid_eq_true_iff :
    range.formsAvoid other = true ↔
      range.apply range.last < other.first ∨ other.last < range.apply range.first ∨
        (other.step ∣ range.step ∨ range.first = range.last) ∧
          range.apply range.first % other.step ≠ other.first % other.step := by
  simp [formsAvoid, Nat.blt_eq, Nat.dvd_iff_mod_eq_zero, or_assoc]

/-- A range covers no other form of a range whose forms avoid it. -/
theorem not_covers_apply (hstart : 0 ≤ (range.first : Int) + range.offset)
    (havoid : range.formsAvoid other = true) (hcovers : range.covers code = true) :
    other.covers (range.apply code) = false := by
  rw [Bool.eq_false_iff]
  intro hother
  obtain ⟨hfirst, hlast⟩ := bounds_of_covers hcovers
  obtain ⟨hotherFirst, hotherLast⟩ := bounds_of_covers hother
  have hlow := range.apply_le_apply hfirst
  have hhigh := range.apply_le_apply hlast
  rcases formsAvoid_eq_true_iff.mp havoid with hbefore | hafter | ⟨hstep, hbetween⟩
  · omega
  · omega
  · -- the form lies whole steps of the other range after the first form and after its first code
    have hdvd : other.step ∣ code - range.first := by
      rcases hstep with hstep | hsingle
      · exact Nat.dvd_trans hstep (step_dvd_of_covers hcovers)
      · rw [show code - range.first = 0 by omega]
        exact Nat.dvd_zero _
    obtain ⟨m, hm⟩ := hdvd
    obtain ⟨n, hn⟩ := step_dvd_of_covers hother
    have hmove := apply_eq_add hstart hfirst
    have hsame : range.apply range.first + other.step * m = other.first + other.step * n := by
      omega
    apply hbetween
    calc range.apply range.first % other.step
        = (range.apply range.first + other.step * m) % other.step :=
          (Nat.add_mul_mod_self_left _ _ _).symm
      _ = (other.first + other.step * n) % other.step := by rw [hsame]
      _ = other.first % other.step := Nat.add_mul_mod_self_left _ _ _

end CaseRange

/-! ## Other forms -/

/-- The other form of a character is a long form, comes from a range, or is the character. -/
theorem otherForm_cases (expansions : List (Nat × List Nat)) (ranges : List CaseRange) (c : Char) :
    (∃ entry ∈ expansions, entry.1 = c.toNat ∧
      otherForm expansions ranges c = entry.2.map Char.ofNat) ∨
    (∃ range ∈ ranges, range.covers c.toNat = true ∧
      otherForm expansions ranges c = [Char.ofNat (range.apply c.toNat)]) ∨
    otherForm expansions ranges c = [c] := by
  unfold otherForm
  cases hlookup : expansions.lookup c.toNat with
  | some codes =>
      obtain ⟨before, after, hsplit, -⟩ := List.lookup_eq_some_iff.mp hlookup
      exact .inl ⟨(c.toNat, codes), by simp [hsplit], rfl, rfl⟩
  | none =>
      cases hfind : ranges.find? fun range => range.covers c.toNat with
      | some range =>
          have hcovers := List.find?_some hfind
          exact .inr (.inl ⟨range, List.mem_of_find?_eq_some hfind, hcovers, rfl⟩)
      | none => exact .inr (.inr rfl)

/-- What holds of the long forms, of the forms from ranges, and of a character that is its own other
form, holds of all characters of other forms. -/
theorem forall_mem_otherForm {expansions : List (Nat × List Nat)} {ranges : List CaseRange}
    {c : Char} {P : Char → Prop}
    (hexpansions : ∀ entry ∈ expansions, entry.1 = c.toNat →
      ∀ code ∈ entry.2, P (Char.ofNat code))
    (hranges : ∀ range ∈ ranges, range.covers c.toNat = true →
      P (Char.ofNat (range.apply c.toNat)))
    (hself : otherForm expansions ranges c = [c] → P c) :
    ∀ d ∈ otherForm expansions ranges c, P d := by
  intro d hd
  rcases otherForm_cases expansions ranges c with
    ⟨entry, hentry, hcode, hform⟩ | ⟨range, hrange, hcovers, hform⟩ | hform
  · rw [hform, List.mem_map] at hd
    obtain ⟨code, hmem, rfl⟩ := hd
    exact hexpansions entry hentry hcode code hmem
  · rw [hform, List.mem_singleton] at hd
    rw [hd]
    exact hranges range hrange hcovers
  · rw [hform, List.mem_singleton] at hd
    rw [hd]
    exact hself hform

/-- A character that is in neither table is its own other form. -/
theorem otherForm_eq_self {expansions : List (Nat × List Nat)} {ranges : List CaseRange} {c : Char}
    (hexpansions : ∀ entry ∈ expansions, entry.1 ≠ c.toNat)
    (hranges : ∀ range ∈ ranges, range.covers c.toNat = false) :
    otherForm expansions ranges c = [c] := by
  have hlookup : expansions.lookup c.toNat = none := by
    rw [List.lookup_eq_none_iff]
    intro entry hentry
    exact bne_iff_ne.mpr (hexpansions entry hentry).symm
  have hfind : ranges.find? (fun range => range.covers c.toNat) = none := by
    rw [List.find?_eq_none]
    intro range hrange
    exact Bool.eq_false_iff.mp (hranges range hrange)
  rw [otherForm, hlookup, hfind]

end Text
end Casebook
