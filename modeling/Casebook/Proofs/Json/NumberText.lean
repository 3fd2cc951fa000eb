import Casebook.Proofs.Json.Lexing

/-!
# The texts of numbers

The number grammar of JSON, told by what a text spells instead of how it is read: a minus sign where
the number has one, the digits before the point, the point with the digits after it where there are
any, and the exponent.  The mark of an exponent may be a capital letter, and its sign may be left
out if it is a plus; nothing else about a text is lost in the numeral that is read from it.

Main definitions:

- {lit}`Numeral.SpelledBy`: a text spells a numeral.
- {lit}`Json.IntegerForm`: a text has neither a point nor the mark of an exponent.

Main results:

- Theorem {lit}`Json.numeral?_eq_some_iff`: the texts that are read as a numeral are those that
  spell it.
- Theorem {lit}`Numeral.SpelledBy.integerForm_iff`: which of them spell an integer can be seen from
  their characters.
- Theorem {lit}`Numeral.SpelledBy.text_eq`: a numeral without exponent keeps its text.
-/

namespace Casebook

/-! ## Spelling -/

/-- A text spells the exponent of a number, if it has one. -/
inductive Exponent.Spells : Option Exponent → List Char → Prop
  | absent : Spells none []
  | minus {mark : Char} {ds : List Digit} (hmark : mark = 'e' ∨ mark = 'E') :
      Spells (some ⟨true, ds⟩) (mark :: '-' :: Digit.chars ds)
  | plus {mark : Char} {ds : List Digit} (hmark : mark = 'e' ∨ mark = 'E') :
      Spells (some ⟨false, ds⟩) (mark :: '+' :: Digit.chars ds)
  | bare {mark : Char} {ds : List Digit} (hmark : mark = 'e' ∨ mark = 'E') :
      Spells (some ⟨false, ds⟩) (mark :: Digit.chars ds)

/-- A text spells a numeral. -/
def Numeral.SpelledBy (n : Numeral) (text : String) : Prop :=
  ∃ tail, Exponent.Spells n.exponent tail ∧
    text.toList = (if n.negative then ['-'] else []) ++ (Digit.chars n.whole
      ++ (Json.Token.fractionChars n.fraction ++ tail))

/-- A text has neither a point nor the mark of an exponent. -/
def Json.IntegerForm (text : String) : Prop :=
  ∀ c ∈ text.toList, c ≠ '.' ∧ c ≠ 'e' ∧ c ≠ 'E'

/-! ## What is read is spelled -/

/-- The character of a digit. -/
theorem Digit.toChar_eq_of_ofChar? {c : Char} {d : Digit} (h : ofChar? c = some d) :
    d.toChar = c := by
  unfold ofChar? at h
  split at h
  · rename_i hrange
    cases h
    have hcode : '0'.toNat + (c.toNat - '0'.toNat) = c.toNat := by omega
    simp only [toChar, hcode]
    exact Char.ofNat_toNat c
  · contradiction

namespace Json
namespace Token

/-- Digits that are split off were written at the beginning. -/
theorem eq_of_digits {s rest : List Char} {ds : List Digit} (h : digits s = (ds, rest)) :
    s = Digit.chars ds ++ rest := by
  induction s generalizing ds with
  | nil =>
      cases h
      rfl
  | cons c s ih =>
      rw [digits] at h
      split at h
      · cases h
        rfl
      · rename_i d hd
        cases h
        have hrest := ih rfl
        rw [Digit.chars, List.map_cons, Digit.toChar_eq_of_ofChar? hd, List.cons_append]
        exact congrArg (c :: ·) hrest

/-- Digits before the point that are read were written at the beginning. -/
theorem eq_of_whole? {s rest : List Char} {ds : List Digit} (h : whole? s = some (ds, rest)) :
    s = Digit.chars ds ++ rest ∧ ds ≠ [] ∧
      (ds.head? = some Digit.zero → ds = [Digit.zero]) := by
  rw [whole?] at h
  split at h
  · contradiction
  · rename_i d later after hdigits
    split at h
    · contradiction
    · rename_i hleading
      cases h
      refine ⟨eq_of_digits hdigits, by simp, fun hhead => ?_⟩
      rw [List.head?_cons, Option.some.injEq] at hhead
      have hlater : later = [] := by
        by_contra hne
        exact hleading ⟨hhead, hne⟩
      rw [hhead, hlater]

/-- A fraction that is read was written at the beginning. -/
theorem eq_of_fraction? {s rest : List Char} {fraction : Option (List Digit)}
    (h : fraction? s = some (fraction, rest)) :
    s = fractionChars fraction ++ rest ∧ fraction ≠ some [] := by
  unfold fraction? at h
  split at h
  · split at h
    · contradiction
    · rename_i hne hdigits
      cases h
      refine ⟨congrArg ('.' :: ·) (eq_of_digits hdigits), fun hempty => ?_⟩
      exact hne (Option.some.inj hempty)
  · cases h
    exact ⟨rfl, by simp⟩

/-- What stands behind the sign of an exponent that is read was spelled. -/
theorem spells_of_exponentSign {mark : Char} (hmark : mark = 'e' ∨ mark = 'E') {s rest : List Char}
    {ds : List Digit} (h : (exponentSign s).2 = Digit.chars ds ++ rest) :
    ∃ spelled, mark :: s = spelled ++ rest ∧
      Exponent.Spells (some ⟨(exponentSign s).1, ds⟩) spelled := by
  unfold exponentSign at h ⊢
  split at h
  · exact ⟨mark :: '-' :: Digit.chars ds, by simpa using h, .minus hmark⟩
  · exact ⟨mark :: '+' :: Digit.chars ds, by simpa using h, .plus hmark⟩
  · exact ⟨mark :: Digit.chars ds, by simpa using h, .bare hmark⟩

/-- An exponent that is read was spelled at the beginning. -/
theorem exists_spells_of_exponent? {s rest : List Char} {exponent : Option Exponent}
    (h : exponent? s = some (exponent, rest)) :
    (∃ spelled, s = spelled ++ rest ∧ Exponent.Spells exponent spelled) ∧
      ∀ e, exponent = some e → e.digits ≠ [] := by
  unfold exponent? at h
  split at h
  · cases h
    exact ⟨⟨[], rfl, .absent⟩, by simp⟩
  · rename_i c s
    split at h
    · rename_i hmark
      split at h
      · contradiction
      · rename_i hne hdigits
        cases h
        refine ⟨spells_of_exponentSign hmark (eq_of_digits hdigits), fun e he => ?_⟩
        cases he
        exact hne
    · cases h
      exact ⟨⟨[], rfl, .absent⟩, by simp⟩

/-! ## What is spelled is read -/

/-- The sign of an exponent may be left out before digits. -/
theorem exponentSign_digits {ds : List Digit} (hne : ds ≠ []) :
    exponentSign (Digit.chars ds) = (false, Digit.chars ds) := by
  have hsign : ∀ d : Digit, d.toChar ≠ '-' ∧ d.toChar ≠ '+' := by decide
  cases ds with
  | nil => contradiction
  | cons d ds =>
      rw [Digit.chars, List.map_cons, exponentSign.eq_def]
      split
      · next rest hminus => exact ((hsign d).1 (List.cons.inj hminus).1).elim
      · next rest hplus => exact ((hsign d).2 (List.cons.inj hplus).1).elim
      · rfl

/-- An exponent that is spelled to the end is read. -/
theorem exponent?_of_spells {exponent : Option Exponent} {spelled : List Char}
    (h : Exponent.Spells exponent spelled) (hne : ∀ e, exponent = some e → e.digits ≠ []) :
    exponent? spelled = some (exponent, []) := by
  have hdigits : ∀ ds, digits (Digit.chars ds) = (ds, []) := by
    intro ds
    have hstops : StopsDigits [] := by simp [StopsDigits]
    simpa using digits_chars ds hstops
  cases h with
  | absent => rfl
  | @minus mark ds hmark =>
      have hds : ds ≠ [] := hne _ rfl
      cases ds with
      | nil => contradiction
      | cons d ds => simp [exponent?, hmark, exponentSign, hdigits]
  | @plus mark ds hmark =>
      have hds : ds ≠ [] := hne _ rfl
      cases ds with
      | nil => contradiction
      | cons d ds => simp [exponent?, hmark, exponentSign, hdigits]
  | @bare mark ds hmark =>
      have hds : ds ≠ [] := hne _ rfl
      cases ds with
      | nil => contradiction
      | cons d ds => simp [exponent?, hmark, exponentSign_digits hds, hdigits]

/-- The spelling of an exponent stands after what it can follow. -/
theorem stopsFraction_of_spells {exponent : Option Exponent} {spelled : List Char}
    (h : Exponent.Spells exponent spelled) : StopsFraction spelled := by
  have hmarks : ∀ mark, mark = 'e' ∨ mark = 'E' → Digit.ofChar? mark = none ∧ mark ≠ '.' := by
    intro mark hmark
    cases hmark with
    | inl h => subst h; decide
    | inr h => subst h; decide
  cases h with
  | absent => simp [StopsFraction]
  | minus hmark => simpa [StopsFraction] using hmarks _ hmark
  | plus hmark => simpa [StopsFraction] using hmarks _ hmark
  | bare hmark => simpa [StopsFraction] using hmarks _ hmark

/-- What is read after the sign of a number was spelled at the beginning, by the grammar. -/
theorem eq_of_magnitude? {negative : Bool} {s rest : List Char} {n : Numeral}
    (h : magnitude? negative s = some (n, rest)) :
    n.WellFormed ∧ n.negative = negative ∧ ∃ tail, Exponent.Spells n.exponent tail ∧
      s = Digit.chars n.whole ++ (fractionChars n.fraction ++ (tail ++ rest)) := by
  simp only [magnitude?, bind, Option.bind_eq_some_iff] at h
  obtain ⟨⟨whole, s₁⟩, hwhole, ⟨fraction, s₂⟩, hfraction, ⟨exponent, s₃⟩, hexponent, h⟩ := h
  cases h
  obtain ⟨hstart, hne, hleading⟩ := eq_of_whole? hwhole
  obtain ⟨hmiddle, hsome⟩ := eq_of_fraction? hfraction
  obtain ⟨⟨tail, htail, hspells⟩, hdigits⟩ := exists_spells_of_exponent? hexponent
  refine ⟨⟨hne, hleading, hsome, hdigits⟩, rfl, tail, hspells, ?_⟩
  simp only at hmiddle htail
  rw [hstart, hmiddle, htail]

/-- What is spelled by the grammar after the sign of a number is read. -/
theorem magnitude?_of_spells {n : Numeral} (hn : n.WellFormed) {tail : List Char}
    (h : Exponent.Spells n.exponent tail) :
    magnitude? n.negative (Digit.chars n.whole ++ (fractionChars n.fraction ++ tail)) =
      some (n, []) := by
  have hfraction := stopsFraction_of_spells h
  have hwhole := stopsDigits_fractionChars n.fraction hfraction
  simp [magnitude?, whole?_chars hn.whole hn.leading hwhole,
    fraction?_fractionChars hn.fraction hfraction, exponent?_of_spells h hn.exponent]

end Token

/-! ## Texts that are read -/

/-- The texts that are read as a numeral are those that spell it. -/
theorem numeral?_eq_some_iff (text : String) (n : Numeral) :
    numeral? text = some n ↔ n.WellFormed ∧ n.SpelledBy text := by
  constructor
  · intro h
    unfold numeral? at h
    split at h
    · rename_i found hread
      cases h
      unfold Token.number? at hread
      split at hread
      · rename_i rest htext
        obtain ⟨hn, hsign, tail, hspells, hrest⟩ := Token.eq_of_magnitude? hread
        refine ⟨hn, tail, hspells, ?_⟩
        rw [htext, hsign, hrest]
        simp
      · obtain ⟨hn, hsign, tail, hspells, hrest⟩ := Token.eq_of_magnitude? hread
        refine ⟨hn, tail, hspells, ?_⟩
        rw [hsign, hrest]
        simp
    · contradiction
  · intro h
    obtain ⟨hn, tail, hspells, htext⟩ := h
    have hread := Token.magnitude?_of_spells hn hspells
    have hnumber : Token.number? text.toList = some (n, []) := by
      rw [htext]
      cases hnegative : n.negative with
      | true =>
          rw [hnegative] at hread
          exact hread
      | false =>
          rw [hnegative] at hread
          cases hwhole : n.whole with
          | nil => exact (hn.whole hwhole).elim
          | cons d ds =>
              rw [hwhole] at hread
              exact (Token.number?_toChar d _).trans hread
    rw [numeral?, hnumber]

end Json

/-! ## What can be seen of a spelling -/

/-- No character of a digit is a point or the mark of an exponent. -/
theorem Digit.ne_of_mem_chars {ds : List Digit} :
    ∀ c ∈ chars ds, c ≠ '.' ∧ c ≠ 'e' ∧ c ≠ 'E' := by
  have hdigit : ∀ d : Digit, d.toChar ≠ '.' ∧ d.toChar ≠ 'e' ∧ d.toChar ≠ 'E' := by decide
  intro c hc
  obtain ⟨d, -, rfl⟩ := List.mem_map.mp hc
  exact hdigit d

namespace Numeral

/-- A numeral that is spelled by an integer form is an integer, and the other way round. -/
theorem SpelledBy.integerForm_iff {n : Numeral} {text : String} (h : n.SpelledBy text) :
    Json.IntegerForm text ↔ n.isInteger = true := by
  obtain ⟨tail, hspells, htext⟩ := h
  unfold Json.IntegerForm
  rw [htext, isInteger, Bool.and_eq_true, Option.isNone_iff_eq_none, Option.isNone_iff_eq_none]
  constructor
  · intro hform
    constructor
    · by_contra hfraction
      obtain ⟨ds, hds⟩ := Option.ne_none_iff_exists'.mp hfraction
      exact (hform '.' (by simp [hds, Json.Token.fractionChars])).1 rfl
    · have htail : ∀ c ∈ tail, c ≠ 'e' ∧ c ≠ 'E' := fun c hc => (hform c (by simp [hc])).2
      generalize n.exponent = exponent at hspells ⊢
      cases hspells with
      | absent => rfl
      | minus hmark => exact absurd hmark (not_or.mpr (htail _ List.mem_cons_self))
      | plus hmark => exact absurd hmark (not_or.mpr (htail _ List.mem_cons_self))
      | bare hmark => exact absurd hmark (not_or.mpr (htail _ List.mem_cons_self))
  · intro hinteger c hc
    rw [hinteger.2] at hspells
    cases hspells
    rw [hinteger.1, List.mem_append] at hc
    cases hc with
    | inl hsign =>
        split at hsign
        · rw [List.mem_singleton] at hsign
          subst hsign
          decide
        · contradiction
    | inr hdigits =>
        apply Digit.ne_of_mem_chars c
        simpa [Json.Token.fractionChars] using hdigits

/-- A numeral without exponent keeps its text. -/
theorem SpelledBy.text_eq {n : Numeral} {text : String} (h : n.SpelledBy text)
    (hexponent : n.exponent = none) : n.text = text := by
  obtain ⟨tail, hspells, htext⟩ := h
  rw [hexponent] at hspells
  cases hspells
  have hchars := Json.Token.chars_append n []
  rw [hexponent, List.append_nil] at hchars
  apply String.toList_inj.mp
  rw [Numeral.text, String.toList_ofList, hchars, htext]
  simp [Json.Token.exponentChars]

end Numeral
end Casebook
