import Casebook.Location
import Casebook.Proofs.Json.Lexing
import Casebook.Proofs.Text.Quoted

/-!
# Written locations

Each step of a written location tells where it ends: a plain key ends before the next point or
bracket, an index at its closing bracket, and a quoted key at its closing mark.  A key is therefore
never taken for other steps, whatever characters it is made of, and different locations are written
differently.

Main results:

- Theorem {lit}`Step.chars_append_inj`: a step at the beginning of written steps is determined by
  them, and so are the steps that follow it.
- Theorem {lit}`Location.text_inj`: locations with the same written form are equal.
-/

namespace Casebook

namespace Digit

/-- Different numbers have different digits. -/
theorem ofNat_injective {m n : Nat} (h : ofNat m = ofNat n) : m = n := by
  rw [← value_ofNat m, h, value_ofNat]

/-- A written number does not begin with a quotation mark. -/
theorem charsOfNat_append_ne_quote (n : Nat) (rest tail : List Char) :
    charsOfNat n ++ rest ≠ '"' :: tail := by
  have hdigit : ∀ d : Digit, d.toChar ≠ '"' := by decide
  intro h
  cases hdigits : ofNat n with
  | nil => exact ofNat_ne_nil n hdigits
  | cons d ds =>
      rw [charsOfNat, hdigits] at h
      exact hdigit d (List.cons.inj h).1

end Digit

namespace Step

/-! ## Where steps begin and end -/

/-- Nothing follows, or a step does. -/
def StartsStep (s : List Char) : Prop :=
  ∀ c ∈ s.head?, c = '.' ∨ c = '['

/-- A plain key follows a point. -/
theorem chars_of_plain {name : String} (h : isPlain name = true) :
    (key name).chars = '.' :: name.toList := by
  rw [chars, if_pos h]

/-- Any other key stands between quotation marks in brackets. -/
theorem chars_of_not_plain {name : String} (h : ¬ isPlain name = true) :
    (key name).chars = '[' :: Text.quotedChars name ++ [']'] := by
  rw [chars, if_neg h]

/-- A step is written with a character at least. -/
theorem chars_append_ne_nil (step : Step) (rest : List Char) : step.chars ++ rest ≠ [] := by
  cases step with
  | key name =>
      by_cases hname : isPlain name = true
      · simp [chars_of_plain hname]
      · simp [chars_of_not_plain hname]
  | index i => simp [chars]

/-- Written steps begin with a step. -/
theorem startsStep_flatMap_chars (steps : List Step) : StartsStep (steps.flatMap chars) := by
  cases steps with
  | nil => simp [StartsStep]
  | cons step steps =>
      intro c hc
      rw [List.flatMap_cons] at hc
      cases step with
      | key name =>
          by_cases hname : isPlain name = true
          · rw [chars_of_plain hname] at hc
            cases hc
            exact Or.inl rfl
          · rw [chars_of_not_plain hname] at hc
            cases hc
            exact Or.inr rfl
      | index i =>
          cases hc
          exact Or.inr rfl

/-- The characters of a plain key end where the next step begins. -/
theorem takeWhile_plain {name : String} (hname : isPlain name = true) {rest : List Char}
    (hrest : StartsStep rest) : (name.toList ++ rest).takeWhile isPlainChar = name.toList := by
  rw [isPlain, Bool.and_eq_true, List.all_eq_true] at hname
  have hnone : rest.takeWhile isPlainChar = [] := by
    cases rest with
    | nil => rfl
    | cons c rest =>
        have hplain : isPlainChar c = false := by
          rcases hrest c rfl with rfl | rfl <;> rfl
        rw [List.takeWhile_cons, hplain]
        rfl
  rw [List.takeWhile_append_of_pos hname.2, hnone, List.append_nil]

/-- A plain key in front of steps is determined by the characters, and so are the steps. -/
theorem plain_append_inj {name other : String} (hname : isPlain name = true)
    (hother : isPlain other = true) {rest tail : List Char} (hrest : StartsStep rest)
    (htail : StartsStep tail) (h : name.toList ++ rest = other.toList ++ tail) :
    name = other ∧ rest = tail := by
  have hsame : name.toList = other.toList := by
    rw [← takeWhile_plain hname hrest, h, takeWhile_plain hother htail]
  rw [hsame] at h
  exact ⟨String.toList_injective hsame, List.append_cancel_left h⟩

/-- A quoted key in front of steps is determined by the characters, and so are the steps. -/
theorem quoted_append_inj {name other : String} (hname : ¬ isPlain name = true)
    (hother : ¬ isPlain other = true) {rest tail : List Char}
    (h : (key name).chars ++ rest = (key other).chars ++ tail) : name = other ∧ rest = tail := by
  rw [chars_of_not_plain hname, chars_of_not_plain hother] at h
  simp only [List.cons_append, List.append_assoc, List.cons.injEq, true_and] at h
  obtain ⟨hsame, hrest⟩ := Text.quotedChars_append_inj h
  exact ⟨hsame, (List.cons.inj hrest).2⟩

/-- An index in front of steps is determined by the characters, and so are the steps. -/
theorem index_append_inj {i j : Nat} {rest tail : List Char}
    (h : (index i).chars ++ rest = (index j).chars ++ tail) : i = j ∧ rest = tail := by
  simp only [chars, List.cons_append, List.append_assoc, List.cons.injEq, true_and,
    List.nil_append] at h
  have hstops : ∀ following, Json.Token.StopsDigits (']' :: following) := by
    rintro following c ⟨⟩
    decide
  have hread := Json.Token.digits_chars (Digit.ofNat i) (hstops rest)
  have htwin := Json.Token.digits_chars (Digit.ofNat j) (hstops tail)
  rw [← Digit.charsOfNat, h, Digit.charsOfNat, htwin, Prod.mk.injEq] at hread
  exact ⟨Digit.ofNat_injective hread.1.symm, (List.cons.inj hread.2).2.symm⟩

/-- A quoted key is not taken for an index. -/
theorem quoted_append_ne_index {name : String} (hname : ¬ isPlain name = true) (j : Nat)
    (rest tail : List Char) : (key name).chars ++ rest ≠ (index j).chars ++ tail := by
  intro h
  rw [chars_of_not_plain hname] at h
  simp only [chars, Text.quotedChars, List.cons_append, List.append_assoc, List.cons.injEq,
    true_and] at h
  exact Digit.charsOfNat_append_ne_quote j _ _ h.symm

/-! ## Steps and locations -/

/-- A plain key in front of steps is no step of another form. -/
theorem eq_of_plain_append {name : String} (hname : isPlain name = true) {other : Step}
    {rest tail : List Char} (hrest : StartsStep rest) (htail : StartsStep tail)
    (h : (key name).chars ++ rest = other.chars ++ tail) : key name = other ∧ rest = tail := by
  rw [chars_of_plain hname] at h
  cases other with
  | key twin =>
      by_cases htwin : isPlain twin = true
      · rw [chars_of_plain htwin] at h
        obtain ⟨rfl, hsame⟩ := plain_append_inj hname htwin hrest htail (List.cons.inj h).2
        exact ⟨rfl, hsame⟩
      · rw [chars_of_not_plain htwin] at h
        cases (List.cons.inj h).1
  | index j => cases (List.cons.inj h).1

/-- A step at the beginning of written steps is determined by them, and so are the steps that follow
it. -/
theorem chars_append_inj {step other : Step} {rest tail : List Char} (hrest : StartsStep rest)
    (htail : StartsStep tail) (h : step.chars ++ rest = other.chars ++ tail) :
    step = other ∧ rest = tail := by
  cases step with
  | key name =>
      by_cases hname : isPlain name = true
      · exact eq_of_plain_append hname hrest htail h
      · cases other with
        | key twin =>
            by_cases htwin : isPlain twin = true
            · obtain ⟨hstep, hsame⟩ := eq_of_plain_append htwin htail hrest h.symm
              exact ⟨hstep.symm, hsame.symm⟩
            · obtain ⟨rfl, hsame⟩ := quoted_append_inj hname htwin h
              exact ⟨rfl, hsame⟩
        | index j => exact (quoted_append_ne_index hname j rest tail h).elim
  | index i =>
      cases other with
      | key twin =>
          by_cases htwin : isPlain twin = true
          · obtain ⟨hstep, hsame⟩ := eq_of_plain_append htwin htail hrest h.symm
            exact ⟨hstep.symm, hsame.symm⟩
          · exact (quoted_append_ne_index htwin i tail rest h.symm).elim
      | index j =>
          obtain ⟨rfl, hsame⟩ := index_append_inj h
          exact ⟨rfl, hsame⟩

end Step

namespace Location

/-- Different steps are written differently. -/
theorem flatMap_chars_injective {steps others : List Step}
    (h : steps.flatMap Step.chars = others.flatMap Step.chars) : steps = others := by
  induction steps generalizing others with
  | nil =>
      cases others with
      | nil => rfl
      | cons other others => exact (Step.chars_append_ne_nil other _ h.symm).elim
  | cons step steps ih =>
      cases others with
      | nil => exact (Step.chars_append_ne_nil step _ h).elim
      | cons other others =>
          obtain ⟨rfl, hrest⟩ := Step.chars_append_inj (Step.startsStep_flatMap_chars steps)
            (Step.startsStep_flatMap_chars others) h
          rw [ih hrest]

/-- Locations with the same written form are equal, step by step. -/
theorem text_inj (location other : Location) : location.text = other.text ↔ location = other := by
  constructor
  · intro h
    have hchars : location.chars = other.chars := String.ofList_injective h
    exact flatMap_chars_injective (List.cons.inj hchars).2
  · intro h
    rw [h]

end Location
end Casebook
