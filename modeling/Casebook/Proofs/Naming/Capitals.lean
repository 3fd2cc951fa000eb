import Casebook.Naming
import Casebook.Proofs.Text.CaseTables

/-!
# The characters of a class name

A slug keeps only letters, numbers and hyphens before its words are capitalised.  A capital may be
longer than its letter, and some letters with a mark, such as {lit}`ǰ`, have capitals with the mark
as a character of its own.  Two letters have capitals that the letter class does not list yet.
These are the only characters of a class name that are neither letters nor numbers, and they come
from the first letter of a word only.

Main definitions:

- {lit}`Naming.slugWords`: the words of a slug.
- {lit}`Naming.strayInitials`: the letters whose capital does not consist of letters and numbers.
- {lit}`Naming.strayMarks`: the characters in these capitals that are neither.

Main results:

- Theorem {lit}`Naming.upper_wordChars_iff`: which letters have a capital of letters and numbers.
- Theorem {lit}`Naming.className_wordChars`: which slugs have a class name of letters and numbers,
  and which other characters a class name may have.
- Theorem {lit}`Naming.className_stray_mark`: not every class name consists of letters and numbers.
-/

namespace Casebook
namespace Naming

/-! ## Letters and numbers -/

/-- The ranges of letters and numbers. -/
def wordRanges : List Text.CodeRange :=
  Text.letterRanges ++ Text.numericRanges

/-- A character is a letter or a number if it lies in their ranges. -/
theorem isWordChar_eq_inRanges (c : Char) : isWordChar c = Text.inRanges wordRanges c := by
  simp [isWordChar, Text.isLetter, Text.isNumeric, wordRanges, Text.inRanges, List.any_append]

/-- The ranges of letters and numbers keep clear of the surrogates. -/
theorem wordRanges_valid :
    ∀ range ∈ wordRanges, range.2 < 0xD800 ∨ 0xDFFF < range.1 ∧ range.2 < 0x110000 := by
  decide +kernel

/-- A code point in an interval of letters or numbers is that of a letter or number. -/
theorem isWordChar_ofNat {first last code : Nat}
    (hcover : Text.rangesCover wordRanges first last = true) (hfirst : first ≤ code)
    (hlast : code ≤ last) : isWordChar (Char.ofNat code) = true := by
  have hcode : (Char.ofNat code).toNat = code := by
    obtain ⟨range, hrange, hlow, hhigh⟩ := Text.rangesCover_eq_true_iff.mp hcover
    exact Text.toNat_ofNat_of_valid (wordRanges_valid range hrange) (by omega) (by omega)
  rw [isWordChar_eq_inRanges]
  exact Text.inRanges_of_rangesCover hcover (by omega) (by omega)

/-! ## Capitals -/

/-- The letters whose capital has a mark as a character of its own, and the two whose capital is not
listed as a letter. -/
def strayInitials : List Char :=
  [
    0x1F0, 0x390, 0x3B0, 0x1E96, 0x1E97, 0x1E98, 0x1E99, 0x1F50, 0x1F52, 0x1F54, 0x1F56, 0x1FB6,
    0x1FB7, 0x1FC6, 0x1FC7, 0x1FD2, 0x1FD3, 0x1FD6, 0x1FD7, 0x1FE2, 0x1FE3, 0x1FE4, 0x1FE6, 0x1FE7,
    0x1FF6, 0x1FF7, 0xA7D3, 0xA7D5
  ].map Char.ofNat

/-- The combining marks in these capitals, and the two unlisted capitals. -/
def strayMarks : List Char :=
  [0x300, 0x301, 0x308, 0x30A, 0x30C, 0x313, 0x331, 0x342, 0xA7D2, 0xA7D4].map Char.ofNat

/-- Every long form of a capital consists of letters and numbers, or belongs to a stray initial. -/
theorem upperExpansions_wordChars :
    ∀ entry ∈ Text.upperExpansions,
      (∀ code ∈ entry.2, Text.rangesCover wordRanges code code = true) ∨
        Char.ofNat entry.1 ∈ strayInitials := by
  decide +kernel

/-- The capitals of an interval lie in one range of letters or numbers, or the interval has no
letters and no numbers. -/
def capitalsAgree (range : Text.CaseRange) (first last : Nat) : Bool :=
  Text.rangesCover wordRanges (range.apply first) (range.apply last) ||
    Text.rangesAvoid wordRanges first last

/-- The capital of a letter or number of such an interval is one itself. -/
theorem isWordChar_apply {range : Text.CaseRange} {first last : Nat} {c : Char}
    (hagree : capitalsAgree range first last = true) (hfirst : first ≤ c.toNat)
    (hlast : c.toNat ≤ last) (hword : isWordChar c = true) :
    isWordChar (Char.ofNat (range.apply c.toNat)) = true := by
  rcases Bool.or_eq_true_iff.mp hagree with hcover | havoid
  · exact isWordChar_ofNat hcover (range.apply_le_apply hfirst) (range.apply_le_apply hlast)
  · have hnone := Text.not_inRanges_of_rangesAvoid havoid hfirst hlast
    rw [← isWordChar_eq_inRanges, hword] at hnone
    exact absurd hnone (by decide)

/-- The letters and numbers of a range have letters and numbers as capitals, except the stray
initials.  Most ranges are checked as a whole, and the others code point by code point. -/
theorem upperRanges_capitalsAgree :
    ∀ range ∈ Text.upperRanges,
      capitalsAgree range range.first range.last = true ∨
        ∀ code ∈ range.codes,
          capitalsAgree range code code = true ∨ Char.ofNat code ∈ strayInitials := by
  decide +kernel

/-- The capital of every stray initial has a character that is neither letter nor number, and no
such character that is not listed. -/
theorem upper_strayInitials :
    (strayInitials.all fun c =>
      (Text.upper c).any (fun d => !isWordChar d) &&
        (Text.upper c).all fun d => isWordChar d || strayMarks.contains d) = true := by
  decide +kernel

/-- The capital of a stray initial has a character that is neither letter nor number. -/
theorem exists_mark_of_strayInitial {c : Char} (hstray : c ∈ strayInitials) :
    ∃ d ∈ Text.upper c, isWordChar d = false := by
  have hc := List.all_eq_true.mp upper_strayInitials c hstray
  rw [Bool.and_eq_true, List.any_eq_true] at hc
  simpa using hc.1

/-- The capital of a stray initial has no other characters than letters, numbers and stray marks. -/
theorem strayMarks_of_strayInitial {c : Char} (hstray : c ∈ strayInitials) :
    ∀ d ∈ Text.upper c, isWordChar d = true ∨ d ∈ strayMarks := by
  have hc := List.all_eq_true.mp upper_strayInitials c hstray
  rw [Bool.and_eq_true, List.all_eq_true] at hc
  simpa using hc.2

/-- The capital of any other letter or number consists of letters and numbers. -/
theorem upper_wordChars {c : Char} (hword : isWordChar c = true) (hstray : c ∉ strayInitials) :
    ∀ d ∈ Text.upper c, isWordChar d = true := by
  have hself : Char.ofNat c.toNat = c := Char.ofNat_toNat c
  apply Text.forall_mem_otherForm
  · -- a long form
    intro entry hentry hcode code hmem
    have hcodes := (upperExpansions_wordChars entry hentry).resolve_right (by rwa [hcode, hself])
    exact isWordChar_ofNat (hcodes code hmem) (Nat.le_refl _) (Nat.le_refl _)
  · -- a form from a range
    intro range hrange hcovers
    obtain ⟨hfirst, hlast⟩ := Text.CaseRange.bounds_of_covers hcovers
    rcases upperRanges_capitalsAgree range hrange with hagree | hcodes
    · exact isWordChar_apply hagree hfirst hlast hword
    · have hagree := (hcodes _ (Text.CaseRange.mem_codes_of_covers hcovers)).resolve_right
        (by rwa [hself])
      exact isWordChar_apply hagree (Nat.le_refl _) (Nat.le_refl _) hword
  · -- the letter itself
    intro _
    exact hword

/-- A letter or number has a capital of letters and numbers unless it is a stray initial. -/
theorem upper_wordChars_iff {c : Char} (hword : isWordChar c = true) :
    (∀ d ∈ Text.upper c, isWordChar d = true) ↔ c ∉ strayInitials := by
  refine ⟨fun hall hstray => ?_, upper_wordChars hword⟩
  obtain ⟨d, hd, hnot⟩ := exists_mark_of_strayInitial hstray
  rw [hall d hd] at hnot
  exact absurd hnot (by decide)

/-! ## Class names -/

/-- The words of a slug: the stretches between its hyphens, in lower case, without any other
separators. -/
def slugWords (slug : List Char) : List (List Char) :=
  Text.pieces '-' ((Text.lowercase slug).filter fun c => c = '-' || isWordChar c)

/-- A class name is made of the capitalised words of its slug. -/
theorem classNameChars_eq_flatMap (slug : List Char) :
    classNameChars slug = (slugWords slug).flatMap capitalize :=
  rfl

/-- The words of a slug have only letters and numbers. -/
theorem isWordChar_of_mem_slugWords {slug word : List Char} (hword : word ∈ slugWords slug) :
    ∀ c ∈ word, isWordChar c = true := by
  intro c hc
  obtain ⟨hmem, hne⟩ := Text.mem_of_mem_pieces hword hc
  simpa [hne] using (List.mem_filter.mp hmem).2

/-- A capitalised word of letters and numbers stays one unless it begins with a stray initial. -/
theorem capitalize_wordChars_iff {word : List Char} (hword : ∀ c ∈ word, isWordChar c = true) :
    (∀ d ∈ capitalize word, isWordChar d = true) ↔ ∀ c ∈ word.head?, c ∉ strayInitials := by
  cases word with
  | nil => simp [capitalize]
  | cons first rest =>
      have hrest : ∀ c ∈ rest, isWordChar c = true :=
        fun c hc => hword c (List.mem_cons_of_mem _ hc)
      rw [capitalize, List.forall_mem_append, upper_wordChars_iff (hword first List.mem_cons_self)]
      simpa using fun _ => hrest

/-- A capitalised word of letters and numbers has no other characters than these and stray marks. -/
theorem capitalize_strayMarks {word : List Char} (hword : ∀ c ∈ word, isWordChar c = true) :
    ∀ d ∈ capitalize word, isWordChar d = true ∨ d ∈ strayMarks := by
  cases word with
  | nil => simp [capitalize]
  | cons first rest =>
      have hfirst := hword first List.mem_cons_self
      intro d hd
      rcases List.mem_append.mp hd with hd | hd
      · by_cases hstray : first ∈ strayInitials
        · exact strayMarks_of_strayInitial hstray d hd
        · exact .inl (upper_wordChars hfirst hstray d hd)
      · exact .inl (hword d (List.mem_cons_of_mem _ hd))

/-- A class name consists of letters and numbers exactly if no word of its slug begins with a stray
initial, and in any case it has no other characters than letters, numbers and stray marks. -/
theorem className_wordChars (slug : String) :
    ((∀ c ∈ (className slug).toList, isWordChar c = true) ↔
      ∀ word ∈ slugWords slug.toList, ∀ c ∈ word.head?, c ∉ strayInitials) ∧
    ∀ c ∈ (className slug).toList, isWordChar c = true ∨ c ∈ strayMarks := by
  rw [className, String.toList_ofList, classNameChars_eq_flatMap]
  constructor
  · rw [List.forall_mem_flatMap]
    exact forall₂_congr fun word hword =>
      capitalize_wordChars_iff (isWordChar_of_mem_slugWords hword)
  · intro c hc
    obtain ⟨word, hword, hc⟩ := List.mem_flatMap.mp hc
    exact capitalize_strayMarks (isWordChar_of_mem_slugWords hword) c hc

/-- The slug {lit}`ǰ` gives a class name with a combining mark. -/
theorem className_stray_mark : ¬ ∀ slug, ∀ c ∈ (className slug).toList, isWordChar c = true := by
  intro h
  have hmark : '\u030C' ∈ (className (String.ofList ['\u01F0'])).toList := by
    rw [className, String.toList_ofList, String.toList_ofList]
    decide +kernel
  exact absurd (h _ _ hmark) (by decide +kernel)

end Naming
end Casebook
