import Casebook.Naming
import Casebook.Proofs.Text.LetterCase
import Mathlib.Data.String.Defs

/-!
# Names word by word

A class name and a test name are computed from the whole text: it is put in lower case, then
filtered, then cut.  The separators, a hyphen in a slug and a blank in a description, stop the only
part of this that looks beyond a single character, so that every word gets its form by itself.

Main definitions:

- {lit}`Naming.WordByWord`: a name is made of the words between separators, each by itself.

Main results:

- Theorems {lit}`Naming.className_wordByWord` and {lit}`Naming.identifier_wordByWord`: both kinds of
  names are of this sort.
- Theorem {lit}`Naming.names_word_by_word`: what this says about two words, about any number of
  words, and about a run of hyphens at either end or in the middle.
-/

namespace Casebook
namespace Naming

/-! ## Both sides of a separator -/

/-- The characters of a class name are those of the two sides of a hyphen. -/
theorem classNameChars_append (s t : List Char) :
    classNameChars (s ++ '-' :: t) = classNameChars s ++ classNameChars t := by
  rw [classNameChars, Text.lowercase_append Text.separates_hyphen, List.filter_append,
    List.filter_cons_of_pos (by decide), Text.pieces_append_separator, List.flatMap_append]
  rfl

/-- The characters of a test name are those of the two sides of a blank, and the blank. -/
theorem identifierChars_append (s t : List Char) :
    identifierChars (s ++ ' ' :: t) = identifierChars s ++ ' ' :: identifierChars t := by
  rw [identifierChars, Text.lowercase_append Text.separates_blank, List.filter_append,
    List.filter_cons_of_pos (by decide)]
  rfl

/-- A name is made of the words between separators, each by itself, with a joint in place of each
separator. -/
structure WordByWord (name : String → String) (separator joint : String) : Prop where
  empty : name "" = ""
  append (a b : String) : name (a ++ separator ++ b) = name a ++ joint ++ name b

/-- Class names are made word by word, and the hyphens vanish. -/
theorem className_wordByWord : WordByWord className "-" "" where
  empty := rfl
  append a b := by
    have hchars : (a ++ "-" ++ b).toList = a.toList ++ '-' :: b.toList := by simp
    rw [className, hchars, classNameChars_append, String.ofList_append, String.append_empty]
    rfl

/-- Test names are made word by word, and the blanks stay. -/
theorem identifier_wordByWord : WordByWord identifier " " " " where
  empty := rfl
  append a b := by
    have hchars : (a ++ " " ++ b).toList = a.toList ++ ' ' :: b.toList := by simp
    rw [identifier, hchars, identifierChars_append, ← String.toList_inj]
    simp [identifier]

/-! ## Any number of words -/

namespace WordByWord

variable {name : String → String} {separator joint : String}

/-- Every word of a text gets its form by itself. -/
theorem intercalate (h : WordByWord name separator joint) (words : List String) :
    name (separator.intercalate words) = joint.intercalate (words.map name) := by
  induction words with
  | nil => exact h.empty
  | cons word words ih =>
      cases words with
      | nil => simp
      | cons next words =>
          rw [String.intercalate_cons_cons, h.append, ih]
          simp only [List.map_cons, String.intercalate_cons_cons]

end WordByWord

/-- A text joined with nothing between its parts. -/
theorem intercalate_empty (words : List String) : "".intercalate words = String.join words := by
  induction words with
  | nil => simp
  | cons word words ih => cases words <;> simp_all

/-! ## Runs of hyphens -/

/-- No hyphens are no text. -/
theorem replicate_hyphen_zero : String.replicate 0 '-' = "" :=
  rfl

/-- A run of hyphens is one hyphen and a shorter run. -/
theorem replicate_hyphen_succ (n : Nat) :
    String.replicate (n + 1) '-' = "-" ++ String.replicate n '-' := by
  change String.ofList (List.replicate (n + 1) '-') = "-" ++ String.ofList (List.replicate n '-')
  rw [List.replicate_succ, ← String.toList_inj]
  simp

/-- Leading hyphens do not change a class name. -/
theorem className_replicate_append (n : Nat) (a : String) :
    className (String.replicate n '-' ++ a) = className a := by
  induction n with
  | zero => rw [replicate_hyphen_zero, String.empty_append]
  | succ n ih =>
      have hword := className_wordByWord.append "" (String.replicate n '-' ++ a)
      rw [replicate_hyphen_succ, String.append_assoc]
      simpa [className_wordByWord.empty, ih] using hword

/-- Repeated hyphens do not change a class name. -/
theorem className_append_replicate_append (n : Nat) (a b : String) :
    className (a ++ String.replicate (n + 1) '-' ++ b) = className (a ++ "-" ++ b) := by
  rw [replicate_hyphen_succ, ← String.append_assoc, String.append_assoc,
    className_wordByWord.append, className_replicate_append, className_wordByWord.append]

/-- Trailing hyphens do not change a class name. -/
theorem className_append_replicate (n : Nat) (a : String) :
    className (a ++ String.replicate n '-') = className a := by
  cases n with
  | zero => rw [replicate_hyphen_zero, String.append_empty]
  | succ n =>
      have hrun := className_append_replicate_append n a ""
      rw [String.append_empty] at hrun
      rw [hrun, className_wordByWord.append, className_wordByWord.empty]
      simp

/-- Names are made word by word.  Two slugs with a hyphen between them give their two class names in
a row, two descriptions with a blank between them give their two test names with a blank between
them; the same goes for any number of words, and hyphens at the front, at the end, or more than one
in a row never change a class name. -/
theorem names_word_by_word :
    (∀ a b, className (a ++ "-" ++ b) = className a ++ className b) ∧
    (∀ a b, identifier (a ++ " " ++ b) = identifier a ++ " " ++ identifier b) ∧
    (∀ words, className ("-".intercalate words) = String.join (words.map className)) ∧
    (∀ words, identifier (" ".intercalate words) = " ".intercalate (words.map identifier)) ∧
    (∀ n a, className (String.replicate n '-' ++ a) = className a) ∧
    (∀ n a, className (a ++ String.replicate n '-') = className a) ∧
    (∀ n a b, className (a ++ String.replicate (n + 1) '-' ++ b) = className (a ++ "-" ++ b)) := by
  refine ⟨fun a b => ?_, identifier_wordByWord.append, fun words => ?_,
    identifier_wordByWord.intercalate, className_replicate_append, className_append_replicate,
    className_append_replicate_append⟩
  · rw [className_wordByWord.append, String.append_empty]
  · rw [className_wordByWord.intercalate, intercalate_empty]

end Naming
end Casebook
