import Casebook.Text.CaseData

/-!
# Upper and lower case

Most characters have one lower-case and one upper-case form, which may be longer than one
character.  The capital sigma alone has two lower-case forms: the final one stands at the end of a
word, that is, after a character with case and not before one, where case-ignorable characters in
between do not count.

Main definitions:

- {lit}`Text.lower`: the lower-case form of a character by itself.
- {lit}`Text.upper`: the upper-case form of a character.
- {lit}`Text.lowercase`: the lower-case form of a text.
-/

namespace Casebook
namespace Text

/-- A character is upper, lower, or title case. -/
def isCased (c : Char) : Bool :=
  inRanges casedRanges c

/-- A character is passed over when the neighbours of a letter are looked for. -/
def isCaseIgnorable (c : Char) : Bool :=
  inRanges caseIgnorableRanges c

/-- The other form of a character according to a table of long forms and a table of ranges; a
character in neither is its own form. -/
def otherForm (expansions : List (Nat × List Nat)) (ranges : List CaseRange) (c : Char) :
    List Char :=
  match expansions.lookup c.toNat with
  | some codes => codes.map Char.ofNat
  | none =>
      match ranges.find? fun range => range.covers c.toNat with
      | some range => [Char.ofNat (range.apply c.toNat)]
      | none => [c]

/-- The lower-case form of a character by itself. -/
def lower (c : Char) : List Char :=
  otherForm lowerExpansions lowerRanges c

/-- The upper-case form of a character. -/
def upper (c : Char) : List Char :=
  otherForm upperExpansions upperRanges c

/-- The first character that is not case-ignorable exists and has case. -/
def nextIsCased (s : List Char) : Bool :=
  match s.dropWhile isCaseIgnorable with
  | [] => false
  | c :: _ => isCased c

/-- The capital sigma. -/
def capitalSigma : Char := 'Σ'

/-- The lower-case form of a capital sigma between two texts; the text before it is given with its
last character first. -/
def lowerSigma (before after : List Char) : Char :=
  if nextIsCased before && !nextIsCased after then 'ς' else 'σ'

/-- The lower-case form of the rest of a text; the part before it is given with its last character
first. -/
def lowercaseAfter (before : List Char) : List Char → List Char
  | [] => []
  | c :: rest =>
      (if c = capitalSigma then [lowerSigma before rest] else lower c)
        ++ lowercaseAfter (c :: before) rest

/-- The lower-case form of a text. -/
def lowercase (s : List Char) : List Char :=
  lowercaseAfter [] s

/-- At the end of a word the capital sigma becomes the final one, before a letter it does not. -/
example : lowercase ['Α', 'Σ', ' ', 'Σ', 'Α'] = ['α', 'ς', ' ', 'σ', 'α'] := by
  decide +kernel

/-- The capital I with a dot becomes two characters. -/
example : lowercase ['İ'] = ['i', '\u0307'] := by
  decide +kernel

end Text
end Casebook
