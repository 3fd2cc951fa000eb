import Casebook.Text.Letter
import Casebook.Text.Numeric
import Casebook.Text.LetterCase
import Casebook.Text.Pieces

/-!
# Names for generated code

Descriptions and slugs are free text.  What is generated from them keeps only letters and numbers,
and the blanks of a description.

Main definitions:

- {lit}`Naming.identifier`: the name of a test, from its description.
- {lit}`Naming.className`: the name of a class, from a slug: {lit}`two-fer` gives {lit}`TwoFer`.
-/

namespace Casebook
namespace Naming

/-- Letters and numbers may stand in any name. -/
def isWordChar (c : Char) : Bool :=
  Text.isLetter c || Text.isNumeric c

/-- The characters of a test name: lower case, and only letters, numbers and blanks. -/
def identifierChars (description : List Char) : List Char :=
  (Text.lowercase description).filter fun c => c = ' ' || isWordChar c

/-- The name of a test. -/
def identifier (description : String) : String :=
  String.ofList (identifierChars description.toList)

/-- A word with its first character in upper case. -/
def capitalize : List Char → List Char
  | [] => []
  | c :: rest => Text.upper c ++ rest

/-- The characters of a class name: the words between hyphens, each capitalised. -/
def classNameChars (slug : List Char) : List Char :=
  (Text.pieces '-' ((Text.lowercase slug).filter fun c => c = '-' || isWordChar c)).flatMap
    capitalize

/-- The name of a class. -/
def className (slug : String) : String :=
  String.ofList (classNameChars slug.toList)

/-- The name of the class that holds the tests. -/
def testClassName (slug : String) : String :=
  className slug ++ "Test"

/-- Every word of a slug is capitalised, and other separators vanish. -/
example : classNameChars ['t', 'w', 'o', '-', 'f', '_', 'e', 'r'] = ['T', 'w', 'o', 'F', 'e', 'r'] := by
  decide +kernel

/-- Punctuation vanishes from a description, and blanks stay. -/
example : identifierChars ['S', 'a', 'y', ' ', 'H', 'i', '!'] = ['s', 'a', 'y', ' ', 'h', 'i'] := by
  decide +kernel

end Naming
end Casebook
