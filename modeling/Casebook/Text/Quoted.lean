import Casebook.Text.Hex
import Casebook.Text.Visible

/-!
# Quoted text in messages

In messages, text that may hold anything is put between quotes so that its extent and its
characters can be told: characters that cannot be shown are given by their code points.

Main definitions:

- {lit}`Text.escapedVisibly`: a character as it is shown between quotes.
- {lit}`Text.quoted`: a text between quotes.
-/

namespace Casebook
namespace Text

/-- A character as it is shown between quotes. -/
def escapedVisibly (c : Char) : List Char :=
  if c = '"' then ['\\', '"']
  else if c = '\\' then ['\\', '\\']
  else if c = '\n' then ['\\', 'n']
  else if c = '\r' then ['\\', 'r']
  else if c = '\t' then ['\\', 't']
  else if c = '\x00' then ['\\', '0']
  else if isVisible c then [c]
  else ['\\', 'u', '\x7b'] ++ hexDigits c.toNat ++ ['\x7d']

/-- The characters of a text between quotes. -/
def quotedChars (s : String) : List Char :=
  '"' :: s.toList.flatMap escapedVisibly ++ ['"']

/-- A text between quotes. -/
def quoted (s : String) : String :=
  String.ofList (quotedChars s)

/-- A blank is shown, a zero-width joiner is not. -/
example : quotedChars "a \u200d\"" =
    ['"', 'a', ' ', '\\', 'u', '\x7b', '2', '0', '0', 'd', '\x7d', '\\', '"', '"'] := by
  decide +kernel

end Text
end Casebook
