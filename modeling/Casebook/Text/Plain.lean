/-!
# Plain text

A text may hold controls: characters that act on the screen where the text is shown, and sequences
of characters that begin with the escape character and do the same.  What is left without them is
plain text.  Four controls are blanks and stay: tab, line feed, form feed, and carriage return.

A sequence may be left unfinished.  A blank control in an unfinished sequence of certain kinds is
shown, and so is what comes after it; the sequence goes on at the next control that is no blank.

Main definitions:

- {lit}`Text.Sequence`: what has been read of a control sequence.
- {lit}`Text.Scanner`: a sequence, and whether characters are shown in spite of it.
- {lit}`Text.plain`: a text without its controls.
-/

namespace Casebook
namespace Text

/-- What has been read of a control sequence. -/
inductive Sequence where
  /-- Nothing. -/
  | none
  /-- The escape character. -/
  | escape
  /-- The escape character and marks after it. -/
  | escapeMarks
  /-- The beginning of a sequence with parameters, which ends with a letter. -/
  | parameters
  /-- The beginning of a string for a device. -/
  | deviceStart
  /-- The parameters of a string for a device. -/
  | deviceParameters
  /-- The marks after the parameters of a string for a device. -/
  | deviceMarks
  /-- A string that ends with the string terminator. -/
  | string
  /-- A command for the operating system, which ends with the bell. -/
  | command
  deriving DecidableEq, Repr

/-- The control characters of the first 128 characters. -/
def isControl (c : Char) : Bool :=
  c < ' ' || c = '\x7f'

/-- The controls that are blanks. -/
def isBlankControl (c : Char) : Bool :=
  c = '\t' || c = '\n' || c = '\x0c' || c = '\r'

/-- A character beyond the first 128. -/
def isWide (c : Char) : Bool :=
  128 ≤ c.toNat

/-- The byte that ends a string, wherever in the encoding of a character it stands. -/
def stringTerminator : UInt8 := 0x9c

namespace Sequence

/-- The sequence after a control character: the escape character begins a new one, and two others
break off the present one. -/
def afterControl (sequence : Sequence) (c : Char) : Sequence :=
  if c = '\x1b' then .escape
  else if c = '\x18' ∨ c = '\x1a' then .none
  else if sequence = .command ∧ c = '\x07' then .none
  else sequence

/-- The sequence after the character that follows the escape character. -/
def afterEscape (c : Char) : Sequence :=
  if c ≤ '/' then .escapeMarks
  else if c = '[' then .parameters
  else if c = ']' then .command
  else if c = 'P' then .deviceStart
  else if c = 'X' ∨ c = '^' ∨ c = '_' then .string
  else .none

/-- The sequence after a character of the first 128 that is no control. -/
def afterGraphic (sequence : Sequence) (c : Char) : Sequence :=
  match sequence with
  | .none => .none
  | .escape => afterEscape c
  | .escapeMarks => if c ≤ '/' then .escapeMarks else .none
  | .parameters => if c ≤ '?' then .parameters else .none
  | .deviceStart =>
      if c ≤ '/' then .deviceMarks else if c ≤ '?' then .deviceParameters else .string
  | .deviceParameters =>
      if c ≤ '/' then .deviceMarks else if c ≤ ';' then .deviceParameters else .string
  | .deviceMarks => if c ≤ '/' then .deviceMarks else .string
  | .string => .string
  | .command => .command

/-- The sequence after a character beyond the first 128. -/
def afterWide (sequence : Sequence) (c : Char) : Sequence :=
  if sequence = .string ∧ stringTerminator ∈ String.utf8EncodeChar c then .none else sequence

/-- The sequence after a character. -/
def after (sequence : Sequence) (c : Char) : Sequence :=
  if isWide c then sequence.afterWide c
  else if isControl c then sequence.afterControl c
  else sequence.afterGraphic c

/-- Blank controls act within the sequence, and do not belong to it. -/
def letsBlanksThrough : Sequence → Bool
  | .none => true
  | .escape => true
  | .escapeMarks => true
  | .parameters => true
  | _ => false

end Sequence

/-- A control sequence, and whether characters are shown in spite of it. -/
structure Scanner where
  sequence : Sequence
  shows : Bool
  deriving DecidableEq, Repr

namespace Scanner

/-- The scanner at the beginning of a text. -/
def initial : Scanner :=
  ⟨.none, true⟩

/-- A character is shown. -/
def shown (scanner : Scanner) (c : Char) : Bool :=
  if isBlankControl c then scanner.shows || scanner.sequence.letsBlanksThrough
  else if isControl c then false
  else scanner.shows || scanner.sequence = .none

/-- The scanner after a character.  While characters are shown, one beyond the first 128 ends the
sequence. -/
def after (scanner : Scanner) (c : Char) : Scanner :=
  if scanner.shown c then
    ⟨if isWide c then .none else scanner.sequence, true⟩
  else
    ⟨scanner.sequence.after c, false⟩

end Scanner

/-- The shown characters of the rest of a text. -/
def shownFrom (scanner : Scanner) : List Char → List Char
  | [] => []
  | c :: rest =>
      if scanner.shown c then c :: shownFrom (scanner.after c) rest
      else shownFrom (scanner.after c) rest

/-- A text without its controls. -/
def plain (s : List Char) : List Char :=
  shownFrom .initial s

/-- A sequence with parameters and a bell vanish, and a tab stays. -/
example : plain ['\x1b', '[', '3', '1', 'm', 'a', '\x07', '\t', 'b'] = ['a', '\t', 'b'] := by
  decide +kernel

end Text
end Casebook
