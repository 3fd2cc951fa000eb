import Casebook.Number.Numeral
import Casebook.Text.Pieces

/-!
# Patterns of file names

A pattern names files by wildcards: a question mark stands for any character, a star for any
characters, and a class in brackets for one of its characters or, after an exclamation mark, for any
other.  Two stars that are a whole component stand for directories to any depth.

Main definitions:

- {lit}`Pattern.Wildcard`: what stands for one or more characters of a name.
- {lit}`Pattern.matchesName`: a name fits a list of wildcards.
- {lit}`Pattern.wildcards?`: the wildcards of a written pattern.
- {lit}`Pattern.ofText?`: the components of a written pattern.
-/

namespace Casebook
namespace Pattern

/-- Characters of a class: a single one or all from one to another. -/
inductive ClassPart where
  | single (c : Char)
  | range (first last : Char)
  deriving DecidableEq, Repr

/-- What stands for a part of a name. -/
inductive Wildcard where
  | char (c : Char)
  | anyChar
  | anyChars
  | oneOf (parts : List ClassPart)
  | noneOf (parts : List ClassPart)
  /-- Directories to any depth. -/
  | anyDirectories
  deriving DecidableEq, Repr

/-! ## Fitting names -/

/-- A character belongs to a part of a class. -/
def ClassPart.holds (c : Char) : ClassPart → Bool
  | .single d => c = d
  | .range first last => first ≤ c && c ≤ last

/-- A character fits a wildcard for one character. -/
def Wildcard.fits (c : Char) : Wildcard → Bool
  | .char d => c = d
  | .anyChar => true
  | .oneOf parts => parts.any (ClassPart.holds c)
  | .noneOf parts => !parts.any (ClassPart.holds c)
  | .anyChars => false
  | .anyDirectories => false

/-- Put a wildcard for one character in front of others, given which ends of a name fit those: an
end fits if its first character fits and the next end fits the others. -/
def advance (wildcard : Wildcard) : List Char → List Bool → List Bool
  | c :: name, _ :: fitting => (wildcard.fits c && fitting.headD false) :: advance wildcard name fitting
  | _, _ => [false]

/-- Put a star in front of wildcards, given which ends of a name fit those: an end fits if it or a
later one fits them. -/
def anyLater : List Bool → List Bool
  | [] => []
  | fits :: fitting =>
      let later := anyLater fitting
      (fits || later.headD false) :: later

/-- Which ends of a name fit wildcards: the whole name first, the empty end last.  All ends are
decided together, so that no number of stars makes the decision long. -/
def fittingEnds : List Wildcard → List Char → List Bool
  | [], name => name.map (fun _ => false) ++ [true]
  | .anyChars :: wildcards, name => anyLater (fittingEnds wildcards name)
  | wildcard :: wildcards, name => advance wildcard name (fittingEnds wildcards name)

/-- A name fits wildcards from its beginning to its end. -/
def matchesName (wildcards : List Wildcard) (name : List Char) : Bool :=
  (fittingEnds wildcards name).headD false

/-- The ends of a name without its first character are those of the name but the first. -/
theorem fittingEnds_cons (wildcards : List Wildcard) (c : Char) (name : List Char) :
    fittingEnds wildcards (c :: name) =
      matchesName wildcards (c :: name) :: fittingEnds wildcards name := by
  induction wildcards with
  | nil => simp [fittingEnds, matchesName]
  | cons wildcard wildcards ih =>
      cases wildcard <;>
        · simp only [matchesName, fittingEnds]
          rw [ih]
          rfl

/-- Without wildcards only the empty name fits. -/
theorem matchesName_nil (name : List Char) : matchesName [] name = name.isEmpty := by
  cases name <;> simp [matchesName, fittingEnds]

/-- A star stands for nothing, or for the first character and whatever it stands for after it. -/
theorem matchesName_anyChars_cons (wildcards : List Wildcard) (c : Char) (name : List Char) :
    matchesName (.anyChars :: wildcards) (c :: name) =
      (matchesName wildcards (c :: name) || matchesName (.anyChars :: wildcards) name) := by
  rw [matchesName, fittingEnds, fittingEnds_cons]
  rfl

/-- A wildcard for one character stands for the first one. -/
theorem matchesName_cons {wildcard : Wildcard} (h : wildcard ≠ .anyChars)
    (wildcards : List Wildcard) (c : Char) (name : List Char) :
    matchesName (wildcard :: wildcards) (c :: name) =
      (wildcard.fits c && matchesName wildcards name) := by
  rw [matchesName, fittingEnds, fittingEnds_cons]
  · rfl
  · exact h

/-! ## Written patterns -/

/-- Why a text is not a pattern. -/
inductive Reason where
  /-- More than two stars stand together. -/
  | wildcards
  /-- Two stars are not a whole component. -/
  | recursive
  /-- A class has no end. -/
  | unclosedClass
  deriving DecidableEq, Repr

/-- Why a text is not a pattern, and the character where this shows. -/
structure PatternFault where
  position : Nat
  reason : Reason
  deriving DecidableEq, Repr

/-- The message that describes a fault. -/
def PatternFault.message (fault : PatternFault) : String :=
  "Pattern syntax error near position " ++ Digit.textOfNat fault.position ++ ": " ++
    match fault.reason with
    | .wildcards => "wildcards are either regular `*` or recursive `**`"
    | .recursive => "recursive wildcards must form a single path component"
    | .unclosedClass => "invalid range pattern"

/-- The parts of a class with some characters: a hyphen between two others makes a range. -/
def classParts : List Char → List ClassPart
  | [] => []
  | first :: '-' :: last :: rest => .range first last :: classParts rest
  | c :: rest => .single c :: classParts rest

/-- What is being read of a pattern. -/
inductive Place where
  /-- Outside of classes, after this character. -/
  | outside (previous : Option Char)
  /-- In a class of which only the bracket at this position has been read. -/
  | opened (start : Nat)
  /-- In a class from this position on, with some characters, the last one first. -/
  | inside (start : Nat) (negated : Bool) (characters : List Char)

/-- The wildcards of the rest of a pattern, from a position on.  A class ends at the first bracket
that is not its first character. -/
def wildcardsFrom (position : Nat) (place : Place) :
    List Char → Except PatternFault (List Wildcard)
  | [] =>
      match place with
      | .outside _ => .ok []
      | .opened start => .error ⟨start, .unclosedClass⟩
      | .inside start _ _ => .error ⟨start, .unclosedClass⟩
  | c :: rest =>
      match place with
      | .opened start =>
          if c = '!' then wildcardsFrom (position + 1) (.inside start true []) rest
          else wildcardsFrom (position + 1) (.inside start false [c]) rest
      | .inside start negated characters =>
          if c = ']' ∧ characters ≠ [] then
            let parts := classParts characters.reverse
            (wildcardsFrom (position + 1) (.outside (some c)) rest).map
              ((if negated then .noneOf parts else .oneOf parts) :: ·)
          else
            wildcardsFrom (position + 1) (.inside start negated (c :: characters)) rest
      | .outside previous =>
          match c, rest with
          | '?', rest =>
              (wildcardsFrom (position + 1) (.outside (some c)) rest).map (.anyChar :: ·)
          | '[', rest => wildcardsFrom (position + 1) (.opened position) rest
          | '*', '*' :: '*' :: _ => .error ⟨position + 2, .wildcards⟩
          | '*', '*' :: rest =>
              if previous ≠ none ∧ previous ≠ some '/' then .error ⟨position - 1, .recursive⟩
              else
                match rest with
                | [] => .ok [.anyDirectories]
                | '/' :: rest =>
                    (wildcardsFrom (position + 3) (.outside (some '/')) rest).map
                      (.anyDirectories :: ·)
                | _ => .error ⟨position + 2, .recursive⟩
          | '*', rest =>
              (wildcardsFrom (position + 1) (.outside (some c)) rest).map (.anyChars :: ·)
          | c, rest =>
              (wildcardsFrom (position + 1) (.outside (some c)) rest).map (.char c :: ·)

/-- The wildcards of a written pattern. -/
def wildcards? (pattern : List Char) : Except PatternFault (List Wildcard) :=
  wildcardsFrom 0 (.outside none) pattern

/-- A component of a pattern. -/
inductive Component where
  /-- One name and no other. -/
  | exactly (name : List Char)
  /-- Every name that fits. -/
  | wild (wildcards : List Wildcard)
  /-- Directories to any depth. -/
  | anyDirectories
  deriving DecidableEq, Repr

namespace Component

/-- The characters of wildcards that stand for themselves. -/
def plain? : List Wildcard → Option (List Char)
  | [] => some []
  | .char c :: wildcards => (plain? wildcards).map (c :: ·)
  | _ => none

/-- The component made of some wildcards. -/
def ofWildcards (wildcards : List Wildcard) : Component :=
  match plain? wildcards with
  | some name => .exactly name
  | none => if wildcards.contains .anyDirectories then .anyDirectories else .wild wildcards

/-- A name fits the component by itself. -/
def fits (name : List Char) : Component → Bool
  | .exactly other => name == other
  | .wild wildcards => matchesName wildcards name
  | .anyDirectories => false

/-- The component starts with a point that stands for itself. -/
def startsWithPoint : Component → Bool
  | .wild (.char '.' :: _) => true
  | _ => false

end Component

/-- A pattern: its components, the place that it starts at, and whether only directories count. -/
structure PathPattern where
  isAbsolute : Bool
  components : List Component
  onlyDirectories : Bool
  deriving DecidableEq, Repr

/-- The pieces of a pattern between its slashes; no piece follows a slash at the end. -/
def componentTexts (pattern : List Char) : List (List Char) :=
  let pieces := Text.pieces '/' pattern
  if pieces.getLast? = some [] then pieces.dropLast else pieces

/-- A written pattern.  It has to be well-formed as a whole and in each of its components. -/
def ofText? (text : String) : Except PatternFault PathPattern := do
  let pattern := text.toList
  let _ ← wildcards? pattern
  let isAbsolute := pattern.head? == some '/'
  let components ← (componentTexts (if isAbsolute then pattern.drop 1 else pattern)).mapM wildcards?
  return ⟨isAbsolute, components.map Component.ofWildcards, pattern.getLast? == some '/'⟩

/-- A component of two stars stands for directories, any other star for characters of a name. -/
example : (ofText? "a/**/b*").toOption.map PathPattern.components =
    some [.exactly ['a'], .anyDirectories, .wild [.char 'b', .anyChars]] := by
  decide +kernel

/-- Two stars next to a name are refused where they stand next to it. -/
example : (match ofText? "ab**" with
    | .error fault => some (fault.position, fault.reason)
    | .ok _ => none) = some (1, .recursive) := by
  decide +kernel

/-- A text is meant as a pattern: it contains a wildcard or a brace. -/
def isPattern (text : String) : Bool :=
  text.toList.any fun c => c = '*' || c = '?' || c = '[' || c = '\x7b'

end Pattern
end Casebook
