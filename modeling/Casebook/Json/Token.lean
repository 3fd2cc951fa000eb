import Casebook.Json.Basic

/-!
# JSON tokens

JSON text is a sequence of tokens with blanks between them.  The lexical grammar is strict: four
blank characters, no control characters in strings, no unpaired surrogate escapes, and no leading
zeros.

Main definitions:

- {lit}`Json.Token`: the tokens.
- {lit}`Json.Token.next?`: the first token of a text and the text after it.
- {lit}`Json.numeral?`: the number that is a whole text.
- {lit}`Json.tokens?`: all tokens of a text.
-/

namespace Casebook
namespace Json

/-- A token of JSON text. -/
inductive Token where
  | openArray
  | closeArray
  | openObject
  | closeObject
  | comma
  | colon
  | null
  | bool (b : Bool)
  | number (n : Numeral)
  | string (s : String)
  deriving DecidableEq, Repr

namespace Token

/-- Space, tab, line feed and carriage return may stand between tokens. -/
def isBlank (c : Char) : Bool :=
  c = ' ' || c = '\t' || c = '\n' || c = '\r'

/-! ## Numbers -/

/-- Split off the leading digits of a text. -/
def digits : List Char → List Digit × List Char
  | [] => ([], [])
  | c :: rest =>
      match Digit.ofChar? c with
      | none => ([], c :: rest)
      | some d => (d :: (digits rest).1, (digits rest).2)

/-- Splitting off digits never lengthens a text. -/
theorem length_digits_le (s : List Char) : (digits s).2.length ≤ s.length := by
  induction s with
  | nil => simp [digits]
  | cons c rest ih =>
      simp only [digits]
      split
      · simp
      · simpa using Nat.le_succ_of_le ih

/-- The digits before the point: at least one, and a leading zero stands alone. -/
def whole? (s : List Char) : Option (List Digit × List Char) :=
  match digits s with
  | ([], _) => none
  | (d :: ds, rest) => if d = Digit.zero ∧ ds ≠ [] then none else some (d :: ds, rest)

/-- The digits after a point, if the text goes on with a point. -/
def fraction? (s : List Char) : Option (Option (List Digit) × List Char) :=
  match s with
  | '.' :: rest =>
      match digits rest with
      | ([], _) => none
      | (ds, rest) => some (some ds, rest)
  | _ => some (none, s)

/-- The sign that may stand in front of the digits of an exponent: is it a minus, and what
follows. -/
def exponentSign : List Char → Bool × List Char
  | '-' :: rest => (true, rest)
  | '+' :: rest => (false, rest)
  | s => (false, s)

/-- The exponent, if the text goes on with a mark for one. -/
def exponent? (s : List Char) : Option (Option Exponent × List Char) :=
  match s with
  | [] => some (none, [])
  | c :: rest =>
      if c = 'e' ∨ c = 'E' then
        match digits (exponentSign rest).2 with
        | ([], _) => none
        | (ds, after) => some (some ⟨(exponentSign rest).1, ds⟩, after)
      else
        some (none, c :: rest)

/-- A number after its sign. -/
def magnitude? (negative : Bool) (s : List Char) : Option (Numeral × List Char) := do
  let (whole, s) ← whole? s
  let (fraction, s) ← fraction? s
  let (exponent, s) ← exponent? s
  return (⟨negative, whole, fraction, exponent⟩, s)

/-- A number at the beginning of a text, and what follows it. -/
def number? : List Char → Option (Numeral × List Char)
  | '-' :: rest => magnitude? true rest
  | s => magnitude? false s

/-! ## Strings -/

/-- The value of a hexadecimal digit. -/
def hexDigit? (c : Char) : Option Nat :=
  if '0' ≤ c ∧ c ≤ '9' then some (c.toNat - '0'.toNat)
  else if 'a' ≤ c ∧ c ≤ 'f' then some (c.toNat - 'a'.toNat + 10)
  else if 'A' ≤ c ∧ c ≤ 'F' then some (c.toNat - 'A'.toNat + 10)
  else none

/-- The number that four hexadecimal digits denote. -/
def hexQuad? (a b c d : Char) : Option Nat := do
  let a ← hexDigit? a
  let b ← hexDigit? b
  let c ← hexDigit? c
  let d ← hexDigit? d
  return ((a * 16 + b) * 16 + c) * 16 + d

/-- A number is the first half of a surrogate pair. -/
def isHighSurrogate (n : Nat) : Bool :=
  0xD800 ≤ n && n ≤ 0xDBFF

/-- A number is the second half of a surrogate pair. -/
def isLowSurrogate (n : Nat) : Bool :=
  0xDC00 ≤ n && n ≤ 0xDFFF

/-- The character that a pair of surrogates denotes. -/
def ofSurrogates (high low : Nat) : Char :=
  Char.ofNat (0x10000 + (high - 0xD800) * 0x400 + (low - 0xDC00))

/-- The character that a one-letter escape denotes. -/
def simpleEscape? : Char → Option Char
  | '"' => some '"'
  | '\\' => some '\\'
  | '/' => some '/'
  | 'b' => some '\x08'
  | 'f' => some '\x0c'
  | 'n' => some '\n'
  | 'r' => some '\r'
  | 't' => some '\t'
  | _ => none

/-- One element of a string as it is written: a character, or a sixteen-bit unit given by four
hexadecimal digits. -/
inductive Element where
  | plain (c : Char)
  | unit (n : Nat)

/-- The elements of a string up to its closing quote, and what follows the quote. -/
def elements? : List Char → Option (List Element × List Char)
  | [] => none
  | '"' :: rest => some ([], rest)
  | '\\' :: 'u' :: a :: b :: c :: d :: rest =>
      match hexQuad? a b c d, elements? rest with
      | some n, some (elements, after) => some (.unit n :: elements, after)
      | _, _ => none
  | '\\' :: c :: rest =>
      match simpleEscape? c, elements? rest with
      | some c, some (elements, after) => some (.plain c :: elements, after)
      | _, _ => none
  | c :: rest =>
      if c < ' ' then none
      else
        match elements? rest with
        | some (elements, after) => some (.plain c :: elements, after)
        | none => none

/-- The characters that elements denote: a first half of a surrogate pair must be followed by a
second half, which may not stand anywhere else. -/
def characters? : List Element → Option (List Char)
  | [] => some []
  | .plain c :: rest => (characters? rest).map (c :: ·)
  | .unit high :: .unit low :: rest =>
      if isHighSurrogate high then
        if isLowSurrogate low then (characters? rest).map (ofSurrogates high low :: ·) else none
      else if isLowSurrogate high then none
      else (characters? (.unit low :: rest)).map (Char.ofNat high :: ·)
  | .unit n :: rest =>
      if isHighSurrogate n || isLowSurrogate n then none
      else (characters? rest).map (Char.ofNat n :: ·)

/-- A string token after its opening quote. -/
def string? (s : List Char) : Option (Token × List Char) := do
  let (elements, rest) ← elements? s
  let characters ← characters? elements
  return (.string (String.ofList characters), rest)

/-! ## Texts -/

/-- The first token of a text that does not start with a blank, and the text after it. -/
def next? : List Char → Option (Token × List Char)
  | '[' :: rest => some (.openArray, rest)
  | ']' :: rest => some (.closeArray, rest)
  | '\x7b' :: rest => some (.openObject, rest)
  | '\x7d' :: rest => some (.closeObject, rest)
  | ',' :: rest => some (.comma, rest)
  | ':' :: rest => some (.colon, rest)
  | 'n' :: 'u' :: 'l' :: 'l' :: rest => some (.null, rest)
  | 't' :: 'r' :: 'u' :: 'e' :: rest => some (.bool true, rest)
  | 'f' :: 'a' :: 'l' :: 's' :: 'e' :: rest => some (.bool false, rest)
  | '"' :: rest => string? rest
  | s => (number? s).map fun read => (.number read.1, read.2)

/-! ## Every token takes up at least one character -/

/-- The digits before a point take up at least one character. -/
theorem length_lt_of_whole? {s rest : List Char} {ds : List Digit}
    (h : whole? s = some (ds, rest)) : rest.length < s.length := by
  cases s with
  | nil => simp [whole?, digits] at h
  | cons c cs =>
      have := length_digits_le cs
      simp only [whole?, digits] at h
      grind

/-- A fraction never lengthens a text. -/
theorem length_le_of_fraction? {s rest : List Char} {ds : Option (List Digit)}
    (h : fraction? s = some (ds, rest)) : rest.length ≤ s.length := by
  unfold fraction? at h
  split at h
  · next t =>
      have := length_digits_le t
      grind
  · grind

/-- A sign never lengthens a text. -/
theorem length_exponentSign_le (s : List Char) : (exponentSign s).2.length ≤ s.length := by
  unfold exponentSign
  split <;> simp

/-- An exponent never lengthens a text. -/
theorem length_le_of_exponent? {s rest : List Char} {e : Option Exponent}
    (h : exponent? s = some (e, rest)) : rest.length ≤ s.length := by
  unfold exponent? at h
  split at h
  · grind
  · next c t =>
      have h1 := length_exponentSign_le t
      have h2 := length_digits_le (exponentSign t).2
      grind

/-- A number takes up at least one character after its sign. -/
theorem length_lt_of_magnitude? {negative : Bool} {s rest : List Char} {n : Numeral}
    (h : magnitude? negative s = some (n, rest)) : rest.length < s.length := by
  simp only [magnitude?, bind, Option.bind_eq_some_iff] at h
  obtain ⟨⟨w, s1⟩, h1, ⟨f, s2⟩, h2, ⟨e, s3⟩, h3, h4⟩ := h
  have l1 := length_lt_of_whole? h1
  have l2 := length_le_of_fraction? h2
  have l3 := length_le_of_exponent? h3
  simp at h4
  grind

/-- A number takes up at least one character. -/
theorem length_lt_of_number? {s rest : List Char} {n : Numeral}
    (h : number? s = some (n, rest)) : rest.length < s.length := by
  unfold number? at h
  split at h
  · exact Nat.lt_succ_of_lt (length_lt_of_magnitude? h)
  · exact length_lt_of_magnitude? h

/-- The rest of a string takes up at least one character. -/
theorem length_lt_of_elements? {s rest : List Char} {elements : List Element}
    (h : elements? s = some (elements, rest)) : rest.length < s.length := by
  fun_induction elements? s generalizing elements rest with
  | case3 a b c d tail n tailElements after _ _ ih =>
      have := ih (by assumption)
      simp only [List.length_cons]
      grind
  | _ => grind

/-- A string takes up at least one character. -/
theorem length_lt_of_string? {s rest : List Char} {t : Token}
    (h : string? s = some (t, rest)) : rest.length < s.length := by
  simp only [string?, bind, Option.bind_eq_some_iff] at h
  obtain ⟨⟨elements, s1⟩, h1, cs, -, h2⟩ := h
  have := length_lt_of_elements? h1
  simp at h2
  grind

/-- A token takes up at least one character. -/
theorem length_lt_of_next? {s rest : List Char} {t : Token}
    (h : next? s = some (t, rest)) : rest.length < s.length := by
  unfold next? at h
  split at h
  case h_10 => exact Nat.lt_succ_of_lt (length_lt_of_string? h)
  case h_11 =>
    obtain ⟨read, hread, hpair⟩ := Option.map_eq_some_iff.mp h
    have := length_lt_of_number? hread
    grind
  all_goals
    simp only [Option.some.injEq, Prod.mk.injEq] at h
    simp [← h.2]
    try omega

end Token

/-- The number that a text writes from its beginning to its end. -/
def numeral? (text : String) : Option Numeral :=
  match Token.number? text.toList with
  | some (n, []) => some n
  | _ => none

/-- All tokens of a text; blanks are skipped. -/
def tokens? (s : List Char) : Option (List Token) :=
  match s with
  | [] => some []
  | c :: rest =>
      if Token.isBlank c then
        tokens? rest
      else
        match _next : Token.next? (c :: rest) with
        | none => none
        | some (token, after) => (tokens? after).map (token :: ·)
termination_by s.length
decreasing_by
  · simp
  · exact Token.length_lt_of_next? _next

end Json
end Casebook
