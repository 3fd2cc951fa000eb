import Casebook.Json.Token
import Casebook.Json.Writing
import Casebook.Proofs.Number.Numeral

/-!
# The tokens of a written value

What is written for a number or a string is read as this very token, whatever follows, as long as a
number is not followed by a character that it could go on with.  The open form of a value is
therefore split into the tokens of the value, and the blanks between them are lost.

Main definitions:

- {lit}`Json.NumbersWellFormed`: all numbers of a value are well formed.
- {lit}`Json.tokens`: the tokens of a value.

Main results:

- Theorem {lit}`Json.Token.number?_chars`: a written number is read as the number.
- Theorem {lit}`Json.Token.string?_flatMap_escaped`: a written string is read as the string.
- Theorem {lit}`Json.tokens?_prettyChars`: the open form of a value is split into the tokens of the
  value.
-/

namespace Casebook
namespace Json
namespace Token

/-! ## Where numbers end -/

/-- Digits cannot go on with a text. -/
def StopsDigits (rest : List Char) : Prop :=
  ∀ c ∈ rest.head?, Digit.ofChar? c = none

/-- What stands before the exponent of a number cannot go on with a text. -/
def StopsFraction (rest : List Char) : Prop :=
  ∀ c ∈ rest.head?, Digit.ofChar? c = none ∧ c ≠ '.'

/-- A number cannot go on with a text. -/
def StopsNumber (rest : List Char) : Prop :=
  ∀ c ∈ rest.head?, Digit.ofChar? c = none ∧ c ≠ '.' ∧ c ≠ 'e' ∧ c ≠ 'E'

/-- A number can be followed by nothing. -/
theorem stopsNumber_nil : StopsNumber [] := by
  simp [StopsNumber]

/-- A number can be followed by a comma. -/
theorem stopsNumber_comma (rest : List Char) : StopsNumber (',' :: rest) := by
  rintro c ⟨⟩
  decide

/-- A number can be followed by a line break. -/
theorem stopsNumber_lineBreak (depth : Nat) (rest : List Char) :
    StopsNumber (lineBreak depth ++ rest) := by
  rintro c ⟨⟩
  decide

/-! ## Numbers -/

/-- The written form of an optional part of a number that starts with a point. -/
def fractionChars (fraction : Option (List Digit)) : List Char :=
  (fraction.map fun ds => '.' :: Digit.chars ds).getD []

/-- The written form of an optional exponent. -/
def exponentChars (exponent : Option Exponent) : List Char :=
  (exponent.map Exponent.chars).getD []

/-- Written digits are split off. -/
theorem digits_chars (ds : List Digit) {rest : List Char} (h : StopsDigits rest) :
    digits (Digit.chars ds ++ rest) = (ds, rest) := by
  induction ds with
  | nil =>
      cases rest with
      | nil => rfl
      | cons c rest => simp [Digit.chars, digits, h c rfl]
  | cons d ds ih =>
      have htail : digits (Digit.chars ds ++ rest) = (ds, rest) := ih
      simp only [Digit.chars, List.map_cons, List.cons_append] at htail ⊢
      simp [digits, htail]

/-- Written digits before the point are read, unless they have a leading zero. -/
theorem whole?_chars {ds : List Digit} (hne : ds ≠ [])
    (hleading : ds.head? = some Digit.zero → ds = [Digit.zero]) {rest : List Char}
    (h : StopsDigits rest) : whole? (Digit.chars ds ++ rest) = some (ds, rest) := by
  rw [whole?, digits_chars ds h]
  cases ds with
  | nil => contradiction
  | cons d ds => simp_all

/-- A written fraction is read. -/
theorem fraction?_fractionChars {fraction : Option (List Digit)} (hne : fraction ≠ some [])
    {rest : List Char} (h : StopsFraction rest) :
    fraction? (fractionChars fraction ++ rest) = some (fraction, rest) := by
  cases fraction with
  | none =>
      rw [fraction?.eq_def]
      split
      · next tail hrest =>
          have hrest : rest = '.' :: tail := hrest
          subst hrest
          exact ((h '.' rfl).2 rfl).elim
      · rfl
  | some ds =>
      have hdigits := digits_chars ds fun c hc => (h c hc).1
      cases ds with
      | nil => contradiction
      | cons d ds => simp [fractionChars, fraction?, hdigits]

/-- A sign is read in front of the digits of an exponent. -/
theorem exponentSign_chars (negative : Bool) (s : List Char) :
    exponentSign ((if negative then '-' else '+') :: s) = (negative, s) := by
  cases negative <;> rfl

/-- A written exponent is read. -/
theorem exponent?_exponentChars {exponent : Option Exponent}
    (hne : ∀ e, exponent = some e → e.digits ≠ []) {rest : List Char} (h : StopsNumber rest) :
    exponent? (exponentChars exponent ++ rest) = some (exponent, rest) := by
  cases exponent with
  | none =>
      cases rest with
      | nil => rfl
      | cons c rest =>
          have hc := h c rfl
          simp [exponentChars, exponent?, hc.2.2.1, hc.2.2.2]
  | some e =>
      rcases e with ⟨negative, ds⟩
      have hdigits := digits_chars ds fun c hc => (h c hc).1
      have hds : ds ≠ [] := hne _ rfl
      cases ds with
      | nil => contradiction
      | cons d ds =>
          simp [exponentChars, Exponent.chars, exponent?, exponentSign_chars, hdigits]

/-- An exponent stands after what it can follow. -/
theorem stopsFraction_exponentChars (exponent : Option Exponent) {rest : List Char}
    (h : StopsNumber rest) : StopsFraction (exponentChars exponent ++ rest) := by
  cases exponent with
  | none => exact fun c hc => ⟨(h c hc).1, (h c hc).2.1⟩
  | some e =>
      rintro c ⟨⟩
      decide

/-- A fraction stands after what it can follow. -/
theorem stopsDigits_fractionChars (fraction : Option (List Digit)) {rest : List Char}
    (h : StopsFraction rest) : StopsDigits (fractionChars fraction ++ rest) := by
  cases fraction with
  | none => exact fun c hc => (h c hc).1
  | some ds =>
      rintro c ⟨⟩
      decide

/-- What is written after the sign of a number is read as the number. -/
theorem magnitude?_chars {n : Numeral} (hn : n.WellFormed) {rest : List Char}
    (h : StopsNumber rest) :
    magnitude? n.negative (Digit.chars n.whole
      ++ (fractionChars n.fraction ++ (exponentChars n.exponent ++ rest))) = some (n, rest) := by
  have hexponent := stopsFraction_exponentChars n.exponent h
  have hfraction := stopsDigits_fractionChars n.fraction hexponent
  simp [magnitude?, whole?_chars hn.whole hn.leading hfraction,
    fraction?_fractionChars hn.fraction hexponent, exponent?_exponentChars hn.exponent h]

/-- The parts of a written number. -/
theorem chars_append (n : Numeral) (rest : List Char) :
    n.chars ++ rest = (if n.negative then ['-'] else []) ++ (Digit.chars n.whole
      ++ (fractionChars n.fraction ++ (exponentChars n.exponent ++ rest))) := by
  simp [Numeral.chars, fractionChars, exponentChars]

/-- No digit is a minus sign. -/
theorem number?_toChar (d : Digit) (tail : List Char) :
    number? (d.toChar :: tail) = magnitude? false (d.toChar :: tail) := by
  have hne : d.toChar ≠ '-' := by
    revert d
    decide
  rw [number?.eq_def]
  split
  · next rest hminus => exact (hne (List.cons.inj hminus).1).elim
  · rfl

/-- A written number is read as the number. -/
theorem number?_chars {n : Numeral} (hn : n.WellFormed) {rest : List Char}
    (h : StopsNumber rest) : number? (n.chars ++ rest) = some (n, rest) := by
  have hmagnitude := magnitude?_chars hn h
  rw [chars_append]
  cases hnegative : n.negative with
  | true =>
      rw [hnegative] at hmagnitude
      exact hmagnitude
  | false =>
      rw [hnegative] at hmagnitude
      cases hwhole : n.whole with
      | nil => exact (hn.whole hwhole).elim
      | cons d ds =>
          rw [hwhole] at hmagnitude
          exact (number?_toChar d _).trans hmagnitude

/-! ## Strings -/

/-- Put an element in front of the elements of a string that have been read. -/
def readFirst (element : Element) (read : List Element × List Char) : List Element × List Char :=
  (element :: read.1, read.2)

/-- The element that the written form of a character is read as: a control character without an
escape of its own is given by four hexadecimal digits. -/
def elementOf (c : Char) : Element :=
  if c < ' ' ∧ c ∉ ['\x08', '\t', '\n', '\x0c', '\r'] then .unit c.toNat else .plain c

/-- A backslash and a letter other than a u are read as the character that they denote. -/
theorem elements?_simple {letter c : Char} (h : simpleEscape? letter = some c) (hne : letter ≠ 'u')
    (rest : List Char) :
    elements? ('\\' :: letter :: rest) = (elements? rest).map (readFirst (.plain c)) := by
  cases hrest : elements? rest <;> simp [elements?, h, hrest, hne, readFirst]

/-- A backslash, a u and four hexadecimal digits are read as the number that the digits denote. -/
theorem elements?_unit {i j k l : Char} {n : Nat} (h : hexQuad? i j k l = some n)
    (rest : List Char) :
    elements? ('\\' :: 'u' :: i :: j :: k :: l :: rest) =
      (elements? rest).map (readFirst (.unit n)) := by
  cases hrest : elements? rest <;> simp [elements?, h, hrest, readFirst]

/-- Any other character is read as it is. -/
theorem elements?_plain {c : Char} (hquote : c ≠ '"') (hslash : c ≠ '\\') (hcontrol : ¬ c < ' ')
    (rest : List Char) :
    elements? (c :: rest) = (elements? rest).map (readFirst (.plain c)) := by
  cases hrest : elements? rest <;> simp [elements?, hslash, hcontrol, hrest, readFirst]

/-- Two hexadecimal digits after two zeros denote the control character that they are written
for. -/
theorem hexQuad?_hexChar {n : Nat} (h : n < 32) :
    hexQuad? '0' '0' (Text.hexChar (n / 16)) (Text.hexChar (n % 16)) = some n := by
  revert h
  revert n
  decide

/-- The written form of a character is read as its element. -/
theorem elements?_escaped (c : Char) (rest : List Char) :
    elements? (escaped c ++ rest) = (elements? rest).map (readFirst (elementOf c)) := by
  unfold escaped
  split_ifs with hquote hslash hback htab hline hform hreturn hcontrol
  · subst hquote
    exact elements?_simple rfl (by decide) rest
  · subst hslash
    exact elements?_simple rfl (by decide) rest
  · subst hback
    exact elements?_simple rfl (by decide) rest
  · subst htab
    exact elements?_simple rfl (by decide) rest
  · subst hline
    exact elements?_simple rfl (by decide) rest
  · subst hform
    exact elements?_simple rfl (by decide) rest
  · subst hreturn
    exact elements?_simple rfl (by decide) rest
  · have helement : elementOf c = .unit c.toNat := by
      simp [elementOf, hcontrol, hback, htab, hline, hform, hreturn]
    rw [helement]
    exact elements?_unit (hexQuad?_hexChar (UInt32.lt_iff_toNat_lt.mp hcontrol)) rest
  · have helement : elementOf c = .plain c := by
      simp [elementOf, hcontrol]
    rw [helement]
    exact elements?_plain hquote hslash hcontrol rest

/-- A number that is no half of a surrogate pair denotes its character. -/
theorem characters?_unit {n : Nat} (hhigh : isHighSurrogate n = false)
    (hlow : isLowSurrogate n = false) (rest : List Element) :
    characters? (.unit n :: rest) = (characters? rest).map (Char.ofNat n :: ·) := by
  cases rest with
  | nil => simp [characters?, hhigh, hlow]
  | cons element rest => cases element <;> simp [characters?, hhigh, hlow]

/-- The elements that characters are written as denote the characters. -/
theorem characters?_map_elementOf (cs : List Char) :
    characters? (cs.map elementOf) = some cs := by
  induction cs with
  | nil => rfl
  | cons c cs ih =>
      rw [List.map_cons, elementOf]
      split
      · next hunit =>
          have hsmall : c.toNat < 32 := UInt32.lt_iff_toNat_lt.mp hunit.1
          rw [characters?_unit, ih]
          · simp
          · simp [isHighSurrogate]
            omega
          · simp [isLowSurrogate]
            omega
      · rw [characters?, ih]
        rfl

/-- The elements of a written string are those of its characters. -/
theorem elements?_flatMap_escaped (cs rest : List Char) :
    elements? (cs.flatMap escaped ++ '"' :: rest) = some (cs.map elementOf, rest) := by
  induction cs with
  | nil => rfl
  | cons c cs ih =>
      rw [List.flatMap_cons, List.append_assoc, elements?_escaped, ih]
      rfl

/-- A written string is read as the string. -/
theorem string?_flatMap_escaped (s : String) (rest : List Char) :
    string? (s.toList.flatMap escaped ++ '"' :: rest) = some (.string s, rest) := by
  simp [string?, elements?_flatMap_escaped, characters?_map_elementOf]

/-! ## Tokens -/

/-- What is read as a number is the first token. -/
theorem next?_of_number? {s rest : List Char} {n : Numeral} (h : number? s = some (n, rest)) :
    next? s = some (.number n, rest) := by
  unfold next?
  split
  case h_11 => simp [h]
  all_goals cases h

/-- A written number is the first token. -/
theorem next?_chars {n : Numeral} (hn : n.WellFormed) {rest : List Char} (h : StopsNumber rest) :
    next? (n.chars ++ rest) = some (.number n, rest) :=
  next?_of_number? (number?_chars hn h)

/-- A written string is the first token. -/
theorem next?_quoted (s : String) (rest : List Char) :
    next? (quoted s ++ rest) = some (.string s, rest) := by
  have hstring := string?_flatMap_escaped s rest
  simpa [quoted, next?] using hstring

/-- The first token of a text does not start with a blank. -/
theorem isBlank_eq_false_of_next? {c : Char} {s rest : List Char} {token : Token}
    (h : next? (c :: s) = some (token, rest)) : isBlank c = false := by
  by_contra hblank
  simp only [isBlank, Bool.not_eq_false, Bool.or_eq_true, decide_eq_true_eq] at hblank
  rcases hblank with ((rfl | rfl) | rfl) | rfl <;> cases h

end Token

/-! ## Whole texts -/

/-- What stands before the first token is skipped. -/
theorem tokens?_blank {c : Char} (h : Token.isBlank c = true) (rest : List Char) :
    tokens? (c :: rest) = tokens? rest := by
  rw [tokens?, if_pos h]

/-- The first token is read first. -/
theorem tokens?_of_next? {s rest : List Char} {token : Token}
    (h : Token.next? s = some (token, rest)) :
    tokens? s = (tokens? rest).map (token :: ·) := by
  cases s with
  | nil => contradiction
  | cons c s =>
      rw [tokens?, Token.isBlank_eq_false_of_next? h]
      simp only [Bool.false_eq_true, if_false]
      split
      · next hnone =>
          rw [h] at hnone
          contradiction
      · next hsome =>
          rw [h, Option.some.injEq, Prod.mk.injEq] at hsome
          rw [hsome.1, hsome.2]

/-- A line break and an indentation are skipped. -/
theorem tokens?_lineBreak (depth : Nat) (rest : List Char) :
    tokens? (lineBreak depth ++ rest) = tokens? rest := by
  have hblanks : ∀ count, tokens? (List.replicate count ' ' ++ rest) = tokens? rest := by
    intro count
    induction count with
    | zero => rfl
    | succ count ih => rw [List.replicate_succ, List.cons_append, tokens?_blank rfl, ih]
  rw [lineBreak, List.cons_append, tokens?_blank rfl, hblanks]

/-! ## Values -/

mutual

/-- All numbers of a value are well formed. -/
def NumbersWellFormed : Json → Prop
  | .number n => n.WellFormed
  | .array items => NumbersWellFormedItems items
  | .object fields => NumbersWellFormedFields fields
  | _ => True

/-- All numbers of some items are well formed. -/
def NumbersWellFormedItems : List Json → Prop
  | [] => True
  | item :: items => NumbersWellFormed item ∧ NumbersWellFormedItems items

/-- All numbers of some fields are well formed. -/
def NumbersWellFormedFields : List (String × Json) → Prop
  | [] => True
  | (_, value) :: fields => NumbersWellFormed value ∧ NumbersWellFormedFields fields

end

/-- All numbers of some items are well formed if those of each of them are. -/
theorem numbersWellFormedItems_iff (items : List Json) :
    NumbersWellFormedItems items ↔ ∀ item ∈ items, item.NumbersWellFormed := by
  induction items with
  | nil => simp [NumbersWellFormedItems]
  | cons item items ih => rw [NumbersWellFormedItems, ih, List.forall_mem_cons]

/-- All numbers of some fields are well formed if those of each of them are. -/
theorem numbersWellFormedFields_iff (fields : List (String × Json)) :
    NumbersWellFormedFields fields ↔ ∀ field ∈ fields, field.2.NumbersWellFormed := by
  induction fields with
  | nil => simp [NumbersWellFormedFields]
  | cons field fields ih => rw [NumbersWellFormedFields, ih, List.forall_mem_cons]

mutual

/-- The tokens of a value. -/
def tokens : Json → List Token
  | .null => [.null]
  | .bool b => [.bool b]
  | .number n => [.number n]
  | .string s => [.string s]
  | .array [] => [.openArray, .closeArray]
  | .array (item :: items) => .openArray :: tokens item ++ laterItems items ++ [.closeArray]
  | .object [] => [.openObject, .closeObject]
  | .object ((key, value) :: fields) =>
      .openObject :: .string key :: .colon :: tokens value ++ laterFields fields ++ [.closeObject]

/-- The tokens of the further items of an array. -/
def laterItems : List Json → List Token
  | [] => []
  | item :: items => .comma :: tokens item ++ laterItems items

/-- The tokens of the further fields of an object. -/
def laterFields : List (String × Json) → List Token
  | [] => []
  | (key, value) :: fields => .comma :: .string key :: .colon :: tokens value ++ laterFields fields

end

/-- A number can be followed by the further items of an array. -/
theorem stopsNumber_prettyItems (depth : Nat) (items : List Json) {rest : List Char}
    (h : Token.StopsNumber rest) : Token.StopsNumber (prettyItems depth items ++ rest) := by
  cases items with
  | nil => exact h
  | cons item items => exact Token.stopsNumber_comma _

/-- A number can be followed by the further fields of an object. -/
theorem stopsNumber_prettyFields (depth : Nat) (fields : List (String × Json)) {rest : List Char}
    (h : Token.StopsNumber rest) : Token.StopsNumber (prettyFields depth fields ++ rest) := by
  cases fields with
  | nil => exact h
  | cons field fields => exact Token.stopsNumber_comma _

mutual

/-- The open form of a value is split into the tokens of the value. -/
theorem tokens?_prettyChars : (value : Json) → value.NumbersWellFormed → (depth : Nat) →
    (rest : List Char) → Token.StopsNumber rest →
      tokens? (prettyChars depth value ++ rest) = (tokens? rest).map (value.tokens ++ ·)
  | .null, _, depth, rest, _ => tokens?_of_next? rfl
  | .bool true, _, depth, rest, _ => tokens?_of_next? rfl
  | .bool false, _, depth, rest, _ => tokens?_of_next? rfl
  | .number n, hvalue, depth, rest, hrest => tokens?_of_next? (Token.next?_chars hvalue hrest)
  | .string s, _, depth, rest, _ => tokens?_of_next? (Token.next?_quoted s rest)
  | .array [], _, depth, rest, _ => by
      have hopen : tokens? (prettyChars depth (.array []) ++ rest) =
          (tokens? (']' :: rest)).map (.openArray :: ·) := tokens?_of_next? rfl
      have hclose : tokens? (']' :: rest) = (tokens? rest).map (.closeArray :: ·) :=
        tokens?_of_next? rfl
      rw [hopen, hclose, Option.map_map]
      rfl
  | .array (item :: items), hvalue, depth, rest, _ => by
      simp only [NumbersWellFormed, NumbersWellFormedItems] at hvalue
      let close := lineBreak depth ++ ']' :: rest
      have hstop : Token.StopsNumber close := Token.stopsNumber_lineBreak depth _
      have hopen : tokens? ('[' :: (lineBreak (depth + 1) ++ (prettyChars (depth + 1) item
          ++ (prettyItems (depth + 1) items ++ close)))) = _ := tokens?_of_next? rfl
      have hclose : tokens? close = (tokens? rest).map (.closeArray :: ·) := by
        rw [tokens?_lineBreak]
        exact tokens?_of_next? rfl
      rw [tokens?_lineBreak, tokens?_prettyChars item hvalue.1 _ _
        (stopsNumber_prettyItems _ items hstop), tokens?_prettyItems items hvalue.2 _ _ hstop,
        hclose] at hopen
      simpa [prettyChars, tokens, close, Function.comp_def] using hopen
  | .object [], _, depth, rest, _ => by
      have hopen : tokens? (prettyChars depth (.object []) ++ rest) =
          (tokens? ('\x7d' :: rest)).map (.openObject :: ·) := tokens?_of_next? rfl
      have hclose : tokens? ('\x7d' :: rest) = (tokens? rest).map (.closeObject :: ·) :=
        tokens?_of_next? rfl
      rw [hopen, hclose, Option.map_map]
      rfl
  | .object ((key, value) :: fields), hvalue, depth, rest, _ => by
      simp only [NumbersWellFormed, NumbersWellFormedFields] at hvalue
      let close := lineBreak depth ++ '\x7d' :: rest
      have hstop : Token.StopsNumber close := Token.stopsNumber_lineBreak depth _
      have hclose : tokens? close = (tokens? rest).map (.closeObject :: ·) := by
        rw [tokens?_lineBreak]
        exact tokens?_of_next? rfl
      have hfield := tokens?_field key value hvalue.1 (depth + 1) _
        (stopsNumber_prettyFields (depth + 1) fields hstop)
      have hopen : tokens? ('\x7b' :: (lineBreak (depth + 1) ++ (quoted key ++ ':' :: ' '
          :: (prettyChars (depth + 1) value ++ (prettyFields (depth + 1) fields ++ close))))) = _ :=
        tokens?_of_next? rfl
      rw [tokens?_lineBreak, hfield, tokens?_prettyFields fields hvalue.2 _ _ hstop,
        hclose] at hopen
      simpa [prettyChars, tokens, close, Function.comp_def] using hopen

/-- A written field is split into the key, a colon and the tokens of the value. -/
theorem tokens?_field (key : String) (value : Json) (hvalue : value.NumbersWellFormed)
    (depth : Nat) (rest : List Char) (hrest : Token.StopsNumber rest) :
    tokens? (quoted key ++ ':' :: ' ' :: (prettyChars depth value ++ rest)) =
      (tokens? rest).map (.string key :: .colon :: value.tokens ++ ·) := by
  have hkey := tokens?_of_next? (Token.next?_quoted key
    (':' :: ' ' :: (prettyChars depth value ++ rest)))
  have hcolon : tokens? (':' :: ' ' :: (prettyChars depth value ++ rest)) = _ :=
    tokens?_of_next? rfl
  rw [hcolon, tokens?_blank rfl, tokens?_prettyChars value hvalue depth rest hrest] at hkey
  simpa [Function.comp_def] using hkey

/-- The further items of an array are split into commas and the tokens of the items. -/
theorem tokens?_prettyItems : (items : List Json) → NumbersWellFormedItems items →
    (depth : Nat) → (rest : List Char) → Token.StopsNumber rest →
      tokens? (prettyItems depth items ++ rest) = (tokens? rest).map (laterItems items ++ ·)
  | [], _, depth, rest, _ => by simp [prettyItems, laterItems]
  | item :: items, hitems, depth, rest, hrest => by
      rw [NumbersWellFormedItems] at hitems
      have hcomma : tokens? (',' :: (lineBreak depth ++ (prettyChars depth item
          ++ (prettyItems depth items ++ rest)))) = _ := tokens?_of_next? rfl
      rw [tokens?_lineBreak, tokens?_prettyChars item hitems.1 _ _
        (stopsNumber_prettyItems _ items hrest),
        tokens?_prettyItems items hitems.2 _ _ hrest] at hcomma
      simpa [prettyItems, laterItems, Function.comp_def] using hcomma

/-- The further fields of an object are split into commas and the tokens of the fields. -/
theorem tokens?_prettyFields : (fields : List (String × Json)) → NumbersWellFormedFields fields →
    (depth : Nat) → (rest : List Char) → Token.StopsNumber rest →
      tokens? (prettyFields depth fields ++ rest) = (tokens? rest).map (laterFields fields ++ ·)
  | [], _, depth, rest, _ => by simp [prettyFields, laterFields]
  | (key, value) :: fields, hfields, depth, rest, hrest => by
      rw [NumbersWellFormedFields] at hfields
      have hcomma : tokens? (',' :: (lineBreak depth ++ (quoted key ++ ':' :: ' '
          :: (prettyChars depth value ++ (prettyFields depth fields ++ rest))))) = _ :=
        tokens?_of_next? rfl
      rw [tokens?_lineBreak, tokens?_field key value hfields.1 depth _
        (stopsNumber_prettyFields depth fields hrest),
        tokens?_prettyFields fields hfields.2 _ _ hrest] at hcomma
      simpa [prettyFields, laterFields, Function.comp_def] using hcomma

end

/-- The open form of a value, if all its numbers are well formed, has the tokens of the value. -/
theorem tokens?_pretty {value : Json} (h : value.NumbersWellFormed) :
    tokens? value.pretty.toList = some value.tokens := by
  have hchars := tokens?_prettyChars value h 0 [] Token.stopsNumber_nil
  rw [pretty, String.toList_ofList]
  simpa [tokens?] using hchars

end Json
end Casebook
