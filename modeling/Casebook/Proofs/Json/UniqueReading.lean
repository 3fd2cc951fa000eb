import Casebook.Proofs.Json.Lexing

/-!
# Values can be told from their tokens

The tokens of a value show where it ends, whatever follows, because every array and every object is
closed by a token that no value and no further item starts with.  Together with the reading of
tokens this shows that values that are written alike are equal, however deep they are nested.

Main results:

- Theorem {lit}`Json.tokens_append_inj`: a value at the beginning of some tokens is determined by
  them, and so is what follows it.
- Theorem {lit}`Json.pretty_injective`: values with the same open form are equal.
-/

namespace Casebook
namespace Json

/-- No value starts with the token that closes an array. -/
theorem tokens_append_ne_closeArray (value : Json) (rest tail : List Token) :
    value.tokens ++ rest ≠ .closeArray :: tail := by
  cases value with
  | array items => cases items <;> simp [tokens]
  | object fields =>
      cases fields with
      | nil => simp [tokens]
      | cons field fields =>
          rcases field with ⟨key, value⟩
          simp [tokens]
  | _ => simp [tokens]

mutual

/-- A value at the beginning of some tokens is determined by them, and so is what follows it. -/
theorem tokens_append_inj : (value other : Json) → (rest tail : List Token) →
    value.tokens ++ rest = other.tokens ++ tail → value = other ∧ rest = tail
  | .null, other, rest, tail, h => by
      rcases other with _ | _ | _ | _ | (_ | _) | (_ | _) <;> simp_all [tokens]
  | .bool b, other, rest, tail, h => by
      rcases other with _ | _ | _ | _ | (_ | _) | (_ | _) <;> simp_all [tokens]
  | .number n, other, rest, tail, h => by
      rcases other with _ | _ | _ | _ | (_ | _) | (_ | _) <;> simp_all [tokens]
  | .string s, other, rest, tail, h => by
      rcases other with _ | _ | _ | _ | (_ | _) | (_ | _) <;> simp_all [tokens]
  | .array [], other, rest, tail, h => by
      rcases other with _ | _ | _ | _ | (_ | ⟨twin, twins⟩) | (_ | _)
      case array.cons =>
        simp only [tokens, List.cons_append, List.append_assoc, List.cons.injEq, true_and] at h
        exact (tokens_append_ne_closeArray twin _ _ h.symm).elim
      all_goals simp_all [tokens]
  | .array (item :: items), other, rest, tail, h => by
      rcases other with _ | _ | _ | _ | (_ | ⟨twin, twins⟩) | (_ | _)
      case array.nil =>
        simp only [tokens, List.cons_append, List.append_assoc, List.cons.injEq, true_and] at h
        exact (tokens_append_ne_closeArray item _ _ h).elim
      case array.cons =>
        simp only [tokens, List.cons_append, List.append_assoc, List.cons.injEq, true_and] at h
        rcases tokens_append_inj item twin _ _ h with ⟨rfl, hitems⟩
        rcases laterItems_append_inj items twins rest tail hitems with ⟨rfl, rfl⟩
        exact ⟨rfl, rfl⟩
      all_goals simp_all [tokens]
  | .object [], other, rest, tail, h => by
      rcases other with _ | _ | _ | _ | (_ | _) | (_ | _) <;> simp_all [tokens]
  | .object ((key, value) :: fields), other, rest, tail, h => by
      rcases other with _ | _ | _ | _ | (_ | _) | (_ | ⟨⟨name, twin⟩, twins⟩)
      case object.cons =>
        simp only [tokens, List.cons_append, List.append_assoc, List.cons.injEq, true_and,
          Token.string.injEq] at h
        rcases h with ⟨rfl, hvalue⟩
        rcases tokens_append_inj value twin _ _ hvalue with ⟨rfl, hfields⟩
        rcases laterFields_append_inj fields twins rest tail hfields with ⟨rfl, rfl⟩
        exact ⟨rfl, rfl⟩
      all_goals simp_all [tokens]

/-- The further items of an array are determined by the tokens up to the end of the array. -/
theorem laterItems_append_inj : (items others : List Json) → (rest tail : List Token) →
    laterItems items ++ .closeArray :: rest = laterItems others ++ .closeArray :: tail →
      items = others ∧ rest = tail
  | [], others, rest, tail, h => by
      cases others <;> simp_all [laterItems]
  | item :: items, [], rest, tail, h => by
      simp [laterItems] at h
  | item :: items, other :: others, rest, tail, h => by
      simp only [laterItems, List.cons_append, List.append_assoc, List.cons.injEq, true_and] at h
      rcases tokens_append_inj item other _ _ h with ⟨rfl, hitems⟩
      rcases laterItems_append_inj items others rest tail hitems with ⟨rfl, rfl⟩
      exact ⟨rfl, rfl⟩

/-- The further fields of an object are determined by the tokens up to the end of the object. -/
theorem laterFields_append_inj : (fields others : List (String × Json)) →
    (rest tail : List Token) →
    laterFields fields ++ .closeObject :: rest = laterFields others ++ .closeObject :: tail →
      fields = others ∧ rest = tail
  | [], others, rest, tail, h => by
      cases others <;> simp_all [laterFields]
  | (key, value) :: fields, [], rest, tail, h => by
      simp [laterFields] at h
  | (key, value) :: fields, (name, other) :: others, rest, tail, h => by
      simp only [laterFields, List.cons_append, List.append_assoc, List.cons.injEq, true_and,
        Token.string.injEq] at h
      rcases h with ⟨rfl, hvalue⟩
      rcases tokens_append_inj value other _ _ hvalue with ⟨rfl, hfields⟩
      rcases laterFields_append_inj fields others rest tail hfields with ⟨rfl, rfl⟩
      exact ⟨rfl, rfl⟩

end

/-- Values with the same tokens are equal. -/
theorem tokens_injective {value other : Json} (h : value.tokens = other.tokens) :
    value = other :=
  (tokens_append_inj value other [] [] (by rw [h])).1

/-- Values with the same open form are equal, if all their numbers are well formed. -/
theorem pretty_injective {value other : Json} (hvalue : value.NumbersWellFormed)
    (hother : other.NumbersWellFormed) (h : value.pretty = other.pretty) : value = other := by
  have htokens := tokens?_pretty hvalue
  rw [h, tokens?_pretty hother, Option.some.injEq] at htokens
  exact tokens_injective htokens.symm

end Json
end Casebook
