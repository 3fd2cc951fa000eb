/-!
# Texts cut at a separator

Main definitions:

- {lit}`Text.pieces`: the stretches of a text between the separators.
-/

namespace Casebook
namespace Text

/-- The stretches of a text before, between and after the separators: one more than there are
separators. -/
def pieces (separator : Char) : List Char → List (List Char)
  | [] => [[]]
  | c :: rest =>
      if c = separator then [] :: pieces separator rest
      else
        match pieces separator rest with
        | [] => [[c]]
        | piece :: others => (c :: piece) :: others

/-- There is always a first stretch. -/
theorem pieces_ne_nil (separator : Char) (s : List Char) : pieces separator s ≠ [] := by
  cases s with
  | nil => simp [pieces]
  | cons c rest =>
      unfold pieces
      split
      · simp
      · split <;> simp

/-- A separator between two texts separates their stretches. -/
theorem pieces_append_separator (separator : Char) (s t : List Char) :
    pieces separator (s ++ separator :: t) = pieces separator s ++ pieces separator t := by
  induction s with
  | nil => simp [pieces]
  | cons c rest ih =>
      by_cases h : c = separator
      · simp [pieces, h, ih]
      · cases hp : pieces separator rest with
        | nil => exact absurd hp (pieces_ne_nil separator rest)
        | cons piece others => simp [pieces, h, ih, hp]

/-- The stretches have only characters of the text, and no separators. -/
theorem mem_of_mem_pieces {separator c : Char} {s piece : List Char}
    (hpiece : piece ∈ pieces separator s) (hc : c ∈ piece) : c ∈ s ∧ c ≠ separator := by
  induction s generalizing piece with
  | nil => simp_all [pieces]
  | cons d rest ih =>
      unfold pieces at hpiece
      split at hpiece
      · -- the separator itself
        rcases List.mem_cons.mp hpiece with rfl | hpiece
        · simp at hc
        · exact (ih hpiece hc).imp_left (List.mem_cons_of_mem d)
      · next hd =>
          split at hpiece
          · next hnil => exact absurd hnil (pieces_ne_nil separator rest)
          · next first others hfirst =>
              rcases List.mem_cons.mp hpiece with rfl | hpiece
              · rcases List.mem_cons.mp hc with rfl | hc
                · exact ⟨List.mem_cons_self, hd⟩
                · exact (ih (hfirst ▸ List.mem_cons_self) hc).imp_left (List.mem_cons_of_mem d)
              · exact (ih (hfirst ▸ List.mem_cons_of_mem _ hpiece) hc).imp_left
                  (List.mem_cons_of_mem d)

end Text
end Casebook
