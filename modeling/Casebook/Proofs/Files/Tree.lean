import Casebook.Files.Volume
import Casebook.Proofs.Table
import Mathlib.Data.List.Infix

/-!
# Trees of files

A place in a tree is the list of names that lead to it.  Setting a node at a place is felt there and
below, and above only in that the way to the place leads through directories.  Where the node is a
new entry of a directory, or takes the place of a file, nothing else changes.

Main definitions:

- {lit}`Node.HasDirectory`: there is a directory at a place.
- {lit}`Node.KeptBut`: a tree is kept but for the files at some places.

Main results:

- Theorem {lit}`Node.at?_set_self`: what was set is found.
- Theorem {lit}`Node.at?_set_of_diverges`: what is neither above nor below is as it was.
- Theorem {lit}`Node.keptBut_set`: a tree is kept but for the place where a node is set, if there was
  no directory.
-/

namespace Casebook
namespace Node

/-! ## Following names -/

/-- The first name leads to a child, the others lead on from there. -/
theorem at?_cons (node : Node) (name : String) (names : List String) :
    node.at? (name :: names) = (node.child? name).bind fun child => child.at? names :=
  rfl

/-- Following names is following the first ones and then the others. -/
theorem at?_append (node : Node) (first second : List String) :
    node.at? (first ++ second) = (node.at? first).bind fun inner => inner.at? second := by
  induction first generalizing node with
  | nil => rfl
  | cons name names ih =>
      rw [List.cons_append, at?_cons, at?_cons]
      cases node.child? name with
      | none => rfl
      | some child => exact ih child

/-- There is a directory at a place. -/
def HasDirectory (node : Node) (place : List String) : Prop :=
  ∃ entries, node.at? place = some (.directory entries)

/-- The entries of a directory are what is found one name further. -/
theorem at?_append_singleton {node : Node} {place : List String}
    {entries : List (String × Node)} (h : node.at? place = some (.directory entries))
    (name : String) : node.at? (place ++ [name]) = entries.lookup name := by
  rw [at?_append, h, Option.bind_some, at?_cons, child?]
  cases entries.lookup name <;> rfl

/-- Below a place without a directory there is nothing. -/
theorem at?_below_eq_none {node : Node} {place : List String} (h : ¬ node.HasDirectory place)
    (name : String) (names : List String) : node.at? (place ++ name :: names) = none := by
  rw [at?_append]
  cases hplace : node.at? place with
  | none => rfl
  | some inner =>
      cases inner with
      | file contents => rfl
      | directory entries => exact (h ⟨entries, hplace⟩).elim

/-- Where there is a file, there is no directory. -/
theorem not_hasDirectory_of_file {node : Node} {place : List String} {contents : ByteArray}
    (h : node.at? place = some (.file contents)) : ¬ node.HasDirectory place := by
  rintro ⟨entries, hentries⟩
  cases h.symm.trans hentries

/-! ## Setting a node -/

/-- An entry that was set is found under its name, and the others as before. -/
theorem lookup_setEntry (name other : String) (child : Node) (entries : List (String × Node)) :
    (setEntry name child entries).lookup other =
      if other = name then some child else entries.lookup other := by
  induction entries with
  | nil => rw [setEntry, Table.lookup_cons_eq_ite]
  | cons entry rest ih =>
      rcases entry with ⟨held, node⟩
      by_cases hheld : held = name
      · subst hheld
        rw [setEntry, if_pos rfl, Table.lookup_cons_eq_ite, Table.lookup_cons_eq_ite]
        by_cases hother : other = held
        · rw [if_pos hother, if_pos hother]
        · rw [if_neg hother, if_neg hother, if_neg hother]
      · rw [setEntry, if_neg hheld, Table.lookup_cons_eq_ite, Table.lookup_cons_eq_ite, ih]
        by_cases hother : other = held
        · have hne : ¬ other = name := hother ▸ hheld
          rw [if_pos hother, if_neg hne, if_pos hother]
        · rw [if_neg hother, if_neg hother]

/-- The child after a node was set at or below some child. -/
theorem child?_set (node : Node) (name : String) (names : List String) (child : Node)
    (other : String) :
    (node.set (name :: names) child).child? other =
      if other = name then
        some (((node.child? name).getD (.directory [])).set names child)
      else node.child? other := by
  cases node with
  | directory entries => exact lookup_setEntry name other _ entries
  | file contents => exact Table.lookup_cons_eq_ite other name _ []

/-- What was set at a place is found there. -/
theorem at?_set_self (node : Node) (place : List String) (child : Node) :
    (node.set place child).at? place = some child := by
  induction place generalizing node with
  | nil => cases node <;> rfl
  | cons name names ih => rw [at?_cons, child?_set, if_pos rfl, Option.bind_some, ih]

/-- The way to a place where a node was set leads through directories. -/
theorem hasDirectory_set (node : Node) (above : List String) (name : String)
    (names : List String) (child : Node) :
    (node.set (above ++ name :: names) child).HasDirectory above := by
  induction above generalizing node with
  | nil => cases node <;> exact ⟨_, rfl⟩
  | cons first above ih =>
      rw [List.cons_append, HasDirectory, at?_cons, child?_set, if_pos rfl, Option.bind_some]
      exact ih _

/-- An empty directory holds nothing. -/
theorem at?_emptyDirectory {names : List String} (h : names ≠ []) :
    (directory []).at? names = none := by
  cases names with
  | nil => exact (h rfl).elim
  | cons name names => rfl

/-- A place is neither above nor below another one. -/
def Diverges (place other : List String) : Prop :=
  ¬ place <+: other ∧ ¬ other <+: place

/-- Where a node was set neither above nor below, what is found is as it was. -/
theorem at?_set_of_diverges (node child : Node) {place other : List String}
    (h : Diverges place other) : (node.set place child).at? other = node.at? other := by
  induction place generalizing node other with
  | nil => exact (h.1 List.nil_prefix).elim
  | cons name names ih =>
      cases other with
      | nil => exact (h.2 List.nil_prefix).elim
      | cons first rest =>
          rw [at?_cons, at?_cons, child?_set]
          by_cases hfirst : first = name
          · subst hfirst
            have hrest : Diverges names rest := by
              constructor
              · exact fun hbelow => h.1 ((List.prefix_cons_inj first).mpr hbelow)
              · exact fun habove => h.2 ((List.prefix_cons_inj first).mpr habove)
            rw [if_pos rfl, Option.bind_some, ih _ hrest]
            cases node.child? first with
            | some inner => rfl
            | none =>
                -- The directories on the way are made, and hold nothing else.
                have hne : rest ≠ [] := by
                  rintro rfl
                  exact hrest.2 List.nil_prefix
                exact at?_emptyDirectory hne
          · rw [if_neg hfirst]

/-! ## What is kept -/

/-- A tree is kept but for the files at some places: directories stay, nothing goes, and all other
files stay as they are. -/
structure KeptBut (changed : List String → Prop) (before after : Node) : Prop where
  directory : ∀ place, before.HasDirectory place → after.HasDirectory place
  present : ∀ place, (before.at? place).isSome → (after.at? place).isSome
  file : ∀ place, ¬ changed place → ∀ contents,
    before.at? place = some (.file contents) → after.at? place = some (.file contents)

namespace KeptBut

variable {changed : List String → Prop} {before between after : Node}

/-- A tree is kept if nothing is done. -/
theorem refl (changed : List String → Prop) (node : Node) : KeptBut changed node node :=
  ⟨fun _ h => h, fun _ h => h, fun _ _ _ h => h⟩

/-- What is kept by two changes is kept by both together. -/
theorem trans (h : KeptBut changed before between) (hlater : KeptBut changed between after) :
    KeptBut changed before after :=
  ⟨fun place hplace => hlater.directory place (h.directory place hplace),
    fun place hplace => hlater.present place (h.present place hplace),
    fun place hkept contents hplace =>
      hlater.file place hkept contents (h.file place hkept contents hplace)⟩

/-- A tree that is kept but for some places is kept but for more. -/
theorem imp {wider : List String → Prop} (h : KeptBut changed before after)
    (himp : ∀ place, changed place → wider place) : KeptBut wider before after :=
  ⟨h.directory, h.present, fun place hkept => h.file place fun hchanged => hkept (himp place hchanged)⟩

end KeptBut

/-- Two places are one, or one is above the other, or they diverge. -/
theorem place_cases (place other : List String) :
    other = place ∨ (∃ name names, other = place ++ name :: names) ∨
      (∃ name names, place = other ++ name :: names) ∨ Diverges place other := by
  by_cases hbelow : place <+: other
  · rcases hbelow with ⟨rest, rfl⟩
    cases rest with
    | nil => exact Or.inl (List.append_nil place)
    | cons name names => exact Or.inr (Or.inl ⟨name, names, rfl⟩)
  · by_cases habove : other <+: place
    · rcases habove with ⟨rest, rfl⟩
      cases rest with
      | nil => exact Or.inl (List.append_nil other).symm
      | cons name names => exact Or.inr (Or.inr (Or.inl ⟨name, names, rfl⟩))
    · exact Or.inr (Or.inr (Or.inr ⟨hbelow, habove⟩))

/-- If a node is set in a directory where there was no directory, the tree is kept but for this
place. -/
theorem keptBut_set {node : Node} {place : List String} {name : String} (child : Node)
    (hparent : node.HasDirectory place) (hnone : ¬ node.HasDirectory (place ++ [name])) :
    KeptBut (fun other => other = place ++ [name]) node (node.set (place ++ [name]) child) := by
  constructor
  case directory =>
    intro other hother
    rcases place_cases (place ++ [name]) other with rfl | ⟨first, rest, rfl⟩ |
      ⟨first, rest, habove⟩ | hdiverges
    · exact (hnone hother).elim
    · rcases hother with ⟨entries, hentries⟩
      rw [at?_below_eq_none hnone] at hentries
      contradiction
    · rw [habove]
      exact hasDirectory_set node other first rest child
    · rw [HasDirectory, at?_set_of_diverges node child hdiverges]
      exact hother
  case present =>
    intro other hother
    rcases place_cases (place ++ [name]) other with rfl | ⟨first, rest, rfl⟩ |
      ⟨first, rest, habove⟩ | hdiverges
    · rw [at?_set_self]
      rfl
    · rw [at?_below_eq_none hnone] at hother
      contradiction
    · rw [habove]
      rcases hasDirectory_set node other first rest child with ⟨entries, hentries⟩
      rw [hentries]
      rfl
    · rw [at?_set_of_diverges node child hdiverges]
      exact hother
  case file =>
    intro other hne contents hother
    have hfile := not_hasDirectory_of_file hother
    rcases place_cases (place ++ [name]) other with hsame | ⟨first, rest, rfl⟩ |
      ⟨first, rest, habove⟩ | hdiverges
    · exact (hne hsame).elim
    · rw [at?_below_eq_none hnone] at hother
      contradiction
    · -- No file stands at the directory or on the way to it.
      have hprefix : other <+: place := by
        have hlonger : other <+: place ++ [name] := habove ▸ List.prefix_append other _
        exact (List.prefix_concat_iff.mp hlonger).resolve_left hne
      rcases hprefix with ⟨names, rfl⟩
      cases names with
      | nil => exact (hfile (List.append_nil other ▸ hparent)).elim
      | cons next names =>
          rcases hparent with ⟨entries, hentries⟩
          rw [at?_below_eq_none hfile] at hentries
          contradiction
    · rw [at?_set_of_diverges node child hdiverges]
      exact hother

end Node
end Casebook
