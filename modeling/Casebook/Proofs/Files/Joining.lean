import Casebook.Proofs.Files.Volume

/-!
# Paths into a directory

A plain name, joined to the path of a directory, names an entry of just this directory.  That the
name has no slash matters: with a slash it may lead further down, back, or away from the root.

Main results:

- Theorem {lit}`Path.names_join`: the names of a joined path are those of the directory and the plain
  name.
- Theorem {lit}`Volume.NamesEntry.of_join`: the entry that a joined path names is in the directory
  and has the plain name.
-/

namespace Casebook

/-- A text without separators is one stretch. -/
theorem Text.pieces_of_notMem {separator : Char} {s : List Char} (h : separator ∉ s) :
    pieces separator s = [s] := by
  induction s with
  | nil => rfl
  | cons c rest ih =>
      rw [List.mem_cons, not_or] at h
      rw [pieces, if_neg (Ne.symm h.1), ih h.2]

namespace Path

/-! ## Names of joined paths -/

/-- The names of two paths with a slash between them are those of the first and of the second. -/
theorem names_append_slash (first second : String) :
    names (first ++ "/" ++ second) = names first ++ names second := by
  have hchars : (first ++ "/" ++ second).toList = first.toList ++ '/' :: second.toList := by
    simp [String.toList_append]
  rw [names, hchars, Text.pieces_append_separator, List.map_append]
  rfl

/-- A path without slashes is one name. -/
theorem names_of_plain {name : String} (h : '/' ∉ name.toList) : names name = [name] := by
  rw [names, Text.pieces_of_notMem h, List.map_singleton, String.ofList_toList]

/-- A path without slashes is relative. -/
theorem isAbsolute_of_plain {name : String} (h : '/' ∉ name.toList) : isAbsolute name = false := by
  rw [isAbsolute, beq_eq_false_iff_ne]
  exact fun hhead => h (List.mem_of_head? hhead)

/-- Where a path starts is told by its beginning. -/
theorem isAbsolute_append {path : String} (h : path ≠ "") (rest : String) :
    isAbsolute (path ++ rest) = isAbsolute path := by
  have hne : path.toList ≠ [] := by simpa using h
  rw [isAbsolute, isAbsolute, String.toList_append, List.head?_append_of_ne_nil _ hne]

/-- A plain name is joined to a directory by a slash, unless the path of the directory ends in
one. -/
theorem join_cases {directory name : String} (hdirectory : directory ≠ "")
    (hplain : '/' ∉ name.toList) :
    (∃ start, directory = start ++ "/" ∧ join directory name = start ++ "/" ++ name) ∨
      join directory name = directory ++ "/" ++ name := by
  have hne : directory.toList ≠ [] := by simpa using hdirectory
  rw [join, isAbsolute_of_plain hplain, if_neg Bool.false_ne_true]
  split <;> rename_i hends
  · have hlast : directory.toList.getLast? = some '/' := by simpa [hne] using hends
    rcases List.getLast?_eq_some_iff.mp hlast with ⟨start, hstart⟩
    have hsplit : directory = String.ofList start ++ "/" := by
      rw [← String.toList_inj, hstart]
      simp [String.toList_append]
    exact Or.inl ⟨String.ofList start, hsplit, by rw [← hsplit]⟩
  · exact Or.inr rfl

/-- A joined path begins with the path of the directory. -/
theorem exists_join_eq_append {directory name : String} (hdirectory : directory ≠ "")
    (hplain : '/' ∉ name.toList) : ∃ rest, join directory name = directory ++ rest := by
  rcases join_cases hdirectory hplain with ⟨start, hstart, hjoin⟩ | hjoin
  · exact ⟨name, by rw [hjoin, ← hstart]⟩
  · exact ⟨"/" ++ name, by rw [hjoin, String.append_assoc]⟩

/-- The names of a joined path are those of the directory, except for an empty one at their end, and
the plain name. -/
theorem names_join {directory name : String} (hdirectory : directory ≠ "")
    (hplain : '/' ∉ name.toList) :
    ∃ before, names (join directory name) = before ++ [name] ∧
      (names directory = before ∨ names directory = before ++ [""]) := by
  rcases join_cases hdirectory hplain with ⟨start, hstart, hjoin⟩ | hjoin
  · refine ⟨names start, by rw [hjoin, names_append_slash, names_of_plain hplain], Or.inr ?_⟩
    have hempty := names_append_slash start ""
    rw [String.append_empty, ← hstart] at hempty
    exact hempty
  · exact ⟨names directory, by rw [hjoin, names_append_slash, names_of_plain hplain], Or.inl rfl⟩

end Path

namespace Volume

/-! ## Entries of a directory -/

/-- A path is looked at if it has no null character, is not empty and is not too long. -/
theorem refused?_eq_none_iff (path : String) :
    refused? path = none ↔
      '\x00' ∉ path.toList ∧ path ≠ "" ∧ path.utf8ByteSize < pathLimit := by
  unfold refused?
  by_cases hnull : '\x00' ∈ path.toList
  · simp [hnull]
  · by_cases hempty : path = ""
    · simp [hempty]
    · simp [hnull, hempty]

/-- The beginning of a path that is looked at is looked at itself, unless it is empty. -/
theorem refused?_eq_none_of_append {path rest : String} (hpath : path ≠ "")
    (h : refused? (path ++ rest) = none) : refused? path = none := by
  rw [refused?_eq_none_iff] at h ⊢
  rcases h with ⟨hnull, -, hlength⟩
  rw [String.toList_append, List.mem_append, not_or] at hnull
  rw [String.utf8ByteSize_append] at hlength
  exact ⟨hnull.1, hpath, by omega⟩

/-- The entry that a joined path names is in the directory and has the plain name. -/
theorem NamesEntry.of_join {volume : Volume} {directory file name : String} {place : List String}
    (hdirectory : directory ≠ "") (hplain : '/' ∉ file.toList) (hfile : file ≠ "")
    (h : volume.NamesEntry (Path.join directory file) place name) :
    volume.resolve directory = .ok place ∧ name = file := by
  rcases Path.exists_join_eq_append hdirectory hplain with ⟨rest, hjoin⟩
  rcases Path.names_join hdirectory hplain with ⟨before, hnames, hbefore⟩
  rcases h.last with ⟨others, hlast, hfollow⟩
  rw [hnames, List.reverse_append, List.reverse_singleton, List.singleton_append,
    List.dropWhile_cons_of_neg (by simpa using hfile), List.cons.injEq] at hlast
  rcases hlast with ⟨rfl, rfl⟩
  have haccepted : refused? directory = none :=
    refused?_eq_none_of_append hdirectory (hjoin ▸ h.accepted)
  have hstart : volume.start (Path.join directory file) = volume.start directory := by
    rw [start, start, hjoin, Path.isAbsolute_append hdirectory]
  rw [List.reverse_reverse, hstart] at hfollow
  refine ⟨?_, rfl⟩
  rw [resolve, haccepted]
  rcases hbefore with hsame | hempty
  · rw [hsame]
    exact hfollow
  · have hstays : LeadsOn volume.root place "" place := .stays h.directory (Or.inl rfl)
    rw [hempty]
    refine (follow_append_eq_ok_iff _ _ _ _ _).mpr ⟨place, hfollow, ?_⟩
    exact (follow_cons_eq_ok_iff _ _ _ _ _).mpr ⟨place, hstays, rfl⟩

end Volume
end Casebook
