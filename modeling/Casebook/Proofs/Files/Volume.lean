import Casebook.Proofs.Fallible
import Casebook.Proofs.Files.Tree

/-!
# What operations change in a volume

An operation on a volume either fails or changes one place, and it never makes a directory go.
Therefore a path that leads somewhere goes on to lead there, and a file stays as it is until another
one is written at its place.

Main definitions:

- {lit}`Volume.LeadsOn`: where one name leads.
- {lit}`Volume.NamesEntry`: a path names an entry of a directory.
- {lit}`Volume.LeadsTo`: the place of the entry that a path names.
- {lit}`Volume.KeptBut`: a volume is kept but for the files at some places.
- {lit}`Volume.KeepsFiles`: an action keeps all files.

Main results:

- Theorem {lit}`Volume.resolveNew_eq_ok_iff`: what is resolved is what a path names.
- Theorem {lit}`Volume.KeptBut.leadsTo`: paths go on to lead where they lead.
- Theorem {lit}`Volume.keptBut_makeDirectory`: making a directory keeps all files.
- Theorem {lit}`Volume.keptBut_write`: writing a file keeps all other files.
-/

namespace Casebook
namespace Volume

/-! ## Following names -/

/-- Where one name leads from a directory. -/
inductive LeadsOn (root : Node) (place : List String) : String → List String → Prop where
  | stays {name : String} (hdirectory : root.HasDirectory place) (h : name = "" ∨ name = ".") :
      LeadsOn root place name place
  | back (hdirectory : root.HasDirectory place) : LeadsOn root place ".." place.dropLast
  | enters {name : String} (hdirectory : root.HasDirectory place)
      (hproper : ¬ (name = "" ∨ name = ".") ∧ name ≠ "..") (hshort : ¬ maxName < name.utf8ByteSize)
      (hfound : (root.at? (place ++ [name])).isSome) :
      LeadsOn root place name (place ++ [name])

/-- Following names is following the first one and then the others. -/
theorem follow_cons_eq_ok_iff (root : Node) (place : List String) (name : String)
    (names target : List String) :
    follow root place (name :: names) = .ok target ↔
      ∃ next, LeadsOn root place name next ∧ follow root next names = .ok target := by
  constructor
  · intro h
    unfold follow at h
    split at h
    · rename_i entries hentries
      have hdirectory : root.HasDirectory place := ⟨entries, hentries⟩
      split at h
      · rename_i hstays
        exact ⟨place, .stays hdirectory hstays, h⟩
      · rename_i hproper
        split at h
        · rename_i hback
          subst hback
          exact ⟨place.dropLast, .back hdirectory, h⟩
        · rename_i hback
          split at h
          · contradiction
          · rename_i hshort
            split at h
            · rename_i hfound
              rw [← Node.at?_append_singleton hentries] at hfound
              exact ⟨place ++ [name], .enters hdirectory ⟨hproper, hback⟩ hshort hfound, h⟩
            · contradiction
    · contradiction
  · rintro ⟨next, hleads, h⟩
    cases hleads with
    | stays hdirectory hstays =>
        rcases hdirectory with ⟨entries, hentries⟩
        simp only [follow, hentries, if_pos hstays, h]
    | back hdirectory =>
        rcases hdirectory with ⟨entries, hentries⟩
        simp [follow, hentries, h]
    | enters hdirectory hproper hshort hfound =>
        rcases hdirectory with ⟨entries, hentries⟩
        rw [Node.at?_append_singleton hentries] at hfound
        simp only [follow, hentries, if_neg hproper.1, if_neg hproper.2, if_neg hshort,
          if_pos hfound, h]

/-- Following names is following the first ones and then the others. -/
theorem follow_append_eq_ok_iff (root : Node) (place first second target : List String) :
    follow root place (first ++ second) = .ok target ↔
      ∃ next, follow root place first = .ok next ∧ follow root next second = .ok target := by
  induction first generalizing place with
  | nil => simp [follow]
  | cons name names ih =>
      simp only [List.cons_append, follow_cons_eq_ok_iff, ih]
      constructor
      · rintro ⟨between, hleads, next, hnext, h⟩
        exact ⟨next, ⟨between, hleads, hnext⟩, h⟩
      · rintro ⟨next, ⟨between, hleads, hnext⟩, h⟩
        exact ⟨between, hleads, next, hnext, h⟩

/-! ## What a path names -/

/-- A path names an entry of a directory, which may be there or not. -/
structure NamesEntry (volume : Volume) (path : String) (place : List String) (name : String) :
    Prop where
  accepted : refused? path = none
  /-- The name is the last one, except that slashes may follow it. -/
  last : ∃ before, (Path.names path).reverse.dropWhile (fun name => name = "") = name :: before ∧
    follow volume.root (volume.start path) before.reverse = .ok place
  directory : volume.root.HasDirectory place
  proper : ¬ (name = "." ∨ name = "..")
  short : ¬ maxName < name.utf8ByteSize

/-- What is resolved as an entry is what a path names. -/
theorem resolveNew_eq_ok_iff (volume : Volume) (path : String) (place : List String)
    (name : String) :
    volume.resolveNew path = .ok (place, some name) ↔ volume.NamesEntry path place name := by
  unfold resolveNew
  cases hrefused : refused? path with
  | some fault =>
      constructor
      · intro h
        contradiction
      · intro h
        cases hrefused.symm.trans h.accepted
  | none =>
      cases hnames : (Path.names path).reverse.dropWhile (fun name => name = "") with
      | nil =>
          constructor
          · intro h
            cases h
          · intro h
            rcases h.last with ⟨before, hlast, -⟩
            cases hnames.symm.trans hlast
      | cons last before =>
          simp only [bind_eq_ok_iff]
          constructor
          · rintro ⟨parent, hparent, h⟩
            split at h
            · rename_i entries hentries
              split at h
              · cases h
              · rename_i hproper
                split at h
                · contradiction
                · rename_i hshort
                  cases h
                  exact ⟨hrefused, ⟨before, hnames, hparent⟩, ⟨entries, hentries⟩, hproper,
                    hshort⟩
            · contradiction
          · intro h
            rcases h.last with ⟨others, hlast, hparent⟩
            cases hnames.symm.trans hlast
            rcases h.directory with ⟨entries, hentries⟩
            refine ⟨place, hparent, ?_⟩
            simp only [hentries, if_neg h.proper, if_neg h.short]
            rfl

/-- The place of the entry that a path names. -/
def LeadsTo (volume : Volume) (path : String) (target : List String) : Prop :=
  ∃ place name, volume.NamesEntry path place name ∧ target = place ++ [name]

/-- A path leads to one place at most. -/
theorem LeadsTo.unique {volume : Volume} {path : String} {target other : List String}
    (h : volume.LeadsTo path target) (hother : volume.LeadsTo path other) : target = other := by
  rcases h with ⟨place, name, hentry, rfl⟩
  rcases hother with ⟨parent, last, hlast, rfl⟩
  rw [← resolveNew_eq_ok_iff] at hentry hlast
  cases hentry.symm.trans hlast
  rfl

/-! ## What is kept -/

/-- A volume is kept but for the files at some places. -/
structure KeptBut (changed : List String → Prop) (before after : Volume) : Prop where
  here : after.here = before.here
  root : Node.KeptBut changed before.root after.root

namespace KeptBut

variable {changed : List String → Prop} {before between after : Volume}

/-- A volume is kept if nothing is done. -/
theorem refl (changed : List String → Prop) (volume : Volume) : KeptBut changed volume volume :=
  ⟨rfl, .refl changed volume.root⟩

/-- What is kept by two changes is kept by both together. -/
theorem trans (h : KeptBut changed before between) (hlater : KeptBut changed between after) :
    KeptBut changed before after :=
  ⟨hlater.here.trans h.here, h.root.trans hlater.root⟩

/-- A volume that is kept but for some places is kept but for more. -/
theorem imp {wider : List String → Prop} (h : KeptBut changed before after)
    (himp : ∀ place, changed place → wider place) : KeptBut wider before after :=
  ⟨h.here, h.root.imp himp⟩

/-- In a volume that is kept a name leads where it led. -/
theorem leadsOn {root : Node} (h : Node.KeptBut changed before.root root) {place next : List String}
    {name : String} (hleads : LeadsOn before.root place name next) :
    LeadsOn root place name next := by
  cases hleads with
  | stays hdirectory hstays => exact .stays (h.directory _ hdirectory) hstays
  | back hdirectory => exact .back (h.directory _ hdirectory)
  | enters hdirectory hproper hshort hfound =>
      exact .enters (h.directory _ hdirectory) hproper hshort (h.present _ hfound)

/-- In a volume that is kept names lead where they led. -/
theorem follow (h : KeptBut changed before after) {place names target : List String}
    (hfollow : Volume.follow before.root place names = .ok target) :
    Volume.follow after.root place names = .ok target := by
  induction names generalizing place with
  | nil => exact hfollow
  | cons name names ih =>
      rw [follow_cons_eq_ok_iff] at hfollow ⊢
      rcases hfollow with ⟨next, hleads, hrest⟩
      exact ⟨next, leadsOn h.root hleads, ih hrest⟩

/-- In a volume that is kept relative paths start where they did. -/
theorem start (h : KeptBut changed before after) (path : String) :
    after.start path = before.start path := by
  rw [Volume.start, Volume.start, h.here]

/-- In a volume that is kept a path names the entry that it named. -/
theorem namesEntry (h : KeptBut changed before after) {path : String} {place : List String}
    {name : String} (hentry : before.NamesEntry path place name) :
    after.NamesEntry path place name := by
  rcases hentry.last with ⟨others, hlast, hparent⟩
  exact {
    accepted := hentry.accepted
    last := ⟨others, hlast, h.start path ▸ h.follow hparent⟩
    directory := h.root.directory place hentry.directory
    proper := hentry.proper
    short := hentry.short }

/-- In a volume that is kept a path leads where it led. -/
theorem leadsTo (h : KeptBut changed before after) {path : String} {target : List String}
    (hleads : before.LeadsTo path target) : after.LeadsTo path target := by
  rcases hleads with ⟨place, name, hentry, rfl⟩
  exact ⟨place, name, h.namesEntry hentry, rfl⟩

end KeptBut

/-! ## Operations -/

/-- Making a directory keeps all files. -/
theorem keptBut_makeDirectory {volume after : Volume} {path : String}
    (h : volume.makeDirectory path = .ok after) : volume.KeptBut (fun _ => False) after := by
  rw [makeDirectory, bind_eq_ok_iff] at h
  rcases h with ⟨⟨place, name⟩, hnew, h⟩
  cases name with
  | none => contradiction
  | some name =>
      simp only at h
      split at h
      · contradiction
      · rename_i habsent
        cases h
        have hnone : volume.root.at? (place ++ [name]) = none := by simpa using habsent
        have hentry := (resolveNew_eq_ok_iff volume path place name).mp hnew
        have hdirectory : ¬ volume.root.HasDirectory (place ++ [name]) := by
          rintro ⟨entries, hentries⟩
          cases hnone.symm.trans hentries
        have hkept := Node.keptBut_set (.directory []) hentry.directory hdirectory
        refine ⟨rfl, hkept.directory, hkept.present, ?_⟩
        intro other _ contents hother
        refine hkept.file other ?_ contents hother
        rintro rfl
        cases hnone.symm.trans hother

/-- A file that is written is found where its path leads, and all other files are kept. -/
theorem keptBut_write {volume after : Volume} {path text : String}
    (h : volume.write path text = .ok after) :
    ∃ target, after.LeadsTo path target ∧ volume.KeptBut (fun place => place = target) after ∧
      after.root.at? target = some (.file text.toUTF8) := by
  rw [write, bind_eq_ok_iff] at h
  rcases h with ⟨⟨place, name⟩, hnew, h⟩
  cases name with
  | none => contradiction
  | some name =>
      simp only at h
      split at h
      · contradiction
      · rename_i hfree
        cases h
        have hentry := (resolveNew_eq_ok_iff volume path place name).mp hnew
        have hdirectory : ¬ volume.root.HasDirectory (place ++ [name]) := by
          rintro ⟨entries, hentries⟩
          exact hfree entries hentries
        have hkept : volume.KeptBut (fun other => other = place ++ [name])
            { volume with root := volume.root.set (place ++ [name]) (.file text.toUTF8) } :=
          ⟨rfl, Node.keptBut_set _ hentry.directory hdirectory⟩
        exact ⟨place ++ [name], ⟨place, name, hkept.namesEntry hentry, rfl⟩, hkept,
          Node.at?_set_self _ _ _⟩

/-! ## Actions -/

/-- An operation that fails changes nothing. -/
theorem run_change (operation : Volume → Except FileFault Volume) (volume : Volume) :
    (change operation).run volume =
      match operation volume with
      | .error fault => (.error fault, volume)
      | .ok after => (.ok (), after) := by
  change (match operation volume with
    | .error fault => (Pure.pure (Except.error fault) : StateM Volume (Except FileFault Unit))
    | .ok after => do
        set after
        return .ok ()).run volume = _
  cases operation volume <;> rfl

/-- Making a directory as an action. -/
theorem run_makeDirectory (path : String) (volume : Volume) :
    (FileSystem.makeDirectory (m := StateM Volume) path).run volume =
      match volume.makeDirectory path with
      | .error fault => (.error fault, volume)
      | .ok after => (.ok (), after) :=
  run_change (fun volume => volume.makeDirectory path) volume

/-- Writing a file as an action. -/
theorem run_write (path text : String) (volume : Volume) :
    (FileSystem.write (m := StateM Volume) path text).run volume =
      match volume.write path text with
      | .error fault => (.error fault, volume)
      | .ok after => (.ok (), after) :=
  run_change (fun volume => volume.write path text) volume

/-- An action keeps all files, whether it succeeds or fails. -/
def KeepsFiles {α : Type} (action : StateM Volume α) : Prop :=
  ∀ volume : Volume, volume.KeptBut (fun _ => False) (action.run volume).2

namespace KeepsFiles

variable {α β : Type}

/-- Doing nothing keeps all files. -/
theorem pure (a : α) : KeepsFiles (Pure.pure a) :=
  fun volume => .refl _ volume

/-- Two actions in sequence keep all files if both do. -/
theorem bind {action : StateM Volume α} {next : α → StateM Volume β} (h : KeepsFiles action)
    (hnext : ∀ a, KeepsFiles (next a)) : KeepsFiles (action >>= next) :=
  fun volume => (h volume).trans (hnext _ _)

/-- Looking for a directory keeps all files. -/
theorem isDirectory (path : String) :
    KeepsFiles (FileSystem.isDirectory (m := StateM Volume) path) :=
  fun volume => .refl _ volume

/-- Making a directory keeps all files. -/
theorem makeDirectory (path : String) :
    KeepsFiles (FileSystem.makeDirectory (m := StateM Volume) path) := by
  intro volume
  rw [run_makeDirectory]
  cases hmade : volume.makeDirectory path with
  | error fault => exact .refl _ volume
  | ok after => exact keptBut_makeDirectory hmade

end KeepsFiles

end Volume
end Casebook
