import Casebook.CommandLine.Run
import Casebook.Proofs.Files.Joining
import Mathlib.Data.List.Forall2
import Mathlib.Data.List.Nodup

/-!
# The files of models

Models are written one after another into a directory, each under its slug.  What was there is kept,
except for the files that the models are written to; and a file holds the last model that was
written to it.  Models with plain slugs, all of them different, therefore have a file each.

The slugs are those of the documents, though, and nothing keeps two documents from having the same:
then the second model takes the place of the first.

Main definitions:

- {lit}`CommandLine.WrittenInTurn`: what is left by models that were written in turn.
- {lit}`CommandLine.FilesFor`: some models have a file each in a directory.

Main results:

- Theorem {lit}`CommandLine.keepsFiles_makeDirectories`: making directories keeps all files.
- Theorem {lit}`CommandLine.writtenInTurn_of_run`: where each model is found in the end.
- Theorem {lit}`CommandLine.writeModels_filesFor`: models with different plain slugs have a file each.
- Theorem {lit}`CommandLine.writeModels_same_slug`: two models with one slug have one file.
-/

namespace Casebook

namespace CommandLine

/-! ## Directories -/

/-- Making directories keeps all files. -/
theorem keepsFiles_makeDirectories (directories : List String) :
    Volume.KeepsFiles (makeDirectories (m := StateM Volume) directories) := by
  induction directories with
  | nil => exact .pure _
  | cons directory around ih =>
      have hsettle : ∀ fault, Volume.KeepsFiles
          (makeDirectories.settle (m := StateM Volume) directory fault) := by
        intro fault
        refine .bind (.isDirectory directory) fun found => ?_
        split <;> exact .pure _
      have hagain : Volume.KeepsFiles
          (makeDirectories.again (m := StateM Volume) directory) := by
        refine .bind (.makeDirectory directory) fun result => ?_
        split
        · exact .pure _
        · exact hsettle _
      refine .bind (.makeDirectory directory) fun result => ?_
      split
      · exact .pure _
      · split
        · exact .pure _
        · refine .bind ih fun result => ?_
          split
          · exact .pure _
          · exact hagain
      · exact hsettle _

/-- The empty path is that of no directory. -/
theorem run_makeDirectories_empty (volume : Volume) :
    (makeDirectories (m := StateM Volume) (Path.ancestors "")).run volume =
      (.error .notFound, volume) :=
  rfl

/-! ## One model -/

/-- An action that cannot fail goes on with its value in the volume that it leaves. -/
theorem run_liftM_bind {ε α β : Type} (action : StateM Volume α)
    (next : α → ExceptT ε (StateM Volume) β) (volume : Volume) :
    (liftM action >>= next : ExceptT ε (StateM Volume) β).run.run volume =
      (next (action.run volume).1).run.run (action.run volume).2 :=
  rfl

/-- A model is written after its directory has been made. -/
theorem run_writeModel (directory : String) (model : Model) (volume : Volume) :
    (writeModel (m := StateM Volume) directory model).run.run volume =
      match (makeDirectories (m := StateM Volume) (Path.ancestors directory)).run volume with
      | (.error fault, between) => (.error (.uncreatable directory fault), between)
      | (.ok (), between) =>
          match between.write (modelPath directory model) model.text with
          | .error fault => (.error (.unwritable (modelPath directory model) fault), between)
          | .ok after => (.ok (modelPath directory model), after) := by
  rw [writeModel, run_liftM_bind]
  rcases (makeDirectories (m := StateM Volume) (Path.ancestors directory)).run volume with
    ⟨fault | ⟨⟩, between⟩
  · rfl
  · simp only
    rw [run_liftM_bind, Volume.run_write]
    cases between.write (modelPath directory model) model.text <;> rfl

/-- A model is written if the directory can be made and then the file with its slug can be
written. -/
theorem run_writeModel_of_slug {directory slug : String} {model : Model}
    {volume between after : Volume} (h : model.slug = slug)
    (hmade : (makeDirectories (m := StateM Volume) (Path.ancestors directory)).run volume =
      (.ok (), between))
    (hwrite : between.write (Path.join directory (slug ++ ".json")) model.text = .ok after) :
    (writeModel (m := StateM Volume) directory model).run.run volume =
      (.ok (Path.join directory (slug ++ ".json")), after) := by
  have hpath : modelPath directory model = Path.join directory (slug ++ ".json") := by
    rw [modelPath, h]
  rw [run_writeModel, hmade, hpath]
  simp only [hwrite]

/-- What is left by a model that was written: it is found where its path leads, and all other files
are kept. -/
structure Written (directory : String) (model : Model) (volume after : Volume)
    (target : List String) : Prop where
  leads : after.LeadsTo (modelPath directory model) target
  kept : volume.KeptBut (fun place => place = target) after
  found : after.root.at? target = some (.file model.text.toUTF8)

/-- A model that was written, in a directory that has a name, is found where its path leads. -/
theorem written_of_run {directory path : String} {model : Model} {volume after : Volume}
    (h : (writeModel (m := StateM Volume) directory model).run.run volume = (.ok path, after)) :
    directory ≠ "" ∧ path = modelPath directory model ∧
      ∃ target, Written directory model volume after target := by
  have hdirectory : directory ≠ "" := by
    rintro rfl
    rw [run_writeModel, run_makeDirectories_empty] at h
    cases h
  have hmade := keepsFiles_makeDirectories (Path.ancestors directory) volume
  rw [run_writeModel] at h
  rcases hrun : (makeDirectories (m := StateM Volume) (Path.ancestors directory)).run volume with
    ⟨fault | ⟨⟩, between⟩
  · rw [hrun] at h
    cases h
  · rw [hrun] at h hmade
    simp only at h hmade
    cases hwrite : between.write (modelPath directory model) model.text with
    | error fault =>
        rw [hwrite] at h
        cases h
    | ok written =>
        rw [hwrite] at h
        cases h
        rcases Volume.keptBut_write hwrite with ⟨target, hleads, hkept, hfound⟩
        have hall := (hmade.imp fun _ => False.elim).trans hkept
        exact ⟨hdirectory, rfl, target, hleads, hall, hfound⟩

/-! ## All models -/

/-- Models are written one after another until one cannot be written. -/
theorem run_writeModels_cons (directory : String) (model : Model) (models : List Model)
    (volume : Volume) :
    (writeModels (m := StateM Volume) directory (model :: models)).run volume =
      match (writeModel (m := StateM Volume) directory model).run.run volume with
      | (.error fault, between) => (([], some fault), between)
      | (.ok path, between) =>
          let rest := (writeModels (m := StateM Volume) directory models).run between
          ((path :: rest.1.1, rest.1.2), rest.2) := by
  rw [writeModels, StateT.run_bind]
  rcases (writeModel (m := StateM Volume) directory model).run.run volume with
    ⟨fault | path, between⟩
  · rfl
  · rfl

/-- Two models are written if the first one is and then the second one. -/
theorem run_writeModels_pair {directory first second : String} {model other : Model}
    {volume between after : Volume}
    (hmodel : (writeModel (m := StateM Volume) directory model).run.run volume =
      (.ok first, between))
    (hother : (writeModel (m := StateM Volume) directory other).run.run between =
      (.ok second, after)) :
    (writeModels (m := StateM Volume) directory [model, other]).run volume =
      (([first, second], none), after) := by
  rw [run_writeModels_cons, hmodel]
  simp only
  rw [run_writeModels_cons, hother]
  rfl

/-- What is left by models that were written in turn: all files are kept but those that a path of a
model leads to, and the last model that was written to a file is found there. -/
structure WrittenInTurn (directory : String) (models : List Model) (volume after : Volume) :
    Prop where
  named : models ≠ [] → directory ≠ ""
  kept : volume.KeptBut
    (fun place => ∃ model ∈ models, after.LeadsTo (modelPath directory model) place) after
  found : ∀ earlier model later, models = earlier ++ model :: later →
    ∃ target, after.LeadsTo (modelPath directory model) target ∧
      ((∀ other ∈ later, ¬ after.LeadsTo (modelPath directory other) target) →
        after.root.at? target = some (.file model.text.toUTF8))

/-- One more model may be written before the others: its file is kept unless one of them is written
there. -/
theorem Written.followedBy {directory : String} {model : Model} {models : List Model}
    {volume between after : Volume} {target : List String} (hdirectory : directory ≠ "")
    (h : Written directory model volume between target)
    (hrest : WrittenInTurn directory models between after) :
    WrittenInTurn directory (model :: models) volume after := by
  have hleads : after.LeadsTo (modelPath directory model) target := hrest.kept.leadsTo h.leads
  constructor
  case named => exact fun _ => hdirectory
  case kept =>
    refine (h.kept.imp ?_).trans (hrest.kept.imp ?_)
    · rintro place rfl
      exact ⟨model, List.mem_cons_self, hleads⟩
    · rintro place ⟨other, hmem, hother⟩
      exact ⟨other, List.mem_cons_of_mem _ hmem, hother⟩
  case found =>
    intro earlier written later hsplit
    cases earlier with
    | nil =>
        rw [List.nil_append, List.cons.injEq] at hsplit
        rcases hsplit with ⟨rfl, rfl⟩
        refine ⟨target, hleads, fun hlast => ?_⟩
        refine hrest.kept.root.file target ?_ _ h.found
        rintro ⟨other, hmem, hother⟩
        exact hlast other hmem hother
    | cons first earlier =>
        rw [List.cons_append, List.cons.injEq] at hsplit
        exact hrest.found earlier written later hsplit.2

/-- If all models are written, all files are kept but theirs, and every file holds the last model
that was written to it. -/
theorem writtenInTurn_of_run {directory : String} {models : List Model} {volume after : Volume}
    {paths : List String}
    (h : (writeModels (m := StateM Volume) directory models).run volume = ((paths, none), after)) :
    paths = models.map (modelPath directory) ∧ WrittenInTurn directory models volume after := by
  induction models generalizing volume paths with
  | nil =>
      cases h
      exact ⟨rfl, fun hne => (hne rfl).elim, .refl _ _, by simp⟩
  | cons model models ih =>
      rw [run_writeModels_cons] at h
      rcases hmodel : (writeModel (m := StateM Volume) directory model).run.run volume with
        ⟨fault | path, between⟩
      · rw [hmodel] at h
        cases h
      · rw [hmodel] at h
        rcases hrest : (writeModels (m := StateM Volume) directory models).run between with
          ⟨⟨others, fault⟩, last⟩
        simp only [hrest] at h
        cases h
        rcases written_of_run hmodel with ⟨hdirectory, rfl, target, hwritten⟩
        rcases ih hrest with ⟨rfl, hturn⟩
        exact ⟨rfl, hwritten.followedBy hdirectory hturn⟩

/-! ## A file for each model -/

/-- The models of the documents that have one, in their order. -/
def modelsOf (documents : List (String × Json)) : List Model :=
  (Report.ofDocuments documents).outcomes.map Outcome.model

/-- The name of the file for a model. -/
def fileName (model : Model) : String :=
  model.slug ++ ".json"

/-- Different slugs make different names. -/
theorem fileName_inj {model other : Model} :
    fileName model = fileName other ↔ model.slug = other.slug :=
  String.append_left_inj ".json"

/-- The name of a file is not empty. -/
theorem fileName_ne_empty (model : Model) : fileName model ≠ "" := by
  intro hempty
  have hchars := congrArg String.toList hempty
  simp [fileName, String.toList_append] at hchars

/-- Some models have a file each directly in a directory: the files have different names, and each
holds just the text of its model. -/
structure FilesFor (directory : String) (models : List Model) (names : List String)
    (volume : Volume) : Prop where
  distinct : names.Nodup
  contents : List.Forall₂ (fun model name => ∃ place, volume.resolve directory = .ok place ∧
    volume.root.at? (place ++ [name]) = some (.file model.text.toUTF8)) models names

/-- The path of a model with a plain slug leads directly into the directory. -/
theorem leadsTo_modelPath {volume : Volume} {directory : String} {model : Model}
    {target : List String} (hdirectory : directory ≠ "") (hplain : '/' ∉ model.slug.toList)
    (h : volume.LeadsTo (modelPath directory model) target) :
    ∃ place, volume.resolve directory = .ok place ∧ target = place ++ [fileName model] := by
  rcases h with ⟨place, name, hentry, rfl⟩
  have hname : '/' ∉ (fileName model).toList := by
    simpa [fileName, String.toList_append] using hplain
  rcases hentry.of_join hdirectory hname (fileName_ne_empty model) with ⟨hplace, rfl⟩
  exact ⟨place, hplace, rfl⟩

/-- Models with different plain slugs that are written in turn have a file each. -/
theorem WrittenInTurn.filesFor {directory : String} {models : List Model}
    {volume after : Volume} (h : WrittenInTurn directory models volume after)
    (hplain : ∀ model ∈ models, '/' ∉ model.slug.toList)
    (hdistinct : (models.map Model.slug).Nodup) :
    FilesFor directory models (models.map fileName) after := by
  constructor
  case distinct =>
    have hnames : models.map fileName = (models.map Model.slug).map (· ++ ".json") := by
      rw [List.map_map]
      rfl
    rw [hnames]
    exact hdistinct.map fun _ _ => (String.append_left_inj ".json").mp
  case contents =>
    rw [List.forall₂_map_right_iff, List.forall₂_same]
    intro model hmem
    have hdirectory : directory ≠ "" := h.named (List.ne_nil_of_mem hmem)
    rcases List.append_of_mem hmem with ⟨earlier, later, hsplit⟩
    rcases h.found earlier model later hsplit with ⟨target, hleads, hfound⟩
    rcases leadsTo_modelPath hdirectory (hplain model hmem) hleads with ⟨place, hplace, rfl⟩
    refine ⟨place, hplace, hfound ?_⟩
    intro other hother hsame
    have hmemOther : other ∈ models := by simp [hsplit, hother]
    rcases leadsTo_modelPath hdirectory (hplain other hmemOther) hsame with
      ⟨parent, -, hnames⟩
    have hslug : model.slug = other.slug :=
      fileName_inj.mp (List.singleton_inj.mp (List.append_inj_right' hnames rfl))
    rw [hsplit, List.map_append, List.map_cons, List.nodup_append, List.nodup_cons] at hdistinct
    exact hdistinct.2.1.1 (hslug ▸ List.mem_map_of_mem hother)

/-- If the models of some documents have different plain slugs and all of them are written, each of
them has a file of its own directly in the directory, under its slug. -/
theorem writeModels_filesFor {documents : List (String × Json)} {directory : String}
    {volume after : Volume} {paths : List String}
    (hrun : (writeModels (m := StateM Volume) directory (modelsOf documents)).run volume =
      ((paths, none), after))
    (hplain : ∀ model ∈ modelsOf documents, '/' ∉ model.slug.toList)
    (hdistinct : ((modelsOf documents).map Model.slug).Nodup) :
    FilesFor directory (modelsOf documents) ((modelsOf documents).map fileName) after :=
  (writtenInTurn_of_run hrun).2.filesFor hplain hdistinct

/-- A document with one test of a function of an exercise. -/
def clockDocument (exercise property : String) : Json :=
  .object [
    ("exercise", .string exercise),
    ("version", .string "1.0.0"),
    ("cases", .array [
      .object [
        ("description", .string "an hour and a half"),
        ("property", .string property),
        ("input", .object [("minutes", .number (.ofInt 90))]),
        ("expected", .string "01:30")]])]

/-- A volume with nothing but the files in one directory, which is called {lit}`out`. -/
def outVolume (files : List (String × String)) : Volume :=
  ⟨.directory [("out", .directory (files.map fun file => (file.1, .file file.2.toUTF8)))], []⟩

/-- A first model is alone in the directory that is made for it. -/
theorem run_writeModel_first {model : Model} (h : model.slug = "clock") :
    (writeModel (m := StateM Volume) "out" model).run.run ⟨.directory [], []⟩ =
      (.ok "out/clock.json", outVolume [("clock.json", model.text)]) :=
  run_writeModel_of_slug h rfl rfl

/-- Two documents for different exercises. -/
def plainDocuments : List (String × Json) :=
  [("first.json", clockDocument "clock" "show"), ("second.json", clockDocument "timer" "show")]

/-- Two documents for different exercises get a file each. -/
theorem writeModels_filesFor_sample :
    ∃ paths after,
      (writeModels (m := StateM Volume) "out" (modelsOf plainDocuments)).run ⟨.directory [], []⟩ =
        ((paths, none), after) ∧
      FilesFor "out" (modelsOf plainDocuments) ["clock.json", "timer.json"] after := by
  have hmodels : ∃ first second, modelsOf plainDocuments = [first, second] ∧
      first.slug = "clock" ∧ second.slug = "timer" := ⟨_, _, rfl, rfl, rfl⟩
  rcases hmodels with ⟨first, second, hmodels, hfirst, hsecond⟩
  have hbeside : (writeModel (m := StateM Volume) "out" second).run.run
      (outVolume [("clock.json", first.text)]) =
      (.ok "out/timer.json", outVolume [("clock.json", first.text), ("timer.json", second.text)]) :=
    run_writeModel_of_slug hsecond rfl rfl
  have hrun := run_writeModels_pair (run_writeModel_first hfirst) hbeside
  rw [← hmodels] at hrun
  have hslugs : (modelsOf plainDocuments).map Model.slug = ["clock", "timer"] := by
    rw [hmodels, List.map_cons, List.map_cons, hfirst, hsecond, List.map_nil]
  have hplain : ∀ model ∈ modelsOf plainDocuments, '/' ∉ model.slug.toList := by
    rw [hmodels]
    simp [hfirst, hsecond]
  have hnames : (modelsOf plainDocuments).map fileName = ["clock.json", "timer.json"] := by
    simp [hmodels, fileName, hfirst, hsecond]
  refine ⟨_, _, hrun, ?_⟩
  rw [← hnames]
  exact writeModels_filesFor hrun hplain (by rw [hslugs]; decide)

/-- Two documents with different functions of one exercise. -/
def twinDocuments : List (String × Json) :=
  [("first.json", clockDocument "clock" "show"), ("second.json", clockDocument "clock" "tell")]

/-- Both documents have models, and both models are written, but they do not have a file each: the
second has taken the place of the first. -/
theorem writeModels_same_slug :
    ∃ paths after,
      (writeModels (m := StateM Volume) "out" (modelsOf twinDocuments)).run ⟨.directory [], []⟩ =
        ((paths, none), after) ∧
      (modelsOf twinDocuments).length = 2 ∧
      ¬ ∃ names, FilesFor "out" (modelsOf twinDocuments) names after := by
  have hmodels : ∃ first second, modelsOf twinDocuments = [first, second] ∧
      first.slug = "clock" ∧ second.slug = "clock" := ⟨_, _, rfl, rfl, rfl⟩
  rcases hmodels with ⟨first, second, hmodels, hfirst, hsecond⟩
  have hagain : (writeModel (m := StateM Volume) "out" second).run.run
      (outVolume [("clock.json", first.text)]) =
      (.ok "out/clock.json", outVolume [("clock.json", second.text)]) :=
    run_writeModel_of_slug hsecond rfl rfl
  have hrun := run_writeModels_pair (run_writeModel_first hfirst) hagain
  rw [hmodels]
  refine ⟨_, _, hrun, rfl, ?_⟩
  rintro ⟨names, hdistinct, hcontents⟩
  have honly : ∀ place name contents,
      (outVolume [("clock.json", second.text)]).resolve "out" = .ok place →
      (outVolume [("clock.json", second.text)]).root.at? (place ++ [name]) =
        some (.file contents) → name = "clock.json" := by
    intro place name contents hplace hfound
    have hout : (outVolume [("clock.json", second.text)]).resolve "out" = .ok ["out"] := rfl
    cases hout.symm.trans hplace
    have hentries : (outVolume [("clock.json", second.text)]).root.at? ["out"] =
        some (.directory [("clock.json", .file second.text.toUTF8)]) := rfl
    rw [Node.at?_append_singleton hentries, Table.lookup_cons_eq_ite] at hfound
    by_contra hname
    rw [if_neg hname] at hfound
    cases hfound
  rcases hcontents with _ | ⟨⟨place, hplace, hone⟩, _ | ⟨⟨parent, hparent, htwo⟩, _⟩⟩
  rw [honly place _ _ hplace hone, honly parent _ _ hparent htwo] at hdistinct
  simp at hdistinct

end CommandLine
end Casebook
