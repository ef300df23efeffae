import AssertionGen.Proofs.EmittedFiles
import AssertionGen.Proofs.RunSettings
import AssertionGen.Proofs.UnitNames
import AssertionGen.Proofs.Views
/-!
# What a run does to files, and what it answers

A dry run changes no file. Neither does a run that finds no valid settings or cannot load its value types:
both come before anything is written. Otherwise `generate` stores the units of the report, of which there is
one for each value type that does not fail, and answers whether none failed; what the file system is then
is said by `FileSystem.Stored`.

`inspect` computes its answer from the views, not from the failures of a report. It is the same answer
(`all_error_isNone_inspectBatch`), since the views show the fates that the report lists.
-/

namespace AssertionGen

open Java

variable {settings : Settings} {batch : List ValueType} {v : ValueType} {u : SourceUnit}
  {o : InputOptions} {fs : FileSystem} {e : RunError}

/-! ## Preparing -/

theorem mapError_eq_ok_iff {ε δ α : Type} {x : Except ε α} {f : ε → δ} {a : α} :
    x.mapError f = .ok a ↔ x = .ok a := by
  cases x with
  | error e => exact iff_of_false (fun h => by cases h) fun h => by cases h
  | ok b => exact ⟨fun h => by cases h; rfl, fun h => by cases h; rfl⟩

namespace InputOptions

theorem prepare_eq_ok_iff :
    o.prepare fs = .ok (settings, batch) ↔
      o.settings fs = .ok settings ∧ o.valueTypes fs = .ok batch := by
  rw [prepare, bind_eq_ok_iff]
  constructor
  · rintro ⟨s, hsettings, h⟩
    obtain ⟨vs, htypes, h⟩ := bind_eq_ok_iff.mp h
    cases h
    exact ⟨hsettings, htypes⟩
  · rintro ⟨hsettings, htypes⟩
    exact ⟨_, hsettings, bind_eq_ok_iff.mpr ⟨_, htypes, rfl⟩⟩

/-- A run is stopped by its settings, or else by its value types. -/
theorem prepare_eq_error (h : o.settings fs = .error e ∨
    (∃ s, o.settings fs = .ok s) ∧ o.valueTypes fs = .error e) : o.prepare fs = .error e := by
  rcases h with h | ⟨⟨s, hs⟩, h⟩
  · rw [prepare, h]
    rfl
  · rw [prepare, hs, h]
    rfl

/-- Settings of a run are valid, wherever they come from. -/
theorem validate_of_settings (h : o.settings fs = .ok settings) : settings.validate = .ok () := by
  have hchecked : ∀ s : Settings,
      (s.validate.mapError SettingsError.invalid >>= fun _ => pure s) = .ok settings →
        settings.validate = .ok () := by
    intro s hs
    obtain ⟨⟨⟩, hvalid, hs⟩ := bind_eq_ok_iff.mp hs
    cases hs
    exact mapError_eq_ok_iff.mp hvalid
  replace h := mapError_eq_ok_iff.mp h
  unfold Settings.forRun at h
  cases hfile : o.settingsFile with
  | none =>
      rw [hfile] at h
      exact hchecked _ h
  | some p =>
      rw [hfile] at h
      obtain ⟨file, -, h⟩ := bind_eq_ok_iff.mp h
      exact hchecked _ h

end InputOptions

/-! ## Fates of a batch -/

theorem generateBatch_units_iff :
    u ∈ (generateBatch settings batch).units ↔
      ∃ v ∈ batch, ∃ s, fateIn settings batch v = .ok (s, u) := by
  rw [generateBatch_eq_listing]
  show u ∈ ((batch.map (fateIn settings batch)).filterMap Fate.made?).map Prod.snd ↔ _
  simp only [List.mem_map, List.mem_filterMap]
  constructor
  · rintro ⟨⟨s, w⟩, ⟨fate, ⟨v, hv, rfl⟩, hmade⟩, rfl⟩
    refine ⟨v, hv, s, ?_⟩
    cases hfate : fateIn settings batch v with
    | error e => rw [hfate] at hmade; cases hmade
    | ok made => rw [hfate] at hmade; cases hmade; rfl
  · rintro ⟨v, hv, s, hfate⟩
    exact ⟨(s, u), ⟨_, ⟨v, hv, rfl⟩, by rw [hfate]; rfl⟩, rfl⟩

theorem isSuccess_iff :
    (generateBatch settings batch).isSuccess = true ↔
      ∀ v ∈ batch, ∃ made, fateIn settings batch v = .ok made := by
  rw [generateBatch_eq_listing]
  show ((batch.map (fateIn settings batch)).filterMap Fate.failure?).isEmpty = true ↔ _
  rw [List.isEmpty_iff, List.filterMap_eq_nil_iff, List.forall_mem_map]
  refine forall_congr' fun v => forall_congr' fun _ => ?_
  cases fateIn settings batch v with
  | ok made => exact iff_of_true rfl ⟨made, rfl⟩
  | error e => exact iff_of_false (fun h => by cases h) fun ⟨_, h⟩ => by cases h

/-- The views have no error exactly if the report has no failure. -/
theorem all_error_isNone_inspectBatch :
    ((inspectBatch settings batch).all fun view => view.error.isNone) =
      (generateBatch settings batch).isSuccess := by
  rw [Bool.eq_iff_iff, isSuccess_iff, inspectBatch_eq_map, List.all_map, List.all_eq_true]
  refine forall_congr' fun v => forall_congr' fun _ => ?_
  unfold fateIn
  show (SubjectView.of settings v _).error.isNone = true ↔ _
  cases generate settings (settledTable settings batch) v with
  | ok s => exact iff_of_true rfl ⟨_, rfl⟩
  | error e => exact iff_of_false (fun h => by cases h) fun ⟨_, h⟩ => by cases h

/-- No name of the value type has a slash, and neither has its package. -/
structure ValueType.Slashless (v : ValueType) : Prop where
  names : ∀ n ∈ v.enclosing ++ [v.name], '/' ∉ n.toList
  package : '/' ∉ v.package.toList

theorem slashless_of_mem_units (hvalid : settings.validate = .ok ()) (hbatch : ∀ v ∈ batch, v.Slashless)
    (hu : u ∈ (generateBatch settings batch).units) : u.Slashless := by
  rw [units_generateBatch] at hu
  obtain ⟨s, hs, rfl⟩ := List.mem_map.mp hu
  have hv : s.valueType.Slashless := hbatch _ (eq_assembled_of_mem_subjects hs).2
  refine ⟨hv.package, ?_⟩
  show '/' ∉ s.name.toList
  rw [name_of_mem_subjects hs]
  exact ValueType.notMem_subjectName hvalid (by decide) hv.names

/-! ## Runs -/

namespace Command

theorem runGenerate_of_storesAll {out : FilePath} {fs' : FileSystem}
    (h : o.prepare fs = .ok (settings, batch))
    (hstores : FileSystem.StoresAll out fs (generateBatch settings batch).units fs') :
    (Command.runGenerate o out fs).files = fs' ∧
      (Command.runGenerate o out fs).answer = .ok (generateBatch settings batch).isSuccess := by
  rw [Command.runGenerate, h]
  simp only [FileSystem.storeUnits_eq_ok_iff.mpr hstores, and_self]

/-- The answer of an inspection is that of the generation, if the views could be shown. -/
theorem runInspect_of_present {shown : Option FilePath} {fs' : FileSystem} {printed : String}
    (h : o.prepare fs = .ok (settings, batch))
    (hpresent : Command.present (inspectionText (inspectBatch settings batch)) shown fs =
      (fs', printed, .ok ())) :
    (Command.runInspect o shown fs).files = fs' ∧
      (Command.runInspect o shown fs).answer = .ok (generateBatch settings batch).isSuccess := by
  rw [Command.runInspect, h]
  simp only [hpresent, all_error_isNone_inspectBatch, and_self]

theorem present_of_write {text : String} {p : FilePath} {made written : FileSystem}
    (hmade : fs.makeAbove p = (made, .ok ())) (hwritten : made.write p text = .ok written) :
    Command.present text (some p) fs = (written, "", .ok ()) := by
  simp only [Command.present, hmade, FileSystem.writeFile, hwritten]

end Command

namespace Sample

/-- A document of two value types, of which the first has a constant twice and fails. -/
def shelfText : String :=
  "[\x7b\"name\":\"Bad\",\"enum_constants\":[\"A\",\"A\"]\x7d," ++
    "\x7b\"name\":\"Box\",\"package\":\"a.b\"\x7d]"

/-- The value types of that document. -/
def shelfTypes : List ValueType :=
  [⟨"Bad", "", [], [], [], ["A", "A"]⟩, ⟨"Box", "a.b", [], [], [], []⟩]

/-- A file system with the document in its working directory. -/
def shelf : FileSystem :=
  ⟨[(["w"], .directory), (["b.json", "w"], .file shelfText.toUTF8)], ["w"]⟩

/-- Options that take the value types from the document. -/
def shelfOptions : InputOptions := ⟨["b.json"], none, none, none⟩

theorem settings_shelf : shelfOptions.settings shelf = .ok Settings.standard := rfl

theorem loadFile_shelf : shelf.loadFile ⟨"b.json"⟩ = .ok shelfTypes := by
  have hread : shelf.readText ⟨"b.json"⟩ = .ok shelfText := FileSystem.readText_of_lookup rfl
  have hparse : ValueType.ofText shelfText = .ok shelfTypes := by decide +kernel
  exact bind_eq_ok_iff.mpr
    ⟨shelfText, mapError_eq_ok_iff.mpr hread, mapError_eq_ok_iff.mpr hparse⟩

theorem valueTypes_shelf : shelfOptions.valueTypes shelf = .ok shelfTypes := by
  have hfiles : [FilePath.mk "b.json"].mapM shelf.loadFile = .ok [shelfTypes] := by
    rw [List.mapM_cons, loadFile_shelf]
    rfl
  exact mapError_eq_ok_iff.mpr (bind_eq_ok_iff.mpr ⟨[⟨"b.json"⟩], by decide +kernel,
    bind_eq_ok_iff.mpr ⟨[shelfTypes], hfiles, rfl⟩⟩)

theorem exists_storesAll_shelf : ∃ fs', FileSystem.StoresAll ⟨"out"⟩ shelf
    (generateBatch Settings.standard shelfTypes).units fs' := by
  have hdone : (shelf.storeUnits ⟨"out"⟩
      (generateBatch Settings.standard shelfTypes).units).2 = .ok () := by decide +kernel
  simp only [← FileSystem.storeUnits_eq_ok_iff]
  generalize shelf.storeUnits ⟨"out"⟩ (generateBatch Settings.standard shelfTypes).units = result
    at hdone ⊢
  exact ⟨result.1, Prod.ext rfl hdone⟩

end Sample

/-- **What runs do.** A dry run changes no file and answers that all is well. A run whose settings are
refused, or whose value types cannot be loaded, ends with that error; no file is changed and nothing is
printed. With settings and value types, and if no operation fails by which it stores the units of the
report, `generate` answers whether no value type failed. The units are those of the value types that did not
fail. If no name has a slash and the paths of the units are distinct, they are all stored with their
sources, and nothing else has changed (`FileSystem.Stored`); so it is if they are stored in another order.
From the same settings and value types `inspect` gives the same answer, wherever it runs: on the terminal
always, and into a file if that can be written. -/
theorem Invocation.run_effects (o : InputOptions) (out : FilePath) (fs : FileSystem) (verbosity : Nat) :
    ((Invocation.run ⟨verbosity, .generate o out true⟩ fs).files = fs ∧
        (Invocation.run ⟨verbosity, .generate o out true⟩ fs).answer = .ok true) ∧
      (∀ e, (o.settings fs = .error e ∨
          (∃ s, o.settings fs = .ok s) ∧ o.valueTypes fs = .error e) →
        Invocation.run ⟨verbosity, .generate o out false⟩ fs = ⟨fs, "", "", .error e⟩ ∧
          ∀ shown, Invocation.run ⟨verbosity, .inspect o shown⟩ fs = ⟨fs, "", "", .error e⟩) ∧
      ∀ settings batch, o.settings fs = .ok settings → o.valueTypes fs = .ok batch →
        ((generateBatch settings batch).isSuccess = true ↔
            ∀ v ∈ batch, ∃ made, fateIn settings batch v = .ok made) ∧
          (∀ u, u ∈ (generateBatch settings batch).units ↔
            ∃ v ∈ batch, ∃ s, fateIn settings batch v = .ok (s, u)) ∧
          (∀ fs', FileSystem.StoresAll out fs (generateBatch settings batch).units fs' →
            (Invocation.run ⟨verbosity, .generate o out false⟩ fs).files = fs' ∧
              (Invocation.run ⟨verbosity, .generate o out false⟩ fs).answer =
                .ok (generateBatch settings batch).isSuccess) ∧
          ((∀ v ∈ batch, v.Slashless) →
            ((generateBatch settings batch).units.map (SourceUnit.pathUnder out)).Nodup →
              ∀ us, us.Perm (generateBatch settings batch).units →
                ∀ fs', FileSystem.StoresAll out fs us fs' →
                  FileSystem.Stored out (generateBatch settings batch).units fs fs') ∧
          ∀ (i : InputOptions) (gs : FileSystem), i.settings gs = .ok settings →
            i.valueTypes gs = .ok batch →
              (Invocation.run ⟨verbosity, .inspect i none⟩ gs).answer =
                  .ok (generateBatch settings batch).isSuccess ∧
                ∀ p made written, gs.makeAbove p = (made, .ok ()) →
                  made.write p (inspectionText (inspectBatch settings batch)) = .ok written →
                    (Invocation.run ⟨verbosity, .inspect i (some p)⟩ gs).files = written ∧
                      (Invocation.run ⟨verbosity, .inspect i (some p)⟩ gs).answer =
                        .ok (generateBatch settings batch).isSuccess := by
  refine ⟨⟨rfl, rfl⟩, fun e he => ?_, fun settings batch hsettings htypes =>
    ⟨isSuccess_iff, fun u => generateBatch_units_iff, fun fs' hstores => ?_,
      fun hslash hdistinct us hperm fs' hstores => ?_, fun i gs hi htypes' => ?_⟩⟩
  · have hprepare := InputOptions.prepare_eq_error he
    refine ⟨?_, fun shown => ?_⟩
    · show Command.runGenerate o out fs = _
      rw [Command.runGenerate, hprepare]
    · show Command.runInspect o shown fs = _
      rw [Command.runInspect, hprepare]
  · have hprepare := InputOptions.prepare_eq_ok_iff.mpr ⟨hsettings, htypes⟩
    exact Command.runGenerate_of_storesAll hprepare hstores
  · have hvalid := InputOptions.validate_of_settings hsettings
    exact hstores.stored (fun u hu => slashless_of_mem_units hvalid hslash hu) hdistinct hperm
  · have hprepare := InputOptions.prepare_eq_ok_iff.mpr ⟨hi, htypes'⟩
    refine ⟨(Command.runInspect_of_present hprepare rfl).2, fun p made written hmade hwritten => ?_⟩
    exact Command.runInspect_of_present hprepare (Command.present_of_write hmade hwritten)

/-- Of two value types one fails: the unit of the other is written two directories below the root, and both
commands answer that not all is well. -/
theorem Invocation.run_effects_shelf :
    ∃ fs', (Invocation.run ⟨0, .generate Sample.shelfOptions ⟨"out"⟩ false⟩ Sample.shelf).files = fs' ∧
      (Invocation.run ⟨0, .generate Sample.shelfOptions ⟨"out"⟩ false⟩ Sample.shelf).answer = .ok false ∧
      FileSystem.Stored ⟨"out"⟩ (generateBatch Settings.standard Sample.shelfTypes).units
        Sample.shelf fs' ∧
      (Invocation.run ⟨0, .inspect Sample.shelfOptions none⟩ Sample.shelf).answer = .ok false ∧
      (generateBatch Settings.standard Sample.shelfTypes).units.map
        (SourceUnit.locationIn · ["out", "w"]) = [["AutoBox.java", "b", "a", "out", "w"]] := by
  obtain ⟨-, -, hprepared⟩ := Invocation.run_effects Sample.shelfOptions ⟨"out"⟩ Sample.shelf 0
  obtain ⟨-, -, hgenerated, hstored, hinspected⟩ :=
    hprepared Settings.standard Sample.shelfTypes Sample.settings_shelf Sample.valueTypes_shelf
  have hslash : ∀ v ∈ Sample.shelfTypes, v.Slashless := by
    simp only [Sample.shelfTypes, List.forall_mem_cons, List.not_mem_nil, false_implies, implies_true,
      and_true]
    exact ⟨⟨by decide, by decide⟩, ⟨by decide, by decide⟩⟩
  have hdistinct : ((generateBatch Settings.standard Sample.shelfTypes).units.map
      (SourceUnit.pathUnder ⟨"out"⟩)).Nodup := by decide +kernel
  obtain ⟨fs', hstores⟩ := Sample.exists_storesAll_shelf
  have hfails : (generateBatch Settings.standard Sample.shelfTypes).isSuccess = false := by
    decide +kernel
  obtain ⟨hfiles, hanswer⟩ := hgenerated _ hstores
  have hinspect := (hinspected _ _ Sample.settings_shelf Sample.valueTypes_shelf).1
  rw [hfails] at hanswer hinspect
  exact ⟨fs', hfiles, hanswer, hstored hslash hdistinct _ (List.Perm.refl _) fs' hstores, hinspect,
    by decide +kernel⟩

end AssertionGen
