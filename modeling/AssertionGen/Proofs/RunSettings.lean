import AssertionGen.CommandLine.Execution
import AssertionGen.Proofs.Validity
import Mathlib.Data.List.Basic
/-!
# Flags and the file they override

The settings of a run come from a file, and a prefix and a suffix given as flags take the place of the
file's. Settings are checked twice: a file must hold valid settings of its own (`Settings.load`), and
what the flags make of them must be valid again. So the flags alone do not decide (`not_flagsDecide`):
a file that leaves prefix and suffix empty is refused although a suffix is given.

What is decided instead is `InputOptions.settings_of_file`. The two checks differ only where the flags
remove the first fault of the file or put another one before it.
-/

namespace AssertionGen

namespace InputOptions

variable {o : InputOptions} {fs : FileSystem} {p : FilePath} {source : String} {file : Settings}

/-! ## Two checks -/

/-- A file's settings with the prefix and the suffix that are given as flags, each if it is given. -/
def overriding (o : InputOptions) (file : Settings) : Settings :=
  { file with
    namePrefix := o.namePrefix.getD file.namePrefix
    nameSuffix := o.nameSuffix.getD file.nameSuffix }

/-- Only the settings with the flags in them count: they are what a run gets if they are valid, and
their fault is what it is refused for if they are not. -/
structure FlagsDecide (o : InputOptions) (fs : FileSystem) (file : Settings) : Prop where
  granted : ∀ s, o.settings fs = .ok s ↔
    (o.overriding file).validate = .ok () ∧ s = o.overriding file
  refused : ∀ e, o.settings fs = .error e ↔
    ∃ f, (o.overriding file).validate = .error f ∧ e = .settings (.invalid f)

/-- The settings of a run pass two checks, the file's own and that of what the flags make of them. -/
theorem settings_eq (hfile : o.settingsFile = some p) (hread : fs.readText p = .ok source)
    (hparse : Settings.ofText source = .ok file) :
    o.settings fs =
      match file.validate, (o.overriding file).validate with
      | .ok (), .ok () => .ok (o.overriding file)
      | .ok (), .error f => .error (.settings (.invalid f))
      | .error f, _ => .error (.settings (.invalid f)) := by
  have hload : Settings.load fs p =
      file.validate.mapError SettingsError.invalid >>= fun _ => pure file := by
    unfold Settings.load
    rw [hread]
    show (Settings.ofText source).mapError (SettingsError.refused p) >>= _ = _
    rw [hparse]
    rfl
  unfold settings Settings.forRun
  rw [hfile]
  show Except.mapError _ (Settings.load fs p >>= fun s =>
    (o.overriding s).validate.mapError SettingsError.invalid >>= fun _ => pure (o.overriding s)) = _
  rw [hload]
  cases file.validate with
  | error f => rfl
  | ok valid =>
      show Except.mapError _ ((o.overriding file).validate.mapError SettingsError.invalid >>= fun _ =>
        pure (o.overriding file)) = _
      cases (o.overriding file).validate <;> rfl

theorem settings_eq_ok_iff (hfile : o.settingsFile = some p) (hread : fs.readText p = .ok source)
    (hparse : Settings.ofText source = .ok file) {s : Settings} :
    o.settings fs = .ok s ↔
      file.validate = .ok () ∧ (o.overriding file).validate = .ok () ∧ s = o.overriding file := by
  rw [settings_eq hfile hread hparse]
  cases file.validate with
  | error f => simp
  | ok valid =>
      cases (o.overriding file).validate with
      | error f => simp
      | ok valid => simp [eq_comm]

theorem settings_eq_error_iff (hfile : o.settingsFile = some p) (hread : fs.readText p = .ok source)
    (hparse : Settings.ofText source = .ok file) {e : RunError} :
    o.settings fs = .error e ↔
      ∃ f, (file.validate = .error f ∨
        file.validate = .ok () ∧ (o.overriding file).validate = .error f) ∧
        e = .settings (.invalid f) := by
  rw [settings_eq hfile hread hparse]
  cases file.validate with
  | error f => simp [eq_comm]
  | ok valid =>
      cases (o.overriding file).validate with
      | error f => simp [eq_comm]
      | ok valid => simp

/-- The file's own check goes unnoticed exactly if the fault it finds is the one that is found with the
flags as well. -/
theorem flagsDecide_iff (hfile : o.settingsFile = some p) (hread : fs.readText p = .ok source)
    (hparse : Settings.ofText source = .ok file) :
    o.FlagsDecide fs file ↔ ∀ f, file.FirstFault f → (o.overriding file).FirstFault f := by
  simp only [← Settings.validate_eq_error_iff]
  constructor
  · intro hdecide f hf
    have hrefused : o.settings fs = .error (.settings (.invalid f)) :=
      (settings_eq_error_iff hfile hread hparse).mpr ⟨f, .inl hf, rfl⟩
    obtain ⟨g, hg, heq⟩ := (hdecide.refused _).mp hrefused
    cases heq
    exact hg
  · intro hsame
    refine ⟨fun s => ?_, fun e => ?_⟩
    · rw [settings_eq_ok_iff hfile hread hparse]
      refine ⟨fun h => h.2, fun h => ⟨?_, h⟩⟩
      cases hvalid : file.validate with
      | ok valid => rfl
      | error f => rw [hsame f hvalid] at h; cases h.1
    · rw [settings_eq_error_iff hfile hread hparse]
      refine exists_congr fun f => and_congr_left fun _ => ⟨?_, fun hf => ?_⟩
      · rintro (hf | ⟨-, hf⟩)
        · exact hsame f hf
        · exact hf
      · cases hvalid : file.validate with
        | ok valid => exact .inr ⟨rfl, hf⟩
        | error g =>
            have hg := hsame g hvalid
            rw [hf] at hg
            cases hg
            exact .inl rfl

/-! ## What a run does with them -/

/-- A run that gets no settings changes no file and prints nothing. -/
theorem run_of_settings_eq_error {e : RunError} (h : o.settings fs = .error e) (verbosity : Nat) :
    (∀ out, Invocation.run ⟨verbosity, .generate o out false⟩ fs = ⟨fs, "", "", .error e⟩) ∧
      ∀ out, Invocation.run ⟨verbosity, .inspect o out⟩ fs = ⟨fs, "", "", .error e⟩ := by
  have hprepare : o.prepare fs = .error e := by
    rw [prepare, h]
    rfl
  refine ⟨fun out => ?_, fun out => ?_⟩
  · show Command.runGenerate o out fs = _
    rw [Command.runGenerate, hprepare]
  · show Command.runInspect o out fs = _
    rw [Command.runInspect, hprepare]

/-- A run that gets settings goes on with these. -/
theorem prepare_of_settings_eq_ok {s : Settings} (h : o.settings fs = .ok s) :
    o.prepare fs = (o.valueTypes fs).map fun batch => (s, batch) := by
  rw [prepare, h]
  show (o.valueTypes fs >>= fun batch => pure (s, batch)) = _
  cases o.valueTypes fs <;> rfl

end InputOptions

/-- A file reads as the text that was written to it. -/
theorem FileSystem.readText_of_lookup {fs : FileSystem} {p : FilePath} {text : String}
    (h : fs.lookup p = .ok (.file text.toUTF8)) : fs.readText p = .ok text := by
  have htext : String.fromUTF8? text.toUTF8 = some text := dif_pos text.isValidUTF8
  simp only [FileSystem.readText, h, bind, Except.bind, htext]
  rfl

namespace Sample

/-- A file system with one file in its working directory. -/
def withSettings (text : String) : FileSystem := ⟨[(["c.json"], .file text.toUTF8)], []⟩

/-- Options that take the settings from that file. -/
def flags (givenPrefix givenSuffix : Option String) : InputOptions :=
  ⟨[], some ⟨"c.json"⟩, givenPrefix, givenSuffix⟩

/-- The standard settings with other affixes. -/
def affixed (front back : String) : Settings :=
  { Settings.standard with namePrefix := front, nameSuffix := back }

theorem readText_withSettings (text : String) : (withSettings text).readText ⟨"c.json"⟩ = .ok text :=
  FileSystem.readText_of_lookup rfl

/-- The text of a file that takes the prefix away. -/
def unprefixed : String := "\x7b\"prefix\": \"\"\x7d"

/-- The text of a file that gives a suffix. -/
def subjects : String := "\x7b\"suffix\": \"Subject\"\x7d"

end Sample

namespace InputOptions

/-- A file without prefix and suffix is refused, although the suffix given as a flag makes its settings
valid. -/
theorem not_flagsDecide :
    ¬ ∀ (o : InputOptions) (fs : FileSystem) (p : FilePath) (source : String) (file : Settings),
      o.settingsFile = some p → fs.readText p = .ok source → Settings.ofText source = .ok file →
        o.FlagsDecide fs file := by
  intro hall
  have hread := Sample.readText_withSettings Sample.unprefixed
  have hparse : Settings.ofText Sample.unprefixed = .ok (Sample.affixed "" "") := by decide +kernel
  have hdecide := hall (Sample.flags none (some "Subject")) _ _ _ _ rfl hread hparse
  have hgranted := (hdecide.granted (Sample.affixed "" "Subject")).mpr ⟨rfl, rfl⟩
  obtain ⟨hvalid, -⟩ := (settings_eq_ok_iff rfl hread hparse).mp hgranted
  exact absurd hvalid (by decide)

/-- **What flags override.** Let a file hold settings that can be read. A run gets them, with the prefix
and the suffix given as flags in them, exactly if they are valid both without and with the flags; it is
refused for their fault without the flags, or else for their fault with the flags. So the flags alone
decide exactly if they neither remove the first fault of the file nor put another one before it. Both
commands go on with the settings they get, and end with the refusal before anything is written or
printed. -/
theorem settings_of_file (o : InputOptions) (fs : FileSystem) (p : FilePath) (source : String)
    (file : Settings) (hfile : o.settingsFile = some p) (hread : fs.readText p = .ok source)
    (hparse : Settings.ofText source = .ok file) :
    (∀ s, o.settings fs = .ok s ↔
        file.validate = .ok () ∧ (o.overriding file).validate = .ok () ∧ s = o.overriding file) ∧
      (∀ e, o.settings fs = .error e ↔
        ∃ f, (file.validate = .error f ∨
          file.validate = .ok () ∧ (o.overriding file).validate = .error f) ∧
          e = .settings (.invalid f)) ∧
      (o.FlagsDecide fs file ↔ ∀ f, file.FirstFault f → (o.overriding file).FirstFault f) ∧
      (∀ s, o.settings fs = .ok s →
        o.prepare fs = (o.valueTypes fs).map fun batch => (s, batch)) ∧
      ∀ e, o.settings fs = .error e → ∀ verbosity,
        (∀ out, Invocation.run ⟨verbosity, .generate o out false⟩ fs = ⟨fs, "", "", .error e⟩) ∧
          ∀ out, Invocation.run ⟨verbosity, .inspect o out⟩ fs = ⟨fs, "", "", .error e⟩ :=
  ⟨fun _ => settings_eq_ok_iff hfile hread hparse, fun _ => settings_eq_error_iff hfile hread hparse,
    flagsDecide_iff hfile hread hparse, fun _ h => prepare_of_settings_eq_ok h,
    fun _ h verbosity => run_of_settings_eq_error h verbosity⟩

/-- A prefix and a suffix can trade places: the file's suffix lets the flag take the prefix away. -/
theorem settings_of_file_subjects :
    (Sample.flags (some "") none).settings (Sample.withSettings Sample.subjects) =
        .ok (Sample.affixed "" "Subject") ∧
      (Sample.flags (some "") none).FlagsDecide (Sample.withSettings Sample.subjects)
        (Sample.affixed "Auto" "Subject") := by
  have hvalid : (Sample.affixed "Auto" "Subject").validate = .ok () := rfl
  obtain ⟨hgranted, -, hdecide, -⟩ := settings_of_file (Sample.flags (some "") none)
    (Sample.withSettings Sample.subjects) ⟨"c.json"⟩ Sample.subjects (Sample.affixed "Auto" "Subject")
    rfl (Sample.readText_withSettings _) (by decide +kernel)
  refine ⟨(hgranted _).mpr ⟨hvalid, rfl, rfl⟩, hdecide.mpr fun f hf => ?_⟩
  rw [← Settings.validate_eq_error_iff, hvalid] at hf
  cases hf

end InputOptions

end AssertionGen
