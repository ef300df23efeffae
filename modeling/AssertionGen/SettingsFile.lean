import AssertionGen.Files.FileSystem
import AssertionGen.SettingsDocument
/-!
# Settings for a run

Settings may come from a file, which must hold valid ones; a prefix and a suffix given for the run
replace those of the file, and the outcome must be valid again.
-/

namespace AssertionGen

/-- Why there are no settings. -/
inductive SettingsError where
  | unreadable (path : FilePath) (cause : FileFault)
  | refused (path : FilePath) (refusal : Settings.TextRefusal)
  | invalid (fault : SettingsFault)
  deriving DecidableEq, Repr

namespace SettingsError

/-- The words for an error. -/
def message : SettingsError → String
  | unreadable p cause => "failed to read config " ++ p.text ++ ": " ++ cause.message
  | refused p r => "config " ++ p.text ++ ": at JSON path " ++ r.place.write ++ " → " ++ r.message
  | invalid f => f.message

/-- What lies behind an error. -/
def cause? : SettingsError → Option FileFault
  | unreadable _ cause => some cause
  | refused _ _ | invalid _ => none

end SettingsError

namespace Settings

/-- The valid settings in a file. -/
def load (fs : FileSystem) (p : FilePath) : Except SettingsError Settings := do
  let source ← (fs.readText p).mapError (.unreadable p)
  let s ← (Settings.ofText source).mapError (.refused p)
  s.validate.mapError .invalid
  return s

/-- The settings of a run: from a file, if one is given, with the prefix and suffix given. -/
def forRun (fs : FileSystem) (file : Option FilePath) (givenPrefix givenSuffix : Option String) :
    Except SettingsError Settings := do
  let base ←
    match file with
    | some p => load fs p
    | none => pure standard
  let s := (base.withPrefix givenPrefix).withSuffix givenSuffix
  s.validate.mapError .invalid
  return s

end Settings

end AssertionGen
