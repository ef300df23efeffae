import AssertionGen.Batch.Document
import AssertionGen.Batch.Inspection
import AssertionGen.Batch.Report
import AssertionGen.CommandLine.Invocation
import AssertionGen.Discovery.Inputs
import AssertionGen.Emission.Storage
import AssertionGen.Json.Printer
import AssertionGen.SettingsFile
/-!
# Carrying out an invocation

An invocation is carried out on a file system. It ends with the file system as it is then, with what was
printed, and with an answer: whether every value type has a subject, or the error that stopped the run.
Settings come first, then the value types; nothing is written before both are there.
-/

namespace AssertionGen

/-- What stops a run. -/
inductive RunError where
  | settings (error : SettingsError)
  | discovery (error : DiscoveryError)
  | emission (root : FilePath) (error : WriteError)
  /-- The directory for the output of `inspect` could not be made. -/
  | directory (error : WriteError)
  /-- The output of `inspect` could not be written. -/
  | output (error : WriteError)
  deriving DecidableEq, Repr

namespace RunError

/-- The words for what stands behind an error, the last being the one at its bottom. -/
def chain : RunError → List String
  | settings e => e.message :: e.cause?.toList.map FileFault.message
  | discovery e =>
    ["failed to load value types", e.message] ++ e.cause?.toList.map FileFault.message
  | emission root e => ["failed to emit into " ++ root.text, e.message, e.cause.message]
  | directory e => ["failed to create " ++ e.path.text, e.cause.message]
  | output e => ["failed to write " ++ e.path.text, e.cause.message]

/-- The words for an error, with all that stands behind it. -/
def message (e : RunError) : String := ": ".intercalate e.chain

end RunError

/-- How a run ended. -/
structure RunResult where
  files : FileSystem
  output : String
  diagnostics : String
  answer : Except RunError Bool

namespace InputOptions

/-- The settings of a run. -/
def settings (o : InputOptions) (fs : FileSystem) : Except RunError Settings :=
  (Settings.forRun fs o.settingsFile o.namePrefix o.nameSuffix).mapError .settings

/-- The value types of a run. -/
def valueTypes (o : InputOptions) (fs : FileSystem) : Except RunError (List ValueType) :=
  (fs.loadInputs o.inputs).mapError .discovery

/-- Settings and value types. -/
def prepare (o : InputOptions) (fs : FileSystem) : Except RunError (Settings × List ValueType) := do
  let settings ← o.settings fs
  let batch ← o.valueTypes fs
  return (settings, batch)

end InputOptions

/-- The lines that tell of a batch: what was written, what was left out, what failed, and the counts. -/
def Report.summary (r : Report) (root : FilePath) : List String :=
  (r.units.map fun u => "wrote " ++ (u.pathUnder root).text) ++
    (r.warnings.map fun w => "warning: " ++ w.text) ++
    (r.failures.map fun e => "error: " ++ e.message) ++
    [toString r.units.length ++ " generated, " ++ toString r.failures.length ++ " failed, " ++
      toString r.warnings.length ++ " warning(s)"]

/-- Lines, each ended. -/
def endedLines (lines : List String) : String := String.join (lines.map (· ++ "\n"))

/-- The text that `inspect` shows. -/
def inspectionText (views : List SubjectView) : String :=
  (Json.array (views.map SubjectView.write)).pretty

namespace Command

/-- Writes the subjects of all value types. -/
def runGenerate (o : InputOptions) (out : FilePath) (fs : FileSystem) : RunResult :=
  match o.prepare fs with
  | .error e => ⟨fs, "", "", .error e⟩
  | .ok (settings, batch) =>
    let report := generateBatch settings batch
    match fs.storeUnits out report.units with
    | (fs, .error e) => ⟨fs, "", "", .error (.emission out e)⟩
    | (fs, .ok ()) => ⟨fs, "", endedLines (report.summary out), .ok report.isSuccess⟩

/-- Puts a text on the terminal or into a file. -/
def present (text : String) (out : Option FilePath) (fs : FileSystem) :
    FileSystem × String × Except RunError Unit :=
  match out with
  | none => (fs, endedLines [text], .ok ())
  | some p =>
    match fs.makeAbove p with
    | (fs, .error e) => (fs, "", .error (.directory e))
    | (fs, .ok ()) =>
      match fs.writeFile p text with
      | (fs, .error e) => (fs, "", .error (.output e))
      | (fs, .ok ()) => (fs, "", .ok ())

/-- Shows how the properties of all value types were classified. -/
def runInspect (o : InputOptions) (out : Option FilePath) (fs : FileSystem) : RunResult :=
  match o.prepare fs with
  | .error e => ⟨fs, "", "", .error e⟩
  | .ok (settings, batch) =>
    let views := inspectBatch settings batch
    match Command.present (inspectionText views) out fs with
    | (fs, printed, .error e) => ⟨fs, printed, "", .error e⟩
    | (fs, printed, .ok ()) => ⟨fs, printed, "", .ok (views.all fun v => v.error.isNone)⟩

end Command

/-- Carries out an invocation. -/
def Invocation.run (i : Invocation) (fs : FileSystem) : RunResult :=
  match i.command with
  | .generate _ _ true => ⟨fs, "", endedLines [i.dump.writeAt 0], .ok true⟩
  | .generate o out false => Command.runGenerate o out fs
  | .inspect o out => Command.runInspect o out fs

end AssertionGen
