import AssertionGen.Batch.Settlement
import AssertionGen.Java.Unit
/-!
# Generating a batch

Every value type of a batch is generated against the settled link table. The report gives the
subjects with their units, the failures, and the warnings of the subjects, each in the order of the
batch; a failure never keeps another type from being generated.
-/

namespace AssertionGen

/-- What came of a batch; `units` has the unit of each subject at the same position. -/
structure Report where
  subjects : List Subject
  units : List Java.SourceUnit
  failures : List GenerationError
  warnings : List Warning
  deriving Repr

/-- The result of each value type of a batch, in order. -/
def batchResults (settings : Settings) (batch : List ValueType) :
    List (Except GenerationError Subject) :=
  generateAll settings (settledTable settings batch) batch

/-- The subjects among the results. -/
def generatedSubjects (results : List (Except GenerationError Subject)) : List Subject :=
  results.filterMap fun
    | .ok s => some s
    | .error _ => none

/-- The failures among the results. -/
def generationFailures (results : List (Except GenerationError Subject)) : List GenerationError :=
  results.filterMap fun
    | .ok _ => none
    | .error e => some e

namespace Report

/-- The report of some results. -/
def ofResults (settings : Settings) (results : List (Except GenerationError Subject)) : Report :=
  let subjects := generatedSubjects results
  { subjects
    units := subjects.map (Java.SourceUnit.ofSubject settings)
    failures := generationFailures results
    warnings := subjects.flatMap Subject.warnings }

/-- Whether nothing failed. -/
def isSuccess (r : Report) : Bool := r.failures.isEmpty

end Report

/-- Generates a batch. -/
def generateBatch (settings : Settings) (batch : List ValueType) : Report :=
  Report.ofResults settings (batchResults settings batch)

end AssertionGen
