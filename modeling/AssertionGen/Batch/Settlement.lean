import AssertionGen.Subject.Assembly
/-!
# Settling the link table of a batch

Every value type of a batch is generated against one link table, which must list only types whose own
subjects are generated. A failure can itself be caused by a link, so the table is found in rounds:
all types are generated, those that fail are taken off the table, and this is repeated until no
failed type is listed. The table gets smaller in every round but the last (`rounds`).
-/

namespace AssertionGen

/-- The result of generating every value type of a batch against one table. -/
def generateAll (settings : Settings) (table : LinkTable) (batch : List ValueType) :
    List (Except GenerationError Subject) :=
  batch.map (generate settings table)

/-- The qualified names of the failed types. -/
def failedNames (results : List (Except GenerationError Subject)) : List String :=
  results.filterMap fun
    | .error e => some e.valueType
    | .ok _ => none

/-- The table without the types that fail against it. -/
def LinkTable.shrink (settings : Settings) (batch : List ValueType) (table : LinkTable) : LinkTable :=
  Entries.without table (failedNames (generateAll settings table batch))

/-- The tables of all rounds from this one on; the last has no failed type. -/
def LinkTable.rounds (settings : Settings) (batch : List ValueType) (table : LinkTable) :
    List LinkTable :=
  if (table.shrink settings batch).length < table.length then
    table :: rounds settings batch (table.shrink settings batch)
  else [table]
termination_by table.length

theorem LinkTable.rounds_ne_nil (settings : Settings) (batch : List ValueType) (table : LinkTable) :
    table.rounds settings batch ≠ [] := by
  rw [rounds]
  split <;> simp

/-- The table against which no listed type fails. -/
def settledTable (settings : Settings) (batch : List ValueType) : LinkTable :=
  ((LinkTable.ofBatch settings batch).rounds settings batch).getLast
    (LinkTable.rounds_ne_nil settings batch _)

end AssertionGen
