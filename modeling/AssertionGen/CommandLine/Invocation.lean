import AssertionGen.Files.FilePath
import AssertionGen.Text.Escaped
/-!
# Invocations

What a command line can ask for, once it is understood, and the dump that a dry run prints of it.
-/

namespace AssertionGen

/-- What both commands are given: where the value types are, and which settings to use. -/
structure InputOptions where
  inputs : List String
  settingsFile : Option FilePath
  namePrefix : Option String
  nameSuffix : Option String
  deriving DecidableEq, Repr

/-- The commands. -/
inductive Command where
  /-- Writes the subjects below a source root; a dry run only shows what was understood. -/
  | generate (options : InputOptions) (out : FilePath) (dryRun : Bool)
  /-- Shows how the properties were classified, on the terminal or in a file. -/
  | inspect (options : InputOptions) (out : Option FilePath)
  deriving DecidableEq, Repr

/-- A command line that was understood. -/
structure Invocation where
  verbosity : Nat
  command : Command
  deriving DecidableEq, Repr

/-! ## Dumps -/

/-- A value to be dumped: a word, a list, a name around one value, or a name around fields. -/
inductive Dump where
  | word (text : String)
  | list (items : List Dump)
  | around (name : String) (item : Dump)
  | fields (name : String) (fields : List (String × Dump))

namespace Dump

/-- A new line at some depth. -/
def freshLine (depth : Nat) : String := "\n" ++ String.ofList (List.replicate (4 * depth) ' ')

mutual

/-- The dump, with every item and field on lines of its own. -/
def writeAt (depth : Nat) : Dump → String
  | word t => t
  | list [] => "[]"
  | list items => "[" ++ writeItems (depth + 1) items ++ freshLine depth ++ "]"
  | around name item =>
    name ++ "(" ++ freshLine (depth + 1) ++ writeAt (depth + 1) item ++ "," ++ freshLine depth ++ ")"
  | fields name fs => name ++ " \x7b" ++ writeFields (depth + 1) fs ++ freshLine depth ++ "\x7d"

/-- The items of a list. -/
def writeItems (depth : Nat) : List Dump → String
  | [] => ""
  | d :: ds => freshLine depth ++ writeAt depth d ++ "," ++ writeItems depth ds

/-- The fields of a value. -/
def writeFields (depth : Nat) : List (String × Dump) → String
  | [] => ""
  | (n, d) :: fs => freshLine depth ++ n ++ ": " ++ writeAt depth d ++ "," ++ writeFields depth fs

end

/-- The dump of something that may be missing. -/
def ofOption {α : Type} (dump : α → Dump) : Option α → Dump
  | none => word "None"
  | some a => around "Some" (dump a)

/-- The dump of a text. -/
def ofText (s : String) : Dump := word (Text.quoted s)

/-- The dump of a path. -/
def ofPath (p : FilePath) : Dump := word (Text.quoted p.text)

/-- The dump of a truth value. -/
def ofBool (b : Bool) : Dump := word (if b then "true" else "false")

end Dump

/-- The dump of input options. -/
def InputOptions.dump (o : InputOptions) : Dump :=
  .fields "InputSettings"
    [("input", .list (o.inputs.map .ofText)), ("config", .ofOption .ofPath o.settingsFile),
      ("prefix", .ofOption .ofText o.namePrefix), ("suffix", .ofOption .ofText o.nameSuffix)]

/-- The dump of a command. -/
def Command.dump : Command → Dump
  | generate o out dryRun =>
    .around "Generate"
      (.fields "GenerateOut"
        [("input_settings", o.dump), ("out", .ofPath out), ("no_op", .ofBool dryRun)])
  | inspect o out =>
    .around "Inspect"
      (.fields "InspectOut" [("input_settings", o.dump), ("out", .ofOption .ofPath out)])

/-- The dump of an invocation. -/
def Invocation.dump (i : Invocation) : Dump :=
  .fields "CommandLineInterface"
    [("verbose", .word (toString i.verbosity)), ("cmd", i.command.dump)]

end AssertionGen
