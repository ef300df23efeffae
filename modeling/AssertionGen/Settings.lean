import AssertionGen.Descriptor.ValueType
import AssertionGen.Naming.ReservedWord
import AssertionGen.Text.Casing
import AssertionGen.Text.Letter
/-!
# Generator settings

What the user can choose: how subject classes are named and indented, whether they carry the mark of
generated code and under which name, and whether they get an `assertThat`. Settings are valid if both
name affixes are parts of an identifier, not both empty, and the indentation is blank.
-/

namespace AssertionGen

/-- The choices for one run. -/
structure Settings where
  namePrefix : String
  nameSuffix : String
  indent : String
  /-- Whether classes are marked as generated code. -/
  marked : Bool
  /-- The generator named in that mark. -/
  generatorName : String
  /-- Whether classes get a static `assertThat`. -/
  assertThat : Bool
  deriving DecidableEq, Repr, Inhabited

/-- Why settings are refused. -/
inductive SettingsFault where
  | notIdentifier (field value : String)
  /-- Without prefix and suffix a subject would take the name of its value type. -/
  | shadowing
  deriving DecidableEq, Repr

/-- The words for a fault. -/
def SettingsFault.message : SettingsFault → String
  | notIdentifier field value =>
    "`" ++ field ++ "` must be empty or a Java identifier fragment, got `" ++ value ++ "`"
  | shadowing =>
    "`prefix` and `suffix` are both empty; subjects would take their value type's name"

namespace Settings

/-- The settings of a run that chooses nothing. -/
def standard : Settings :=
  { namePrefix := "Auto"
    nameSuffix := ""
    indent := "    "
    marked := true
    generatorName := "auto-subject"
    assertThat := true }

/-- Settings with another prefix, if one is given. -/
def withPrefix (s : Settings) (given : Option String) : Settings :=
  { s with namePrefix := given.getD s.namePrefix }

/-- Settings with another suffix, if one is given. -/
def withSuffix (s : Settings) (given : Option String) : Settings :=
  { s with nameSuffix := given.getD s.nameSuffix }

/-- Characters that may stand inside an identifier. -/
def isIdentifierChar (c : Char) : Bool := Text.isAlphanumeric c || c = '_' || c = '$'

/-- The first fault, if there is one: the prefix is checked before the suffix, then both together,
then the indentation. -/
def fault? (s : Settings) : Option SettingsFault :=
  if !s.namePrefix.toList.all isIdentifierChar then some (.notIdentifier "prefix" s.namePrefix)
  else if !s.nameSuffix.toList.all isIdentifierChar then some (.notIdentifier "suffix" s.nameSuffix)
  else if s.namePrefix = "" ∧ s.nameSuffix = "" then some .shadowing
  else if !s.indent.toList.all (fun c => c = ' ' || c = '\t') then
    some (.notIdentifier "indent" s.indent)
  else none

/-- The settings, if they are valid. -/
def validate (s : Settings) : Except SettingsFault Unit :=
  match s.fault? with
  | some f => .error f
  | none => .ok ()

/-! ## Names that depend on the settings -/

/-- The name of the subject class of a value type. -/
def subjectName (s : Settings) (v : ValueType) : String :=
  s.namePrefix ++ v.flatName ++ s.nameSuffix

/-- The name of the static factory method of a value type's subject; no setting changes it. -/
def factoryName (_ : Settings) (v : ValueType) : String :=
  escapeReserved (Text.decapitalize v.flatName)

end Settings

end AssertionGen
