import AssertionGen.CommandLine.Invocation
import AssertionGen.Text.Pieces
/-!
# Reading a command line

A command line names a command and gives it options. An option has a long name, after two hyphens, and
may have a short one, after one hyphen; short options can be put together. A value follows its option
or is joined to it, a long one by an equals sign. An option that takes several values takes all that
follow up to the next option. Two hyphens alone end the options.

A value that was read is put into the record of options only when the next option comes or the line
ends. So a line is refused for an argument that does not belong there before the last value is looked
at.
-/

namespace AssertionGen

/-- Why a command line is not carried out. Asking for help or for the version counts as one. -/
inductive UsageFault where
  | help
  | version
  | helpForNothing
  | missingCommand
  | unknownCommand
  | unknownArgument
  | missingArgument
  | invalidValue
  | tooManyValues
  | repeated
  deriving DecidableEq, Repr

namespace UsageFault

/-- The exit code: asking is no failure. -/
def exitCode : UsageFault → Nat
  | help | version => 0
  | _ => 2

/-- The lines that explain the command line. -/
def usage : String :=
  "Usage: auto-subject [-v]... generate -i <INPUT>... -o <OUT> [--no-op] [settings]\n" ++
    "       auto-subject [-v]... inspect -i <INPUT>... [-o <OUT>] [settings]\n" ++
    "Settings: --config <CONFIG>, --prefix <PREFIX>, --suffix <SUFFIX>"

/-- The words for a fault. -/
def message : UsageFault → String
  | help | helpForNothing => usage
  | version => "auto-subject 0.1.0"
  | missingCommand => "error: a command is required\n" ++ usage
  | unknownCommand => "error: unrecognized command\n" ++ usage
  | unknownArgument => "error: unexpected argument\n" ++ usage
  | missingArgument => "error: a required argument is missing\n" ++ usage
  | invalidValue => "error: an option has no value\n" ++ usage
  | tooManyValues => "error: an option takes no such value\n" ++ usage
  | repeated => "error: an option is given more than once\n" ++ usage

end UsageFault

namespace CommandLine

/-- The options. -/
inductive Flag where
  | input | settingsFile | namePrefix | nameSuffix | out | dryRun | verbose | help | version
  deriving DecidableEq, Repr

/-- Where an option stands: before the command, or after which one. -/
inductive Level where
  | top | generate | inspect
  deriving DecidableEq, Repr

/-- How many values an option takes. -/
inductive Arity where
  | none | one | many
  deriving DecidableEq, Repr

/-- The arity of an option. -/
def Flag.arity : Flag → Arity
  | input => .many
  | settingsFile | namePrefix | nameSuffix | out => .one
  | dryRun | verbose | help | version => .none

/-- Whether an option may stand at a level. -/
def Flag.allowedAt : Flag → Level → Bool
  | verbose, _ | help, _ => true
  | version, l => l = .top
  | dryRun, l => l = .generate
  | input, l | settingsFile, l | namePrefix, l | nameSuffix, l | out, l => l ≠ .top

/-- The options with their names. -/
def names : List (String × Option Char × Flag) :=
  [("input", some 'i', .input), ("config", none, .settingsFile), ("prefix", none, .namePrefix),
    ("suffix", none, .nameSuffix), ("out", some 'o', .out), ("no-op", none, .dryRun),
    ("verbose", some 'v', .verbose), ("help", some 'h', .help), ("version", some 'V', .version)]

/-- The option with a long name. -/
def longFlag? (level : Level) (name : String) : Option Flag :=
  (names.find? fun n => n.1 = name && n.2.2.allowedAt level).map fun n => n.2.2

/-- The option with a short name. -/
def shortFlag? (level : Level) (name : Char) : Option Flag :=
  (names.find? fun n => n.2.1 = some name && n.2.2.allowedAt level).map fun n => n.2.2

/-! ## The record of options -/

/-- The options given so far. -/
structure Given where
  inputs : List String
  settingsFile : Option FilePath
  namePrefix : Option String
  nameSuffix : Option String
  out : Option FilePath
  dryRun : Bool
  verbosity : Nat
  deriving DecidableEq, Repr

/-- Nothing given yet. -/
def Given.nothing : Given := ⟨[], none, none, none, none, false, 0⟩

/-- Verbosity does not grow beyond this. -/
def verbosityLimit : Nat := 255

/-- The only value of an option that has not been given before. -/
def onlyValue {α : Type} (before : Option α) : List String → Except UsageFault String
  | [] => .error .invalidValue
  | v :: vs =>
    if !vs.isEmpty then .error .tooManyValues
    else if before.isSome then .error .repeated
    else .ok v

/-- The only value of an option that takes a path, which is not empty. -/
def onlyPath (before : Option FilePath) (vs : List String) : Except UsageFault FilePath := do
  let v ← onlyValue before vs
  if v = "" then throw .invalidValue
  return ⟨v⟩

/-- Puts an option with its values into the record. -/
def Given.put (g : Given) (f : Flag) (vs : List String) : Except UsageFault Given :=
  match f with
  | .input => if vs.isEmpty then .error .invalidValue else .ok { g with inputs := g.inputs ++ vs }
  | .settingsFile => (onlyPath g.settingsFile vs).map fun p => { g with settingsFile := some p }
  | .namePrefix => (onlyValue g.namePrefix vs).map fun v => { g with namePrefix := some v }
  | .nameSuffix => (onlyValue g.nameSuffix vs).map fun v => { g with nameSuffix := some v }
  | .out => (onlyPath g.out vs).map fun p => { g with out := some p }
  | .dryRun => if g.dryRun then .error .repeated else .ok { g with dryRun := true }
  | .verbose => .ok { g with verbosity := min (g.verbosity + 1) verbosityLimit }
  | .help => .error .help
  | .version => .error .version

/-! ## Arguments one by one -/

/-- An option whose values are being read. -/
structure Pending where
  flag : Flag
  values : List String
  deriving DecidableEq, Repr

/-- Whether the option takes one more value. -/
def Pending.isOpen (p : Pending) : Bool :=
  match p.flag.arity with
  | .none => false
  | .one => p.values.isEmpty
  | .many => true

/-- The record, and the option that is not in it yet. -/
structure State where
  given : Given
  pending : Option Pending
  deriving DecidableEq, Repr

namespace State

/-- The record with the option that was being read. -/
def settled (s : State) : Except UsageFault Given :=
  match s.pending with
  | none => .ok s.given
  | some p => s.given.put p.flag p.values

/-- Takes an option with its values all at once. -/
def take (s : State) (f : Flag) (vs : List String) : Except UsageFault State := do
  let g ← s.settled
  return ⟨← g.put f vs, none⟩

/-- Begins to read the values of an option. -/
def begin (s : State) (f : Flag) : Except UsageFault State := do
  return ⟨← s.settled, some ⟨f, []⟩⟩

/-- Reads a long option, from behind its hyphens. -/
def readLong (s : State) (level : Level) (body : List Char) : Except UsageFault State :=
  let name := String.ofList (body.takeWhile (· ≠ '='))
  match longFlag? level name with
  | none => .error .unknownArgument
  | some f =>
    match f.arity, body.dropWhile (· ≠ '=') with
    | .none, [] => s.take f []
    | .none, _ :: _ => .error .tooManyValues
    | _, [] => s.begin f
    | _, _ :: value => s.take f [String.ofList value]

/-- Reads short options that are put together, from behind the hyphen. -/
def readShort (s : State) (level : Level) : List Char → Except UsageFault State
  | [] => .ok s
  | c :: cs =>
    match shortFlag? level c with
    | none => .error .unknownArgument
    | some f =>
      match f.arity, cs with
      | .none, _ => do readShort (← s.take f []) level cs
      | _, [] => s.begin f
      | _, '=' :: value => s.take f [String.ofList value]
      | _, value => s.take f [String.ofList value]

/-- Whether a value is expected. -/
def isOpen (s : State) : Bool :=
  match s.pending with
  | none => false
  | some p => p.isOpen

/-- Reads a value. -/
def readValue (s : State) (value : String) : State :=
  { s with pending := s.pending.map fun p => { p with values := p.values ++ [value] } }

end State

/-- What an argument is by its look. -/
inductive Look where
  | endOfOptions
  | long (body : List Char)
  | short (body : List Char)
  | plain
  deriving DecidableEq, Repr

/-- The look of an argument; a hyphen alone is plain. -/
def Look.of (arg : String) : Look :=
  match arg.toList with
  | ['-', '-'] => endOfOptions
  | '-' :: '-' :: body => long body
  | ['-'] => plain
  | '-' :: body => short body
  | _ => plain

/-- Reads the options of a command. -/
def readOptions (level : Level) (s : State) : List String → Except UsageFault Given
  | [] => s.settled
  | arg :: args =>
    match Look.of arg with
    | .endOfOptions => if args.isEmpty then s.settled else .error .unknownArgument
    | .long body => do readOptions level (← s.readLong level body) args
    | .short body => do readOptions level (← s.readShort level body) args
    | .plain =>
      if s.isOpen then readOptions level (s.readValue arg) args else .error .unknownArgument

/-! ## Whole command lines -/

/-- The options that both commands have. -/
def Given.options (g : Given) : InputOptions :=
  ⟨g.inputs, g.settingsFile, g.namePrefix, g.nameSuffix⟩

/-- The invocation of `generate`; inputs and a place for the output are required. -/
def Given.generate (g : Given) (verbosity : Nat) : Except UsageFault Invocation :=
  match g.inputs, g.out with
  | _ :: _, some out => .ok ⟨verbosity, .generate g.options out g.dryRun⟩
  | _, _ => .error .missingArgument

/-- The invocation of `inspect`; inputs are required. -/
def Given.inspect (g : Given) (verbosity : Nat) : Except UsageFault Invocation :=
  if g.inputs.isEmpty then .error .missingArgument else .ok ⟨verbosity, .inspect g.options g.out⟩

/-- The verbosity after a command counts if it is given there, and otherwise the one before it. -/
def verbosityOf (before after : Given) : Nat :=
  if after.verbosity = 0 then before.verbosity else after.verbosity

/-- The names of commands. -/
def commandNames : List String := ["generate", "inspect", "help"]

/-- Help about one command, or all. -/
def readHelp : List String → UsageFault
  | [] => .help
  | [topic] => if topic ∈ commandNames then .help else .unknownCommand
  | _ => .unknownCommand

/-- Behind the end of options nothing may follow: what does is refused, a command's name as an argument
that stands in the wrong place. -/
def readBehindEnd (before : Given) : List String → UsageFault
  | [] => if before = .nothing then .helpForNothing else .missingCommand
  | arg :: _ => if arg ∈ commandNames then .unknownArgument else .unknownCommand

/-- Reads a command line from where no command has been named yet. -/
def readCommand (before : Given) : List String → Except UsageFault Invocation
  | [] => .error (readBehindEnd before [])
  | arg :: args =>
    if arg = "generate" then do
      let after ← readOptions .generate ⟨.nothing, none⟩ args
      after.generate (verbosityOf before after)
    else if arg = "inspect" then do
      let after ← readOptions .inspect ⟨.nothing, none⟩ args
      after.inspect (verbosityOf before after)
    else if arg = "help" then .error (readHelp args)
    else
      match Look.of arg with
      | .endOfOptions => .error (readBehindEnd before args)
      | .long body => do readCommand (← State.readLong ⟨before, none⟩ .top body).given args
      | .short body => do readCommand (← State.readShort ⟨before, none⟩ .top body).given args
      | .plain => .error .unknownCommand

/-- Reads a command line. -/
def read (args : List String) : Except UsageFault Invocation := readCommand .nothing args

end CommandLine

end AssertionGen
