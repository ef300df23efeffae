import AssertionGen.Java.Lines
import AssertionGen.Java.Literal
import AssertionGen.Java.TypeText
import AssertionGen.Settings
/-!
# The compilation unit of a subject

The source of a subject is written in two steps. `unitNames` lists all types to which the unit refers, in the
order in which they claim simple names; the unit's own class comes before all of them. In the scope
that results, every part of the source is a list of pieces: the header of the class, its
constructor, its factory, `assertThat` if the settings ask for it, and one block for each method.
-/

namespace AssertionGen.Java

/-! ## Types that every unit may refer to -/

/-- A class of the assertion framework. -/
def frameworkName (name : String) : TypeName := ⟨frameworkPackage, name⟩

/-- The base class of subjects. -/
def subjectBase : TypeName := frameworkName "Subject"

/-- What subjects pass on when they fail. -/
def failureMetadata : TypeName := frameworkName "FailureMetadata"

/-- A key and a value of a failure message. -/
def factClass : TypeName := frameworkName "Fact"

/-- The entry point of the framework. -/
def truthClass : TypeName := frameworkName "Truth"

/-- The mark of what is never null. -/
def nonnullMark : TypeName := ⟨"javax.annotation", "Nonnull"⟩

/-- The mark of what may be null. -/
def nullableMark : TypeName := ⟨"javax.annotation", "Nullable"⟩

/-- The mark of generated code. -/
def generatedMark : TypeName := ⟨"javax.annotation.processing", "Generated"⟩

/-- The class that makes lists of arrays. -/
def arraysClass : TypeName := ⟨"java.util", "Arrays"⟩

/-! ## Names in the order of their claims -/

/-- The names in a parameter. -/
def parameterNames (p : Parameter) : List TypeName :=
  typeNames p.type ++ (if p.nullable then [nullableMark] else [])

/-- The names in a return type. -/
def returnNames : Returns → List TypeName
  | .nothing => []
  | .handle h => nonnullMark :: handleNames h

/-- The names in a body. -/
def bodyNames : Body → List TypeName
  | .truthy _ _ _ | .constant _ _ => [factClass]
  | .equals _ _ _ => []
  | .delegate _ _ h => if h.factory?.isSome then [handleName h] else []
  | .contains _ _ _ => [arraysClass]

/-- The names in a method. -/
def methodNames (m : Method) : List TypeName :=
  m.parameters.flatMap parameterNames ++ returnNames m.returns ++ bodyNames m.body

/-- The names in the header of a class. -/
def headerNames (settings : Settings) (s : Subject) : List TypeName :=
  typeNames s.valueType.selfType ++ declarationNames s.typeParameters ++
    [subjectBase, failureMetadata, nonnullMark, nullableMark] ++
    (if settings.marked then [generatedMark] else []) ++
    (if settings.assertThat then [truthClass] else [])

/-- All names in a unit. -/
def unitNames (settings : Settings) (s : Subject) : List TypeName :=
  headerNames settings s ++ s.methods.flatMap methodNames

/-- The finished scope of a unit. -/
def unitScope (settings : Settings) (s : Subject) : Scope :=
  ((Scope.empty s.valueType.package).reserve s.name).claimAll (unitNames settings s)

/-! ## Methods -/

/-- A mark in front of a declaration. -/
def mark (scope : Scope) (t : TypeName) : String := "@" ++ scope.text t

/-- A parameter with its mark and its dots. -/
def parameterText (scope : Scope) (p : Parameter) : String :=
  (if p.nullable then mark scope nullableMark ++ " " else "") ++ typeText scope p.type ++
    (if p.varargs then "..." else "") ++ " " ++ p.name

/-- The sentence of a failure that is one. -/
def sentence : FailureText → String
  | .fact f => f
  | _ => ""

/-- When an assertion about a truth value fails. -/
def failureCondition (negated boxed : Bool) : String :=
  match negated, boxed with
  | false, false => "!value"
  | true, false => "value"
  | false, true => "value == null || !value"
  | true, true => "value != null && value"

/-- The verb of the framework for a containment. -/
def containmentVerb : Containment → String
  | .atLeast => "containsAtLeastElementsIn"
  | .noneOf => "containsNoneIn"

/-- Every assertion about a property first asserts that there is a value. -/
def notNull : Piece := .line "isNotNull();"

/-- The beginning of an assertion about a property, under its display name. -/
def checkText (a : Access) : String := "check(" ++ literal a.expression ++ ")"

/-- The pieces of a body; `valueType` is the text of the value type. -/
def bodyPieces (scope : Scope) (valueType : String) (m : Method) : List Piece :=
  match m.body with
  | .truthy a negated boxed =>
    let fact := scope.text factClass
    [notNull,
     .line ("final " ++ (if boxed then "Boolean" else "boolean") ++ " value = actual." ++
       a.expression ++ ";"),
     .opening ("if (" ++ failureCondition negated boxed ++ ")"),
     .line ("failWithoutActual(" ++ fact ++ ".simpleFact(" ++ literal (sentence m.failure) ++ "), " ++
       fact ++ ".fact(\"but was\", value));"),
     .closing]
  | .equals a _ _ =>
    [notNull, .line (checkText a ++ ".that(actual." ++ a.expression ++ ").isEqualTo(expected);")]
  | .delegate a _ h =>
    let about :=
      match h.factory? with
      | some f => ".about(" ++ scope.text (handleName h) ++ "." ++ f ++ "())"
      | none => ""
    [notNull, .line ("return " ++ checkText a ++ about ++ ".that(actual." ++ a.expression ++ ");")]
  | .contains a _ mode =>
    [notNull,
     .line (checkText a ++ ".that(actual." ++ a.expression ++ ")." ++ containmentVerb mode ++ "(" ++
       scope.text arraysClass ++ ".asList(expected));")]
  | .constant c negated =>
    [.opening ("if (actual " ++ (if negated then "==" else "!=") ++ " " ++ valueType ++ "." ++ c ++ ")"),
     .line ("failWithActual(" ++ scope.text factClass ++ ".simpleFact(" ++
       literal (sentence m.failure) ++ "));"),
     .closing]

/-- The mark and the return type of a method. -/
def returnPieces (scope : Scope) : Returns → List Piece × String
  | .nothing => ([], "void")
  | .handle h => ([.line (mark scope nonnullMark)], handleText scope h)

/-- The pieces of a method. -/
def methodPieces (scope : Scope) (valueType : String) (m : Method) : List Piece :=
  let (marks, returns) := returnPieces scope m.returns
  let parameters := ", ".intercalate (m.parameters.map (parameterText scope))
  marks ++
    .opening ("public " ++ returns ++ " " ++ m.name ++ "(" ++ parameters ++ ")") ::
      bodyPieces scope valueType m ++ [.closing]

/-! ## The class -/

/-- The texts on which the header of a class is built. -/
structure HeaderTexts where
  name : String
  valueType : String
  subjectType : String
  declaration : String
  factory : String

/-- The header texts of a subject in a scope. -/
def HeaderTexts.of (scope : Scope) (settings : Settings) (s : Subject) : HeaderTexts :=
  { name := s.name
    valueType := typeText scope s.valueType.selfType
    subjectType := s.name ++ argumentsText s.typeParameters
    declaration := declarationText scope s.typeParameters
    factory := settings.factoryName s.valueType }

/-- Type parameters in front of a static method. -/
def HeaderTexts.statics (h : HeaderTexts) : String :=
  if h.declaration = "" then "" else h.declaration ++ " "

/-- The constructor. -/
def constructorPieces (scope : Scope) (h : HeaderTexts) : List Piece :=
  [.opening ("protected " ++ h.name ++ "(" ++ mark scope nonnullMark ++ " " ++
     scope.text failureMetadata ++ " failureMetadata, " ++ mark scope nullableMark ++ " " ++
     h.valueType ++ " actual)"),
   .line "super(failureMetadata, actual);",
   .line "this.actual = actual;",
   .closing]

/-- The static factory. -/
def factoryPieces (scope : Scope) (h : HeaderTexts) : List Piece :=
  [.line (mark scope nonnullMark),
   .opening ("public static " ++ h.statics ++ scope.text subjectBase ++ ".Factory<" ++
     h.subjectType ++ ", " ++ h.valueType ++ "> " ++ h.factory ++ "()"),
   .line ("return " ++ h.name ++ "::new;"),
   .closing]

/-- The static `assertThat`. -/
def assertThatPieces (scope : Scope) (h : HeaderTexts) (bindings : List Binding) : List Piece :=
  let call :=
    if bindings = [] then h.factory ++ "()"
    else h.name ++ "." ++ argumentsText bindings ++ h.factory ++ "()"
  [.blank,
   .line (mark scope nonnullMark),
   .opening ("public static " ++ h.statics ++ h.subjectType ++ " assertThat(" ++
     mark scope nullableMark ++ " " ++ h.valueType ++ " actual)"),
   .line ("return " ++ scope.text truthClass ++ ".assertAbout(" ++ call ++ ").that(actual);"),
   .closing]

/-- The lines above the class. -/
def markPieces (scope : Scope) (settings : Settings) : List Piece :=
  (if settings.marked then
    [.line (mark scope generatedMark ++ "(" ++ literal settings.generatorName ++ ")")]
  else []) ++ [.line "@SuppressWarnings(\"unchecked\")"]

/-- The pieces of the class. -/
def classPieces (scope : Scope) (settings : Settings) (s : Subject) : List Piece :=
  let h := HeaderTexts.of scope settings s
  markPieces scope settings ++
    [.opening ("public class " ++ h.name ++ h.declaration ++ " extends " ++ scope.text subjectBase),
     .line ("private final " ++ h.valueType ++ " actual;"),
     .blank] ++
    constructorPieces scope h ++ .blank :: factoryPieces scope h ++
    (if settings.assertThat then assertThatPieces scope h s.typeParameters else []) ++
    s.methods.flatMap (fun m => .blank :: methodPieces scope h.valueType m) ++
    [.closing]

/-- The pieces before the class: the package and the imports. -/
def preamblePieces (scope : Scope) : List Piece :=
  (if scope.package = "" then [] else [.line ("package " ++ scope.package ++ ";"), .blank]) ++
    (if scope.statements = [] then [] else scope.statements.map .line ++ [.blank])

/-! ## The unit -/

/-- The source of one generated class. -/
structure SourceUnit where
  package : String
  name : String
  source : String
  deriving DecidableEq, Repr, Inhabited

namespace SourceUnit

/-- The qualified name of the class. -/
def qualifiedName (u : SourceUnit) : String := qualify u.package u.name

/-- The unit of a subject. -/
def ofSubject (settings : Settings) (s : Subject) : SourceUnit :=
  let scope := unitScope settings s
  { package := s.valueType.package
    name := s.name
    source :=
      Piece.writeAll settings.indent (preamblePieces scope) ++
        Piece.writeAll settings.indent (classPieces scope settings s) }

end SourceUnit

end AssertionGen.Java
