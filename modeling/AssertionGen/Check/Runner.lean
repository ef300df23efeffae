import AssertionGen.Check.Conformance
import AssertionGen.Check.Handle
import AssertionGen.Subject.Method
/-!
# Running the methods of a subject

A runner is a subject wrapped around one value. Calling a method checks the number of arguments and
then their types, and runs the body: on null every body fails but the ones that compare with a
constant.
-/

namespace AssertionGen

/-- A subject wrapped around a value, with the type arguments of the subject. -/
structure Runner where
  subject : Subject
  actual : Value
  typeArguments : TypeArguments

namespace Runner

/-- Whether the last parameter takes any number of arguments. -/
def isVariadic (ps : List Parameter) : Bool :=
  match ps.getLast? with
  | some p => p.varargs
  | none => false

/-- Checks arguments against parameters in turn; the last parameter stands for all further
arguments. -/
def checkTypes (bind : TypeArguments) (method : String) : List Parameter → List Value →
    Except Misuse Unit
  | _, [] | [], _ => .ok ()
  | p :: ps, v :: vs =>
    match v.conforms? bind p.type with
    | some true => checkTypes bind method (if ps.isEmpty then [p] else ps) vs
    | some false => .error (.argumentType method v)
    | none => .error (.circularTypeArguments method v)

/-- Checks the arguments of a method. -/
def checkArguments (r : Runner) (m : Method) (args : List Value) : Except Misuse Unit :=
  if !isVariadic m.parameters && args.length ≠ m.parameters.length then
    .error (.arity m.name m.parameters.length args.length)
  else checkTypes r.typeArguments m.name m.parameters args

/-- The value of a property. -/
def property (r : Runner) (accessor : String) : Except Misuse Value :=
  match r.actual.field? accessor with
  | some v => .ok v
  | none => .error (.missingProperty accessor)

/-- The failure of a method whose failures are one sentence. -/
def failFact (m : Method) (found : Value) : Outcome :=
  .fail (.fact (match m.failure with | .fact s => s | _ => "") found)

/-- The display name of a method's failures. -/
def displayName (m : Method) (fallback : String) : String :=
  match m.failure with
  | .comparison d | .delegated d => d
  | .fact _ => fallback

/-- The handle on which containment is asserted: a bag stays a bag, everything else is an iterable. -/
def contained : HandleKind → HandleKind
  | .multiset => .multiset
  | _ => .iterable

/-- Whether a value is a constant of this name. -/
def isConstant (v : Value) (constant : String) : Bool :=
  match v with
  | .enum _ c => c = constant
  | _ => false

/-- Whether a value is the truth value true. -/
def isTrue : Value → Bool
  | .bool b => b
  | _ => false

/-- Runs a body on a property's value. -/
def runOn (m : Method) (args : List Value) (v : Value) : Verdict :=
  match m.body with
  | .truthy _ negated _ => .ok (if isTrue v ≠ negated then .pass else failFact m v)
  | .equals a _ _ =>
    match args with
    | [] => .ok .pass
    | expected :: _ =>
      .ok (if v.eqv expected then .pass
        else .fail (.comparison (displayName m a.expression) expected v))
  | .delegate a _ h => .ok (.handle ⟨displayName m a.expression, h, v⟩)
  | .contains a h mode =>
    let handle : Handle := ⟨displayName m a.expression, contained h, v⟩
    match mode with
    | .atLeast => handle.containsAtLeast args
    | .noneOf => handle.containsNoneOf args
  | .constant _ _ => .ok .pass

/-- Runs a method whose arguments are checked. -/
def run (r : Runner) (m : Method) (args : List Value) : Verdict :=
  match m.body with
  | .constant c negated =>
    .ok (if isConstant r.actual c ≠ negated then .pass else failFact m r.actual)
  | .truthy a _ _ | .equals a _ _ | .delegate a _ _ | .contains a _ _ =>
    if r.actual.isNull then .ok (.fail (.fact "expected not to be null" .null))
    else do
      let v ← r.property a.accessor
      runOn m args v

/-- Calls a method. -/
def invoke (r : Runner) (name : String) (args : List Value) : Verdict :=
  match r.subject.method? name with
  | none => .error (.unknownMethod r.subject.name name)
  | some m => do
    r.checkArguments m args
    r.run m args

end Runner

end AssertionGen
