import AssertionGen.Check.Value
import AssertionGen.Subject.Handle
/-!
# Outcomes of assertions

An assertion passes, fails with a record of what was expected and found, or hands out a handle for a
further assertion. Misuse is no outcome: it is a call that would not have compiled.
-/

namespace AssertionGen

/-- The assertions of handles that not every handle has. -/
inductive Operation where
  | containsExactly | containsAtLeast | containsNoneOf | hasCount | hasLength | containsEntry
  | containsKey | isPresent | hasValue | isEmpty | isAssignableTo
  deriving DecidableEq, Repr, Inhabited

/-- The name of the assertion. -/
def Operation.name : Operation → String
  | containsExactly => "containsExactly"
  | containsAtLeast => "containsAtLeast"
  | containsNoneOf => "containsNoneOf"
  | hasCount => "hasCount"
  | hasLength => "hasLength"
  | containsEntry => "containsEntry"
  | containsKey => "containsKey"
  | isPresent => "isPresent"
  | hasValue => "hasValue"
  | isEmpty => "isEmpty"
  | isAssignableTo => "isAssignableTo"

/-- What a failed assertion reports. -/
inductive FailureRecord where
  | comparison (displayName : String) (expected actual : Value)
  | fact (sentence : String) (found : Value)
  | containment (displayName : String) (operation : Operation) (missing unexpected : List Value)

namespace FailureRecord

/-- The display name; a fact has none. -/
def displayName? : FailureRecord → Option String
  | comparison d _ _ | containment d _ _ _ => some d
  | fact _ _ => none

/-- A line that counts and lists values; nothing if there are none. -/
def listing (label : String) (vs : List Value) : String :=
  if vs.isEmpty then ""
  else "\n" ++ label ++ " (" ++ toString vs.length ++ "): " ++ (Value.list vs).text

/-- The lines of a record. -/
def text : FailureRecord → String
  | comparison d expected actual =>
    "value of: " ++ d ++ "\nexpected: " ++ expected.text ++ "\nbut was : " ++ actual.text
  | fact s found => s ++ "\nbut was: " ++ found.text
  | containment d op missing unexpected =>
    "value of: " ++ d ++ "\n" ++ op.name ++ " failed" ++ listing "missing" missing ++
      listing "unexpected" unexpected

end FailureRecord

/-- A nested subject for one value. -/
structure Handle where
  displayName : String
  kind : HandleKind
  actual : Value

/-- The outcome of an assertion. -/
inductive Outcome where
  | pass
  | fail (record : FailureRecord)
  | handle (handle : Handle)

/-- A call that would not have compiled, or whose type arguments have no meaning. -/
inductive Misuse where
  | unknownMethod (subject method : String)
  | arity (method : String) (expected got : Nat)
  | argumentType (method : String) (value : Value)
  | missingProperty (accessor : String)
  | notApplicable (operation : Operation) (handle : String)
  /-- Following the type arguments never ends. -/
  | circularTypeArguments (method : String) (value : Value)

/-- The words for a misuse. -/
def Misuse.message : Misuse → String
  | unknownMethod s m => s ++ " has no method `" ++ m ++ "`"
  | arity m expected got =>
    "`" ++ m ++ "` takes " ++ toString expected ++ " argument(s), got " ++ toString got
  | argumentType m v =>
    "argument " ++ v.text ++ " does not conform to the declared type of `" ++ m ++ "`"
  | missingProperty a => "subject-under-test has no property `" ++ a ++ "`"
  | notApplicable op h => "`" ++ op.name ++ "` is not available on " ++ h
  | circularTypeArguments m v =>
    "the type arguments for argument " ++ v.text ++ " of `" ++ m ++ "` never end"

/-- What a call comes to. -/
abbrev Verdict := Except Misuse Outcome

end AssertionGen
