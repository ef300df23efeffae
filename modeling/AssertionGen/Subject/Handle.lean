import AssertionGen.Descriptor.JavaType
/-!
# Handles

A handle is the nested subject that an assertion method hands out for a property: one of the
assertion framework's own subjects, or the generated subject of another value type.
-/

namespace AssertionGen

/-- The package of the assertion framework. -/
def frameworkPackage : String := "com.google.common.truth"

/-- The kind of nested subject. -/
inductive HandleKind where
  | primitiveArray (kind : Primitive)
  | objectArray (element : JavaType)
  | map
  | iterable
  | optional (kind : OptionalKind)
  | stream (kind : StreamKind)
  | multiset
  | multimap
  | table
  | classRef
  | path
  /-- The generated subject of another value type. -/
  | subject (package name factory : String)
  deriving DecidableEq, Repr, Inhabited

namespace HandleKind

/-- The simple name of the subject class. -/
def simpleName : HandleKind → String
  | primitiveArray k => "Primitive" ++ k.title ++ "ArraySubject"
  | objectArray _ => "ObjectArraySubject"
  | map => "MapSubject"
  | iterable => "IterableSubject"
  | optional .int => "OptionalIntSubject"
  | optional .long => "OptionalLongSubject"
  | optional .double => "OptionalDoubleSubject"
  | optional .object => "OptionalSubject"
  | optional .library => "GuavaOptionalSubject"
  | stream .int => "IntStreamSubject"
  | stream .long => "LongStreamSubject"
  | stream .double => "DoubleStreamSubject"
  | stream .object => "StreamSubject"
  | multiset => "MultisetSubject"
  | multimap => "MultimapSubject"
  | table => "TableSubject"
  | classRef => "ClassSubject"
  | path => "PathSubject"
  | subject _ name _ => name

/-- The package of the subject class. -/
def package : HandleKind → String
  | subject p _ _ => p
  | _ => frameworkPackage

/-- The static factory with which the subject is asked for; without one the framework finds the subject by the
type of the value. -/
def factory? : HandleKind → Option String
  | optional .int => some "optionalInts"
  | optional .long => some "optionalLongs"
  | optional .double => some "optionalDoubles"
  | optional .object => some "optionals"
  | stream .int => some "intStreams"
  | stream .long => some "longStreams"
  | stream .double => some "doubleStreams"
  | stream .object => some "streams"
  | path => some "paths"
  | subject _ _ f => some f
  | _ => none

end HandleKind

end AssertionGen
