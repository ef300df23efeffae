/-!
# Kinds of known shapes

The closed vocabularies from which descriptions of Java types are built: the eight primitives and
the families of collections, maps, optionals, streams and keyed containers. Each kind has one tag,
the word by which a serialized description names it.
-/

namespace AssertionGen

/-! ## Primitives -/

/-- One of the eight primitive types. -/
inductive Primitive where
  | boolean | byte | short | int | long | char | float | double
  deriving DecidableEq, Repr, Inhabited

namespace Primitive

/-- The keyword, which is also the serialized tag. -/
def keyword : Primitive → String
  | boolean => "boolean"
  | byte => "byte"
  | short => "short"
  | int => "int"
  | long => "long"
  | char => "char"
  | float => "float"
  | double => "double"

/-- The simple name of the box class in package java.lang. -/
def boxName : Primitive → String
  | boolean => "Boolean"
  | byte => "Byte"
  | short => "Short"
  | int => "Integer"
  | long => "Long"
  | char => "Character"
  | float => "Float"
  | double => "Double"

/-- The keyword with a capital first letter, as it stands inside class names. -/
def title : Primitive → String
  | boolean => "Boolean"
  | byte => "Byte"
  | short => "Short"
  | int => "Int"
  | long => "Long"
  | char => "Char"
  | float => "Float"
  | double => "Double"

/-- Every primitive, in tag order. -/
def all : List Primitive := [boolean, byte, short, int, long, char, float, double]

end Primitive

/-! ## Families -/

/-- The iterable collection interfaces. -/
inductive CollectionKind where
  | iterable | collection | list | set | sortedSet | queue | deque
  deriving DecidableEq, Repr, Inhabited

/-- The map interfaces. -/
inductive MapKind where
  | map | sortedMap | navigableMap
  deriving DecidableEq, Repr, Inhabited

/-- The optional classes; `library` is the one of the utility library, not of the JDK. -/
inductive OptionalKind where
  | int | long | double | object | library
  deriving DecidableEq, Repr, Inhabited

/-- The stream interfaces. -/
inductive StreamKind where
  | int | long | double | object
  deriving DecidableEq, Repr, Inhabited

/-- Containers that count or index: a bag, a map to many values, a map from two keys. -/
inductive ContainerKind where
  | multiset | multimap | table
  deriving DecidableEq, Repr, Inhabited

namespace CollectionKind

/-- The serialized tag. -/
def tag : CollectionKind → String
  | iterable => "iterable"
  | collection => "collection"
  | list => "list"
  | set => "set"
  | sortedSet => "sorted_set"
  | queue => "queue"
  | deque => "deque"

/-- Every kind, in tag order. -/
def all : List CollectionKind := [iterable, collection, list, set, sortedSet, queue, deque]

end CollectionKind

namespace MapKind

/-- The serialized tag. -/
def tag : MapKind → String
  | map => "map"
  | sortedMap => "sorted_map"
  | navigableMap => "navigable_map"

/-- Every kind, in tag order. -/
def all : List MapKind := [map, sortedMap, navigableMap]

end MapKind

namespace OptionalKind

/-- The serialized tag. -/
def tag : OptionalKind → String
  | int => "int"
  | long => "long"
  | double => "double"
  | object => "object"
  | library => "library"

/-- The kind as messages name it. -/
def title : OptionalKind → String
  | int => "Int"
  | long => "Long"
  | double => "Double"
  | object => "Object"
  | library => "Library"

/-- Every kind, in tag order. -/
def all : List OptionalKind := [int, long, double, object, library]

end OptionalKind

namespace StreamKind

/-- The serialized tag. -/
def tag : StreamKind → String
  | int => "int"
  | long => "long"
  | double => "double"
  | object => "object"

/-- The kind as messages name it. -/
def title : StreamKind → String
  | int => "Int"
  | long => "Long"
  | double => "Double"
  | object => "Object"

/-- Every kind, in tag order. -/
def all : List StreamKind := [int, long, double, object]

end StreamKind

namespace ContainerKind

/-- The serialized tag. -/
def tag : ContainerKind → String
  | multiset => "multiset"
  | multimap => "multimap"
  | table => "table"

/-- The simple class name, also used in messages. -/
def title : ContainerKind → String
  | multiset => "Multiset"
  | multimap => "Multimap"
  | table => "Table"

/-- The number of type arguments of a fully parameterized container. -/
def arity : ContainerKind → Nat
  | multiset => 1
  | multimap => 2
  | table => 3

/-- Every kind, in tag order. -/
def all : List ContainerKind := [multiset, multimap, table]

end ContainerKind

end AssertionGen
