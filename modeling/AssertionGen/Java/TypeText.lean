import AssertionGen.Java.Scope
import AssertionGen.Subject.Method
/-!
# Types as Java text

`typeText` writes a type in a scope, and `typeNames` lists the types it refers to, in the order in which
they are written. A map is written with its arguments only if both are known, a container only if it
has as many as its class takes, and a class of unknown target with a wildcard.
-/

namespace AssertionGen.Java

/-! ## The class of a shape -/

/-- The name of a collection interface. -/
def collectionName : CollectionKind → TypeName
  | .iterable => ⟨"java.lang", "Iterable"⟩
  | .collection => ⟨"java.util", "Collection"⟩
  | .list => ⟨"java.util", "List"⟩
  | .set => ⟨"java.util", "Set"⟩
  | .sortedSet => ⟨"java.util", "SortedSet"⟩
  | .queue => ⟨"java.util", "Queue"⟩
  | .deque => ⟨"java.util", "Deque"⟩

/-- The name of a map interface. -/
def mapName : MapKind → TypeName
  | .map => ⟨"java.util", "Map"⟩
  | .sortedMap => ⟨"java.util", "SortedMap"⟩
  | .navigableMap => ⟨"java.util", "NavigableMap"⟩

/-- The name of an optional class. -/
def optionalName : OptionalKind → TypeName
  | .int => ⟨"java.util", "OptionalInt"⟩
  | .long => ⟨"java.util", "OptionalLong"⟩
  | .double => ⟨"java.util", "OptionalDouble"⟩
  | .object => ⟨"java.util", "Optional"⟩
  | .library => ⟨"com.google.common.base", "Optional"⟩

/-- The name of a stream interface. -/
def streamName : StreamKind → TypeName
  | .int => ⟨"java.util.stream", "IntStream"⟩
  | .long => ⟨"java.util.stream", "LongStream"⟩
  | .double => ⟨"java.util.stream", "DoubleStream"⟩
  | .object => ⟨"java.util.stream", "Stream"⟩

/-- The name of a container interface. -/
def containerName (k : ContainerKind) : TypeName := ⟨"com.google.common.collect", k.title⟩

/-- The name of a class in java.lang. -/
def langName (name : String) : TypeName := ⟨"java.lang", name⟩

/-- The name of the path interface. -/
def pathName : TypeName := ⟨"java.nio.file", "Path"⟩

/-- The name of the subject class of a handle. -/
def handleName (h : HandleKind) : TypeName := ⟨h.package, h.simpleName⟩

/-! ## Names that a type refers to -/

mutual

/-- The names in a type, in the order in which they are written. -/
def typeNames : JavaType → List TypeName
  | .primitive _ | .typeVariable _ | .verbatim _ => []
  | .boxed k => [langName k.boxName]
  | .array e => typeNames e
  | .collection k e => collectionName k :: optionNames e
  | .map k (some a) (some b) => mapName k :: (typeNames a ++ typeNames b)
  | .map k _ _ => [mapName k]
  | .optional k e => optionalName k :: optionNames e
  | .stream k e => streamName k :: optionNames e
  | .container k as =>
    containerName k :: (if as.length = k.arity then listNames as else [])
  | .classRef t => langName "Class" :: optionNames t
  | .path => [pathName]
  | .wildcard u => optionNames u
  | .declared p n as _ => ⟨p, n⟩ :: listNames as

/-- The names in what may be missing. -/
def optionNames : Option JavaType → List TypeName
  | none => []
  | some t => typeNames t

/-- The names in a list of types. -/
def listNames : List JavaType → List TypeName
  | [] => []
  | t :: ts => typeNames t ++ listNames ts

end

/-! ## Text -/

/-- A class name with its type arguments, if there are any. -/
def applied (head : String) (arguments : List String) : String :=
  if arguments = [] then head else head ++ "<" ++ ", ".intercalate arguments ++ ">"

mutual

/-- The text of a type in a scope. -/
def typeText (s : Scope) : JavaType → String
  | .primitive k => k.keyword
  | .boxed k => s.text (langName k.boxName)
  | .array e => typeText s e ++ "[]"
  | .collection k e => applied (s.text (collectionName k)) (optionText s e)
  | .map k (some a) (some b) => applied (s.text (mapName k)) [typeText s a, typeText s b]
  | .map k _ _ => s.text (mapName k)
  | .optional k e => applied (s.text (optionalName k)) (optionText s e)
  | .stream k e => applied (s.text (streamName k)) (optionText s e)
  | .container k as =>
    applied (s.text (containerName k)) (if as.length = k.arity then listText s as else [])
  | .classRef none => s.text (langName "Class") ++ "<?>"
  | .classRef (some t) => s.text (langName "Class") ++ "<" ++ typeText s t ++ ">"
  | .path => s.text pathName
  | .typeVariable n => n
  | .wildcard none => "?"
  | .wildcard (some u) => "? extends " ++ typeText s u
  | .declared p n as _ => applied (s.text ⟨p, n⟩) (listText s as)
  | .verbatim n => n

/-- The text of a component, if there is one. -/
def optionText (s : Scope) : Option JavaType → List String
  | none => []
  | some t => [typeText s t]

/-- The texts of types. -/
def listText (s : Scope) : List JavaType → List String
  | [] => []
  | t :: ts => typeText s t :: listText s ts

end

/-! ## Handles and type parameters -/

/-- The names in the return type of a handle. -/
def handleNames (h : HandleKind) : List TypeName :=
  handleName h ::
    match h with
    | .objectArray e => typeNames e
    | _ => []

/-- The return type of a handle; only the one for object arrays takes an argument. -/
def handleText (s : Scope) (h : HandleKind) : String :=
  match h with
  | .objectArray e => s.text (handleName h) ++ "<" ++ typeText s e ++ ">"
  | _ => s.text (handleName h)

/-- The names in the bounds of type parameters. -/
def declarationNames (bs : List Binding) : List TypeName := bs.flatMap fun b => listNames b.bounds

/-- One type parameter with its bounds. -/
def bindingText (s : Scope) (b : Binding) : String :=
  if b.bounds = [] then b.name else b.name ++ " extends " ++ " & ".intercalate (listText s b.bounds)

/-- Type parameters as they are declared; nothing if there are none. -/
def declarationText (s : Scope) (bs : List Binding) : String :=
  if bs = [] then "" else "<" ++ ", ".intercalate (bs.map (bindingText s)) ++ ">"

/-- Type parameters as they are passed on; nothing if there are none. -/
def argumentsText (bs : List Binding) : String :=
  if bs = [] then "" else "<" ++ ", ".intercalate (bs.map Binding.name) ++ ">"

end AssertionGen.Java
