import AssertionGen.Descriptor.JavaType
/-!
# Assignability chains

A value of a type is also a value of all its supertypes. The chain of a type is the type itself and
then its supertypes, depth first in declaration order and without repeats; the walk does not descend
again into a type that it has seen. `lineage` is the same listing with repeats.
-/

namespace AssertionGen.JavaType

mutual

/-- Goes on with the walk that has seen `seen`. -/
def walk (seen : List JavaType) : JavaType → List JavaType
  | declared p n as ss =>
    if declared p n as ss ∈ seen then seen else walkAll (seen ++ [declared p n as ss]) ss
  | t => if t ∈ seen then seen else seen ++ [t]

/-- Goes on with the walk over several types in turn. -/
def walkAll (seen : List JavaType) : List JavaType → List JavaType
  | [] => seen
  | t :: ts => walkAll (walk seen t) ts

end

/-- The type and its supertypes, depth first, without repeats. -/
def chain (t : JavaType) : List JavaType := walk [] t

mutual

/-- The type and all its transitive supertypes, depth first, as often as they are reached. -/
def lineage : JavaType → List JavaType
  | declared p n as ss => declared p n as ss :: lineageAll ss
  | t => [t]

/-- The lineages of several types, one after the other. -/
def lineageAll : List JavaType → List JavaType
  | [] => []
  | t :: ts => lineage t ++ lineageAll ts

end

end AssertionGen.JavaType
