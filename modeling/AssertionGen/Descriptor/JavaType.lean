import AssertionGen.Descriptor.Kind
import AssertionGen.Ordered.FirstSeen
/-!
# Descriptions of Java types

A `JavaType` says what is known of a type without loading it: a known shape with its components,
or a declared class with its type arguments and its direct supertypes, already substituted for the
place where it is used. Only declared types have supertypes.

`JavaType.same` is structural equality as a test; `same_iff` says that it is equality, which makes
equality of descriptions decidable. `JavaType.variableNames` lists the type variables that occur in
component positions, in first-seen order and without repeats (`mem_variableNames`,
`nodup_variableNames`); supertypes are not components.
-/

namespace AssertionGen

/-- What is known of a Java type. -/
inductive JavaType where
  | primitive (kind : Primitive)
  | boxed (kind : Primitive)
  | array (element : JavaType)
  | collection (kind : CollectionKind) (element : Option JavaType)
  | map (kind : MapKind) (key value : Option JavaType)
  | optional (kind : OptionalKind) (element : Option JavaType)
  | stream (kind : StreamKind) (element : Option JavaType)
  | container (kind : ContainerKind) (arguments : List JavaType)
  | classRef (target : Option JavaType)
  | path
  | typeVariable (name : String)
  | wildcard (upper : Option JavaType)
  /-- A named reference type; `name` is dotted for nested types. -/
  | declared (package name : String) (arguments supertypes : List JavaType)
  /-- A type that could not be described; its text is written as it stands. -/
  | verbatim (name : String)
  deriving Repr, Inhabited

namespace JavaType

/-! ## Structural equality -/

mutual

/-- Structural equality. -/
def same : JavaType → JavaType → Bool
  | primitive k, primitive l => k == l
  | boxed k, boxed l => k == l
  | array e, array f => same e f
  | collection k e, collection l f => k == l && sameOption e f
  | map k a b, map l c d => k == l && sameOption a c && sameOption b d
  | optional k e, optional l f => k == l && sameOption e f
  | stream k e, stream l f => k == l && sameOption e f
  | container k as, container l bs => k == l && sameList as bs
  | classRef e, classRef f => sameOption e f
  | path, path => true
  | typeVariable n, typeVariable m => n == m
  | wildcard e, wildcard f => sameOption e f
  | declared p n as ss, declared q m bs ts => p == q && n == m && sameList as bs && sameList ss ts
  | verbatim n, verbatim m => n == m
  | _, _ => false

/-- Structural equality of what may be missing. -/
def sameOption : Option JavaType → Option JavaType → Bool
  | none, none => true
  | some t, some u => same t u
  | _, _ => false

/-- Structural equality, entry by entry. -/
def sameList : List JavaType → List JavaType → Bool
  | [], [] => true
  | t :: ts, u :: us => same t u && sameList ts us
  | _, _ => false

end

mutual

theorem same_iff : ∀ t u : JavaType, same t u = true ↔ t = u
  | primitive k, u => by cases u <;> simp [same]
  | boxed k, u => by cases u <;> simp [same]
  | array e, u => by cases u <;> simp [same, same_iff e]
  | collection k e, u => by cases u <;> simp [same, sameOption_iff e]
  | map k a b, u => by cases u <;> simp [same, sameOption_iff a, sameOption_iff b, and_assoc]
  | optional k e, u => by cases u <;> simp [same, sameOption_iff e]
  | stream k e, u => by cases u <;> simp [same, sameOption_iff e]
  | container k as, u => by cases u <;> simp [same, sameList_iff as]
  | classRef e, u => by cases u <;> simp [same, sameOption_iff e]
  | path, u => by cases u <;> simp [same]
  | typeVariable n, u => by cases u <;> simp [same]
  | wildcard e, u => by cases u <;> simp [same, sameOption_iff e]
  | declared p n as ss, u => by
    cases u <;> simp [same, sameList_iff as, sameList_iff ss, and_assoc]
  | verbatim n, u => by cases u <;> simp [same]

theorem sameOption_iff : ∀ t u : Option JavaType, sameOption t u = true ↔ t = u
  | none, u => by cases u <;> simp [sameOption]
  | some t, u => by cases u <;> simp [sameOption, same_iff t]

theorem sameList_iff : ∀ ts us : List JavaType, sameList ts us = true ↔ ts = us
  | [], us => by cases us <;> simp [sameList]
  | t :: ts, us => by cases us <;> simp [sameList, same_iff t, sameList_iff ts]

end

instance : DecidableEq JavaType := fun t u =>
  decidable_of_iff (same t u = true) (same_iff t u)

/-! ## Parts -/

/-- The direct supertypes. -/
def supertypes : JavaType → List JavaType
  | declared _ _ _ ss => ss
  | _ => []

/-- The component types and type arguments, from left to right. -/
def components : JavaType → List JavaType
  | array e => [e]
  | collection _ e | optional _ e | stream _ e | classRef e | wildcard e => e.toList
  | map _ k v => k.toList ++ v.toList
  | container _ as | declared _ _ as _ => as
  | primitive _ | boxed _ | path | typeVariable _ | verbatim _ => []

/-! ## Type variables -/

mutual

/-- Every occurrence of a type variable in a component position, from left to right and from the
outside in. -/
def occurrences : JavaType → List String
  | typeVariable n => [n]
  | array e => occurrences e
  | collection _ e | optional _ e | stream _ e | classRef e | wildcard e => occurrencesOption e
  | map _ k v => occurrencesOption k ++ occurrencesOption v
  | container _ as | declared _ _ as _ => occurrencesList as
  | primitive _ | boxed _ | path | verbatim _ => []

/-- The occurrences in what may be missing. -/
def occurrencesOption : Option JavaType → List String
  | none => []
  | some t => occurrences t

/-- The occurrences in a list, in order. -/
def occurrencesList : List JavaType → List String
  | [] => []
  | t :: ts => occurrences t ++ occurrencesList ts

end

/-- The type variables in component positions, in first-seen order. -/
def variableNames (t : JavaType) : List String := firstSeen t.occurrences

/-- Whether any type variable occurs in a component position. -/
def mentionsVariable (t : JavaType) : Bool := !t.variableNames.isEmpty

theorem mem_variableNames {t : JavaType} {n : String} : n ∈ t.variableNames ↔ n ∈ t.occurrences :=
  mem_firstSeen

theorem nodup_variableNames (t : JavaType) : t.variableNames.Nodup := nodup_firstSeen _

end JavaType

end AssertionGen
