import AssertionGen.Check.Value
import AssertionGen.Descriptor.ValueType
import AssertionGen.Ordered.Entries
/-!
# Values that fit a type

Whether a value may be passed where a type is declared. A type variable is followed to the type it is
bound to, and a wildcard to its upper bound; an unbound variable, a wildcard without a bound and a
type that could not be described accept everything. Null fits every type but a primitive one.
Elements of arrays, collections and streams must fit the element type in turn.

A variable that reaches itself through variables and wildcards alone has no meaning, and `conforms?`
has no answer for it; in all other cases it has one, also when a binding is recursive through an
element type.
-/

namespace AssertionGen

/-- What is bound to type variables. -/
abbrev TypeArguments := Entries String JavaType

/-- What a type asks for once variables and wildcards are followed. -/
inductive Demand where
  | anything
  | shape (type : JavaType)
  deriving Repr

/-- Follows variables and wildcards; `pending` are the bindings not yet used on the way, and `used`
the variables that were. Nothing if a variable comes again. -/
def demand? (pending : TypeArguments) (used : List String) : JavaType → Option Demand
  | .typeVariable n =>
    if n ∈ used then none
    else
      match _h : pending.get? n with
      | none => some .anything
      | some t => demand? (pending.without [n]) (n :: used) t
  | .wildcard none | .verbatim _ => some .anything
  | .wildcard (some u) => demand? pending used u
  | t => some (.shape t)
termination_by t => (pending.length, sizeOf t)
decreasing_by
  · apply Prod.Lex.left
    refine List.length_filter_lt_length_iff_exists.mpr ⟨(n, t), Entries.mem_of_get? _h, by simp⟩
  · apply Prod.Lex.right
    simp only [JavaType.wildcard.sizeOf_spec, Option.some.sizeOf_spec]
    omega

/-- A declared type asks for itself. -/
@[simp] theorem demand?_declared (pending : TypeArguments) (used : List String)
    (package name : String) (arguments supertypes : List JavaType) :
    demand? pending used (.declared package name arguments supertypes) =
      some (.shape (.declared package name arguments supertypes)) := by
  rw [demand?] <;> simp

namespace Value

/-- Whether a value is of a primitive type. -/
def isPrimitive : Value → Primitive → Bool
  | bool _, .boolean => true
  | char _, .char => true
  | float _, .float | float _, .double => true
  | int _, .byte | int _, .short | int _, .int | int _, .long => true
  | _, _ => false

/-- Whether a value is of a declared type. -/
def isInstance (v : Value) (qualified : String) : Bool :=
  if qualified = "java.lang.Object" then true
  else
    match v with
    | str _ => qualified = "java.lang.String" || qualified = "java.lang.CharSequence"
    | object t _ | enum t _ =>
      qualified ≠ "java.lang.String" && qualified ≠ "java.lang.CharSequence" && t = qualified
    | _ => false

/-- Whether a value has a shape, elements aside. -/
def hasShape (v : Value) : JavaType → Bool
  | .primitive k => v.isPrimitive k
  | .boxed k => v.isNull || v.isPrimitive k
  | t =>
    v.isNull ||
      match t, v with
      | .array _, array _ => true
      | .collection _ _, list _ | .stream _ _, list _ => true
      | .map _ _ _, map _ => true
      | .optional _ _, optional _ => true
      | .container _ _, list _ | .container _ _, map _ | .container _ _, object _ _ => true
      | .classRef _, classRef _ _ => true
      | .path, path _ => true
      | .declared p n _ _, v => v.isInstance (qualify p n)
      | _, _ => false

mutual

/-- Whether a value fits a type; nothing if the type has no meaning. -/
def conforms? (bind : TypeArguments) (v : Value) (t : JavaType) : Option Bool :=
  match demand? bind [] t with
  | none => none
  | some .anything => some true
  | some (.shape s) =>
    match v with
    | array vs =>
      match s with
      | .array e => allConform? bind vs e
      | s => some ((array vs).hasShape s)
    | list vs =>
      match s with
      | .collection _ (some e) | .stream _ (some e) => allConform? bind vs e
      | s => some ((list vs).hasShape s)
    | v => some (v.hasShape s)

/-- Whether all values fit a type; the first that does not, or has no answer, decides. -/
def allConform? (bind : TypeArguments) (vs : List Value) (t : JavaType) : Option Bool :=
  match vs with
  | [] => some true
  | v :: vs =>
    match conforms? bind v t with
    | some true => allConform? bind vs t
    | answer => answer

end

end Value

end AssertionGen
