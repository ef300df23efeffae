import AssertionGen.Proofs.Blocks
import AssertionGen.Proofs.Equalities
import AssertionGen.Proofs.Occurrences
/-!
# The groups of a subject, in order

A generated subject has one group for each property, in declaration order, and then one for each
constant. What a property's group lists is said by the relation `NamedProperty.Lists`, one rule for
each form of group: a pair for truth values, an equality for what is compared as a whole, a handle
for what has a shape, and a handle with two containments where the element type is concrete. Only an
object can be linked, so only in front of the equality of an object may a handle stand.

`lists_iff` says that of these forms a property has exactly one, and that it is the group that is
made. `groups_in_order` puts the groups in their places, and the source, block by block, in their
order.
-/

namespace AssertionGen

/-! ## What the category fixes -/

namespace Category

/-- The kind of the handle for a category with a shape of its own. -/
def handleKind? : Category → Option HandleKind
  | primitiveArray k => some (.primitiveArray k)
  | objectArray e => some (.objectArray e)
  | map => some .map
  | iterable _ => some .iterable
  | optional k => some (.optional k)
  | stream k => some (.stream k)
  | container .multiset _ => some .multiset
  | container .multimap _ => some .multimap
  | container .table _ => some .table
  | classRef => some .classRef
  | path => some .path
  | boolean | primitive _ | boxedBoolean | boxed _ | typeVariable _ | object => none

/-- The element type of an iterable or a multiset, if it is known. -/
def contained? : Category → Option JavaType
  | iterable e | container .multiset e => e
  | _ => none

/-- Whether the equality of a property takes null for an argument; for boxes it always does, for
variables and objects if the property may be null. -/
def takesNull (nullable : Bool) : Category → Bool
  | boxed _ => true
  | typeVariable _ | object => nullable
  | _ => false

/-- Every category is a truth value, is compared as a whole, or has a shape with a handle. -/
theorem pair_or_isWhole_or_handleKind? (c : Category) :
    (∃ boxed : Bool, c = if boxed then .boxedBoolean else .boolean) ∨ c.IsWhole ∨
      ∃ kind, c.handleKind? = some kind := by
  cases c with
  | boolean => exact Or.inl ⟨false, rfl⟩
  | boxedBoolean => exact Or.inl ⟨true, rfl⟩
  | primitive k => exact Or.inr (Or.inl (.primitive k))
  | boxed k => exact Or.inr (Or.inl (.boxed k))
  | typeVariable n => exact Or.inr (Or.inl (.typeVariable n))
  | object => exact Or.inr (Or.inl .object)
  | container k e => cases k <;> exact Or.inr (Or.inr ⟨_, rfl⟩)
  | _ => exact Or.inr (Or.inr ⟨_, rfl⟩)

variable {c : Category}

theorem ne_object_of_pair {boxed : Bool} (h : c = if boxed then .boxedBoolean else .boolean) :
    c ≠ .object := by
  rw [h]
  cases boxed <;> simp

theorem ne_object_of_handleKind? {kind : HandleKind} (h : c.handleKind? = some kind) :
    c ≠ .object := by
  rintro rfl
  cases h

/-- A known element type is that of an iterable or a multiset, and these have handles. -/
theorem exists_handleKind?_of_contained? (c : Category) {e : JavaType} (h : c.contained? = some e) :
    ∃ kind, c.handleKind? = some kind := by
  cases c with
  | iterable a => exact ⟨_, rfl⟩
  | container k a => cases k <;> exact ⟨_, rfl⟩
  | _ => cases h

end Category

/-- An element type of which containment can be asserted: it is no wildcard, and no type variable
occurs in it. -/
structure JavaType.Concrete (e : JavaType) : Prop where
  known : ∀ upper, e ≠ .wildcard upper
  closed : ∀ n, ¬ e.Occurs n

namespace NamedProperty

variable {p : NamedProperty} {table : LinkTable}

/-! ## The forms of groups -/

/-- What is listed for a property, in order. -/
inductive Lists (table : LinkTable) (p : NamedProperty) : List Method → Prop where
  /-- A truth value: that it is true, and that it is not. -/
  | pair (boxed : Bool) (h : p.category = if boxed then .boxedBoolean else .boolean) :
      Lists table p [p.truthy false boxed, p.truthy true boxed]
  /-- What is compared as a whole; the link stands in front if the type resolves. -/
  | equality (h : p.category.IsWhole) (link : Option Method)
      (hlink : ∀ m, link = some m ↔ p.category = .object ∧
        ∃ l, table.resolve? p.property.type = some l ∧ m = p.delegate l.handle) :
      Lists table p (link.toList ++ [p.equals (p.category.takesNull p.property.nullable)])
  /-- What has a shape of its own, and no concrete elements. -/
  | handle (kind : HandleKind) (h : p.category.handleKind? = some kind)
      (helement : ∀ e, p.category.contained? = some e → ¬ e.Concrete) :
      Lists table p [p.delegate kind]
  /-- An iterable or a multiset with concrete elements. -/
  | containing (kind : HandleKind) (e : JavaType) (h : p.category.handleKind? = some kind)
      (helement : p.category.contained? = some e) (hconcrete : e.Concrete) :
      Lists table p [p.delegate kind, p.contains kind e .atLeast, p.contains kind e .noneOf]

theorem Lists.ne_nil {ms : List Method} (h : p.Lists table ms) : ms ≠ [] := by
  cases h <;> simp

/-! ## The group that is made -/

theorem mentionsVariable_eq_false (e : JavaType) (h : ∀ n, ¬ e.Occurs n) :
    e.mentionsVariable = false := by
  rw [Bool.eq_false_iff]
  intro hmentions
  obtain ⟨n, hn⟩ := JavaType.mentionsVariable_iff.mp hmentions
  exact h n hn

theorem convenience_of_concrete {kind : HandleKind} {e : JavaType} (h : e.Concrete) :
    p.convenience kind (some e) = [p.contains kind e .atLeast, p.contains kind e .noneOf] := by
  unfold convenience
  split
  · next hnone => cases hnone
  · next upper hwildcard =>
    rw [Option.some.injEq] at hwildcard
    exact absurd hwildcard (h.known upper)
  · next e' _ he =>
    rw [Option.some.injEq] at he
    rw [← he, mentionsVariable_eq_false e h.closed]
    rfl

theorem convenience_of_not_concrete {kind : HandleKind} {element : Option JavaType}
    (h : ∀ e, element = some e → ¬ e.Concrete) : p.convenience kind element = [] := by
  unfold convenience
  split
  · rfl
  · rfl
  · next e hwildcard =>
    split
    · rfl
    · next hmentions =>
      -- no wildcard and without variables, the element would be concrete
      refine absurd ⟨?_, ?_⟩ (h e rfl)
      · intro upper hupper
        exact hwildcard upper (by rw [hupper])
      · intro n hn
        exact hmentions (JavaType.mentionsVariable_iff.mpr ⟨n, hn⟩)

theorem methods_of_pair {boxed : Bool}
    (h : p.category = if boxed then .boxedBoolean else .boolean) :
    p.methods = [p.truthy false boxed, p.truthy true boxed] := by
  unfold methods
  rw [h]
  cases boxed <;> rfl

theorem methods_of_isWhole (h : p.category.IsWhole) :
    p.methods = [p.equals (p.category.takesNull p.property.nullable)] := by
  unfold methods
  generalize p.category = c at h ⊢
  cases h <;> rfl

/-- The handle comes first. Where no element can be known, nothing comes after it. -/
theorem methods_of_handleKind? {kind : HandleKind} (h : p.category.handleKind? = some kind) :
    p.methods = p.delegate kind :: p.convenience kind p.category.contained? := by
  unfold methods
  generalize p.category = c at h ⊢
  cases c with
  | container k e =>
      cases k <;>
        · cases h
          rfl
  | boolean | primitive k | boxedBoolean | boxed k | typeVariable n | object => cases h
  | _ =>
      cases h
      rfl

theorem linkedHandle?_of_ne_object (h : p.category ≠ .object) : p.linkedHandle? table = none :=
  if_neg h

/-- The group of a property is of one of the forms. -/
theorem group_lists (table : LinkTable) (p : NamedProperty) :
    p.Lists table (p.group table).methods := by
  show p.Lists table ((p.linkedHandle? table).toList ++ p.methods)
  rcases p.category.pair_or_isWhole_or_handleKind? with ⟨boxed, hpair⟩ | hwhole | ⟨kind, hkind⟩
  · rw [linkedHandle?_of_ne_object (Category.ne_object_of_pair hpair), methods_of_pair hpair]
    exact .pair boxed hpair
  · rw [methods_of_isWhole hwhole]
    refine .equality hwhole _ ?_
    intro m
    rw [linkedHandle?_eq_some_iff]
    simp only [eq_comm]
  · rw [linkedHandle?_of_ne_object (Category.ne_object_of_handleKind? hkind),
      methods_of_handleKind? hkind]
    show p.Lists table (p.delegate kind :: p.convenience kind p.category.contained?)
    by_cases hconcrete : ∃ e, p.category.contained? = some e ∧ e.Concrete
    · obtain ⟨e, he, hconcrete⟩ := hconcrete
      rw [he, convenience_of_concrete hconcrete]
      exact .containing kind e hkind he hconcrete
    · have hopen : ∀ e, p.category.contained? = some e → ¬ e.Concrete := fun e he hc =>
        hconcrete ⟨e, he, hc⟩
      rw [convenience_of_not_concrete hopen]
      exact .handle kind hkind hopen

/-- Of no other form: a listing is the group itself. -/
theorem Lists.eq_methods {ms : List Method} (h : p.Lists table ms) :
    ms = (p.group table).methods := by
  show ms = (p.linkedHandle? table).toList ++ p.methods
  cases h with
  | pair boxed h =>
      rw [linkedHandle?_of_ne_object (Category.ne_object_of_pair h), methods_of_pair h]
      rfl
  | equality h link hlink =>
      -- a listing allows for one link only, the one that is made
      have hsame : link = p.linkedHandle? table := by
        ext m
        rw [linkedHandle?_eq_some_iff, hlink]
        simp only [eq_comm]
      rw [hsame, methods_of_isWhole h]
  | handle kind h helement =>
      rw [linkedHandle?_of_ne_object (Category.ne_object_of_handleKind? h),
        methods_of_handleKind? h, convenience_of_not_concrete helement]
      rfl
  | containing kind e h helement hconcrete =>
      rw [linkedHandle?_of_ne_object (Category.ne_object_of_handleKind? h),
        methods_of_handleKind? h, helement, convenience_of_concrete hconcrete]
      rfl

theorem lists_iff {ms : List Method} : p.Lists table ms ↔ ms = (p.group table).methods := by
  constructor
  · exact Lists.eq_methods
  · rintro rfl
    exact group_lists table p

end NamedProperty

/-! ## The groups in their places -/

namespace ValueType

variable {settings : Settings} {table : LinkTable} {v : ValueType}

theorem length_groups_assembled :
    (v.assembled settings table).groups.length = v.properties.length + v.enumConstants.length := by
  simp [assembled, Subject.ofProperties]

theorem getElem?_groups_constant {j : Nat} {c : String} (hc : v.enumConstants[j]? = some c) :
    (v.assembled settings table).groups[v.properties.length + j]? = some (constantGroup c) := by
  have hlength : (v.properties.map fun p => p.named.group table).length = v.properties.length :=
    List.length_map _
  rw [groups_assembled, List.getElem?_append_right (by omega), hlength, Nat.add_sub_cancel_left,
    List.getElem?_map, hc]
  rfl

end ValueType

/-- **The groups of a subject and the blocks of its source, in order.** A generated subject has a
group for each property and then one for each constant, in the order of the description and no
others. The group of a property is never empty, and its methods are, in order, those that are listed
for the strict category; the group of a constant has its two assertions. The source is the head of
the class, one block under its own header for each method, in the order of the groups, and the
closing of the class. -/
theorem groups_in_order (settings : Settings) (table : LinkTable) (v : ValueType) {s : Subject}
    (h : generate settings table v = .ok s) :
    s.groups.length = v.properties.length + v.enumConstants.length ∧
    (∀ (i : Nat) (p : Property), v.properties[i]? = some p →
      ∃ c g, classifyStrict p.type = .ok c ∧ s.groups[i]? = some g ∧
        g.origin = .property p.accessor ∧ g.methods ≠ [] ∧
        ∀ ms, (NamedProperty.of p c).Lists table ms ↔ ms = g.methods) ∧
    (∀ (j : Nat) (c : String), v.enumConstants[j]? = some c →
      s.groups[v.properties.length + j]? =
        some ⟨.constant c, [constantMethod c false, constantMethod c true]⟩) ∧
    (Java.SourceUnit.ofSubject settings s).source =
      Java.headText settings s ++
        (String.join ((s.groups.flatMap MethodGroup.methods).map (Java.blockText settings s)) ++
          "\x7d\n") ∧
    (∀ m, Java.Piece.IsBlock (Java.methodHeader (Java.unitScope settings s) m)
      (Java.unitMethodPieces settings s m)) := by
  obtain ⟨htypes, -, -, rfl⟩ := generate_eq_ok_iff.mp h
  refine ⟨ValueType.length_groups_assembled, ?_, ?_, Java.source_eq settings _, ?_⟩
  · intro i p hp
    obtain ⟨c, hc⟩ := htypes p (List.mem_of_getElem? hp)
    have hgroup : (v.assembled settings table).groups[i]? = some (p.named.group table) :=
      groups_assembled_of_property hp
    rw [Property.named_of_classifyStrict hc] at hgroup
    exact ⟨c, _, hc, hgroup, rfl, (NamedProperty.group_lists table _).ne_nil, fun ms =>
      NamedProperty.lists_iff⟩
  · intro j c hc
    exact ValueType.getElem?_groups_constant hc
  · intro m
    exact Java.isBlock_methodPieces _ _ m

/-! ## A subject with every form of group -/

namespace Sample

/-- An order has a truth value, a buyer, lines, and a state of its own. -/
def order : ValueType :=
  { valueType "Order" [getter "isPaid" (.primitive .boolean), getter "getBuyer" (declared "Person"),
      getter "getLines" (.collection .list (some (declared "Line"))), getter "getPlace" .path] with
    enumConstants := ["OPEN"] }

/-- People are linked. -/
def people : LinkTable := [LinkTable.entry Settings.standard person]

theorem generate_order :
    generate Settings.standard people order = .ok (order.assembled Settings.standard people) := by
  decide +kernel

end Sample

/-- Of the five groups of an order, the second one has the link in front of the equality. -/
theorem groups_in_order_order :
    generate Settings.standard Sample.people Sample.order =
        .ok (Sample.order.assembled Settings.standard Sample.people) ∧
      (Sample.order.assembled Settings.standard Sample.people).groups.length = 5 ∧
      ((Sample.order.assembled Settings.standard Sample.people).groups[1]?.map fun g =>
        g.methods.map Method.name) = some ["buyer", "hasBuyer"] := by
  have hgroups := groups_in_order Settings.standard Sample.people Sample.order Sample.generate_order
  exact ⟨Sample.generate_order, hgroups.1, by decide +kernel⟩

end AssertionGen
