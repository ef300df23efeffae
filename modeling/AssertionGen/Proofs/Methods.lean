import AssertionGen.Proofs.Names
import AssertionGen.Subject.Assembly
import Mathlib.Data.List.Basic
/-!
# What a property offers

Whatever its category, a property offers methods of four forms only: a pair of truth assertions, an
equality, a handle of the assertion framework, and containments. `NamedProperty.Offers` lists the
forms, and `offers_of_mem` is the case analysis over the categories; what holds of all methods is read
off the forms. Only where it matters which categories have a form, for containments, is there a second
one (`exists_methods_eq_of_contains`).

A handle for another subject is never among them. It comes from the link table alone
(`linkedHandle?_eq_some_iff`), and only to a property whose category is `object`.
-/

namespace AssertionGen

namespace NamedProperty

/-- The forms of the methods that a property's category gives it. -/
inductive Offers (p : NamedProperty) : Method → Prop where
  | truthy (negated boxed : Bool) : Offers p (p.truthy negated boxed)
  | equals (nullSensitive : Bool) : Offers p (p.equals nullSensitive)
  | delegate (handle : HandleKind)
      (hframework : ∀ package name factory, handle ≠ .subject package name factory) :
      Offers p (p.delegate handle)
  | contains (handle : HandleKind) (element : JavaType) (mode : Containment) :
      Offers p (p.contains handle element mode)

/-- The convenience methods are containments for an element type that mentions no type variable. -/
theorem exists_of_mem_convenience {p : NamedProperty} {handle : HandleKind} {e : Option JavaType}
    {m : Method} (h : m ∈ p.convenience handle e) :
    ∃ element mode, e = some element ∧ element.mentionsVariable = false ∧
      m = p.contains handle element mode := by
  unfold convenience at h
  split at h
  · cases h
  · cases h
  · next e _ =>
    split at h
    · cases h
    · next hclosed =>
      rw [Bool.not_eq_true] at hclosed
      rcases List.mem_pair.mp h with rfl | rfl
      · exact ⟨e, .atLeast, rfl, hclosed, rfl⟩
      · exact ⟨e, .noneOf, rfl, hclosed, rfl⟩

theorem offers_of_mem_convenience {p : NamedProperty} {handle : HandleKind} {e : Option JavaType}
    {m : Method} (h : m ∈ p.convenience handle e) : p.Offers m := by
  obtain ⟨element, mode, -, -, rfl⟩ := exists_of_mem_convenience h
  exact .contains handle element mode

theorem offers_of_mem {p : NamedProperty} {m : Method} (h : m ∈ p.methods) : p.Offers m := by
  unfold methods at h
  split at h
  case h_1 | h_2 =>
    rcases List.mem_pair.mp h with rfl | rfl
    all_goals exact .truthy _ _
  case h_3 | h_4 | h_5 | h_6 =>
    rw [List.mem_singleton.mp h]
    exact .equals _
  case h_10 | h_13 =>
    rcases List.mem_cons.mp h with rfl | h
    · exact .delegate _ (by simp)
    · exact offers_of_mem_convenience h
  case h_14 =>
    next k _ _ _ =>
    rw [List.mem_singleton.mp h]
    exact .delegate _ (by cases k <;> simp [containerHandle])
  all_goals
    rw [List.mem_singleton.mp h]
    exact .delegate _ (by simp)

/-- Only iterables and multisets are asked what they contain, and with both the handle comes first. -/
theorem exists_methods_eq_of_contains {p : NamedProperty} {m : Method} {a : Access} {h : HandleKind}
    {mode : Containment} (hm : m ∈ p.methods) (hbody : m.body = .contains a h mode) :
    p.category.isBoolean = false ∧ ∃ handle e, (handle = .iterable ∨ handle = .multiset) ∧
      m ∈ p.convenience handle e ∧ p.methods = p.delegate handle :: p.convenience handle e := by
  have hbehind : ∀ {handle : HandleKind} {e : Option JavaType},
      m ∈ p.delegate handle :: p.convenience handle e → m ∈ p.convenience handle e := by
    intro handle e hmem
    rcases List.mem_cons.mp hmem with rfl | hmem
    · cases hbody
    · exact hmem
  unfold methods at hm ⊢
  generalize p.category = c at hm ⊢
  split at hm
  case h_10 e => exact ⟨rfl, .iterable, e, Or.inl rfl, hbehind hm, rfl⟩
  case h_13 e => exact ⟨rfl, .multiset, e, Or.inr rfl, hbehind hm, rfl⟩
  case h_1 | h_2 => rcases List.mem_pair.mp hm with rfl | rfl <;> cases hbody
  all_goals
    rw [List.mem_singleton.mp hm] at hbody
    cases hbody

/-- No form has a reserved word for a name: an assertion begins with its verb, and a handle is named
by an escaped name. -/
theorem Offers.name_notMem {p : NamedProperty} {m : Method} (h : p.Offers m) :
    m.name ∉ reservedWords := by
  cases h with
  | truthy negated boxed =>
      cases negated
      · exact verb_append_notMem (by decide) p.title
      · exact verb_append_notMem (by decide) p.title
  | equals nullSensitive => exact verb_append_notMem (by decide) p.title
  | delegate handle hframework => exact escapeReserved_notMem p.name.base
  | contains handle element mode =>
      cases mode
      · exact verb_append_notMem (by decide) p.title
      · exact verb_append_notMem (by decide) p.title

/-! ## Links -/

theorem linkedHandle?_eq_some_iff {table : LinkTable} {p : NamedProperty} {m : Method} :
    p.linkedHandle? table = some m ↔
      p.category = .object ∧
        ∃ l, LinkTable.resolve? table p.property.type = some l ∧ p.delegate l.handle = m := by
  rw [linkedHandle?]
  split
  · next h => simp [h]
  · next h => simp [h]

/-- Of a table, a group reads only what the type of an object property resolves to. -/
theorem group_congr {t u : LinkTable} {p : NamedProperty}
    (h : p.category = .object →
      LinkTable.resolve? t p.property.type = LinkTable.resolve? u p.property.type) :
    p.group t = p.group u := by
  have hlink : p.linkedHandle? t = p.linkedHandle? u := by
    unfold linkedHandle?
    split
    · next hobject => rw [h hobject]
    · rfl
  rw [group, hlink]
  rfl

theorem mem_group_methods_iff {table : LinkTable} {p : NamedProperty} {m : Method} :
    m ∈ (p.group table).methods ↔ p.linkedHandle? table = some m ∨ m ∈ p.methods := by
  rw [group, List.mem_append, Option.mem_toList]

end NamedProperty

/-- The qualified name of a declared type without type arguments; other types have none. -/
def JavaType.plainName? : JavaType → Option String
  | .declared package name [] _ => some (qualify package name)
  | _ => none

theorem LinkTable.resolve?_eq_some_iff {table : LinkTable} {t : JavaType} {l : LinkedSubject} :
    resolve? table t = some l ↔
      ∃ name, t.plainName? = some name ∧ Entries.get? table name = some l := by
  unfold resolve? JavaType.plainName?
  split <;> simp

/-! ## Constants -/

theorem constantMethod_name_notMem (constant : String) (negated : Bool) :
    (constantMethod constant negated).name ∉ reservedWords := by
  cases negated
  · exact verb_append_notMem (by decide) _
  · exact verb_append_notMem (by decide) _

theorem mem_constantGroup_methods {constant : String} {m : Method}
    (h : m ∈ (constantGroup constant).methods) : ∃ negated, m = constantMethod constant negated := by
  rcases List.mem_pair.mp h with rfl | rfl
  · exact ⟨false, rfl⟩
  · exact ⟨true, rfl⟩

end AssertionGen
