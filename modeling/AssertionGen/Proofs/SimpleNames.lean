import AssertionGen.Proofs.Linkage
import AssertionGen.Proofs.UnitTexts
/-!
# What the names in a unit stand for

A simple name that a unit writes should stand for the type that is meant. For the types that are
referred to through the scope it does, with two exceptions (`names_in_unit`). A type in the default
package that comes too late for its simple name is written like the type that came first, for its
qualified name is no longer. And a nested type is written like a type whose package begins with the
name of its outermost type.

Two names of java.lang are written without asking the scope: the mark above the class, and the box
of a truth value. Such a name is lost to the unit's own class if that is named so, and otherwise to
the first type of the name to which the unit refers (`Scope.bound_elsewhere_iff`).
-/

namespace AssertionGen

/-! ## Names for which the scope is not asked -/

/-- The simple names in a body for which the scope is not asked. -/
def Body.bareNames : Body → List String
  | .truthy _ _ true => ["Boolean"]
  | .truthy _ _ false | .equals _ _ _ | .delegate _ _ _ | .contains _ _ _ | .constant _ _ => []

/-- The simple names of java.lang in a unit for which the scope is not asked. -/
def Subject.bareNames (s : Subject) : List String :=
  "SuppressWarnings" :: s.methods.flatMap fun m => m.body.bareNames

theorem Subject.dot_notMem_of_mem_bareNames {s : Subject} {n : String} (hn : n ∈ s.bareNames) :
    '.' ∉ n.toList := by
  rcases List.mem_cons.mp hn with rfl | hn
  · decide
  · obtain ⟨m, -, hm⟩ := List.mem_flatMap.mp hn
    unfold Body.bareNames at hm
    split at hm
    · rw [List.mem_singleton.mp hm]
      decide
    all_goals cases hm

namespace Java

variable {settings : Settings} {s : Subject} {t u : TypeName}

/-- A bare name of java.lang stands for something else in a unit if the unit's class has it, or else
if the first type to claim it is not of java.lang and is imported or in the unit's package. -/
theorem Scope.bound_elsewhere_iff {package name n : String} {ts : List TypeName} (hn : '.' ∉ n.toList) :
    (∃ q, ((opened package name).claimAll ts).binding? n = some q ∧ q ≠ qualify "java.lang" n) ↔
      name = n ∧ package ≠ "java.lang" ∨
        name ≠ n ∧ ∃ t, firstClaim? ts n = some t ∧ t.package ≠ "java.lang" ∧
          (t.package ≠ "" ∨ package = "") := by
  simp only [binding?_opened_eq_some_iff]
  constructor
  · rintro ⟨q, ⟨hname, rfl⟩ | ⟨hname, t, hfirst, rfl, hbound⟩, hq⟩
    · exact Or.inl ⟨hname, fun h => hq (by rw [h])⟩
    · rw [ne_eq, TypeName.qualifiedOuter_eq_qualify_iff (outer_of_firstClaim? hfirst)] at hq
      refine Or.inr ⟨hname, t, hfirst, hq, ?_⟩
      rcases hbound with ⟨hnamed, -⟩ | hown
      · exact Or.inl hnamed
      · rw [hown]
        exact (em (package = "")).symm
  · rintro (⟨hname, hpackage⟩ | ⟨hname, t, hfirst, hlang, hbound⟩)
    · exact ⟨_, Or.inl ⟨hname, rfl⟩, fun h => hpackage ((qualify_inj hn hn).mp h).1⟩
    · refine ⟨_, Or.inr ⟨hname, t, hfirst, rfl, ?_⟩, fun h => hlang
        ((TypeName.qualifiedOuter_eq_qualify_iff (outer_of_firstClaim? hfirst)).mp h)⟩
      by_cases hnamed : t.package = ""
      · exact Or.inr (hnamed.trans (hbound.resolve_left (fun h => h hnamed)).symm)
      · exact Or.inl ⟨hnamed, hlang⟩

/-- Where the bare names stand in the text of a class. -/
theorem bare_lines (scope : Scope) (settings : Settings) (s : Subject) :
    .line "@SuppressWarnings(\"unchecked\")" ∈ classPieces scope settings s ∧
      ∀ m ∈ s.methods, ∀ a negated, m.body = .truthy a negated true →
        .line ("final Boolean value = actual." ++ a.expression ++ ";") ∈
          classPieces scope settings s := by
  constructor
  · simp [classPieces, markPieces]
  · intro m hm a negated hbody
    let valueType := (HeaderTexts.of scope settings s).valueType
    have hline : .line ("final Boolean value = actual." ++ a.expression ++ ";") ∈
        methodPieces scope valueType m := by
      simp [methodPieces, bodyPieces, hbody]
    have hmethods : .line ("final Boolean value = actual." ++ a.expression ++ ";") ∈
        s.methods.flatMap fun m => .blank :: methodPieces scope valueType m :=
      List.mem_flatMap.mpr ⟨m, hm, List.mem_cons_of_mem _ hline⟩
    exact List.mem_append_left _ (List.mem_append_right _ hmethods)

/-! ## The scope of a unit -/

theorem unitScope_eq (settings : Settings) (s : Subject) :
    unitScope settings s =
      (Scope.opened s.valueType.package s.name).claimAll (unitNames settings s) := rfl

/-- A type has its simple name to itself if it is the unit's own class or in the package of the first
type to claim the name. -/
theorem owns_unitScope_iff :
    (unitScope settings s).Owns t ↔
      s.name = t.outer ∧ t.package = s.valueType.package ∨
        s.name ≠ t.outer ∧ ∃ f, Scope.firstClaim? (unitNames settings s) t.outer = some f ∧
          f.package = t.package := by
  rw [Scope.Owns, unitScope_eq, Scope.get?_claimAll, Scope.get?_opened]
  by_cases hname : s.name = t.outer
  · rw [if_pos hname, Option.some_or, Option.some_inj, eq_comm,
      TypeName.qualifiedOuter_eq_qualify_iff hname.symm]
    simp [hname]
  · rw [if_neg hname, Option.none_or, Option.map_eq_some_iff]
    simp only [hname, false_and, ne_eq, not_false_eq_true, true_and, false_or]
    refine exists_congr fun f => and_congr_right fun hfirst => ?_
    rw [TypeName.qualifiedOuter_inj]
    exact and_iff_left (Scope.outer_of_firstClaim? hfirst)

/-! ## Units in which names are lost -/

/-- Types that are written alike are one type. -/
def TextsTellTypes (settings : Settings) (s : Subject) : Prop :=
  ∀ t ∈ unitNames settings s, ∀ u ∈ unitNames settings s,
    (unitScope settings s).text t = (unitScope settings s).text u → t = u

/-- No bare name is bound to another class than the one of java.lang. -/
def BareNamesKept (settings : Settings) (s : Subject) : Prop :=
  ∀ n ∈ s.bareNames, ∀ q, (unitScope settings s).binding? n = some q → q = qualify "java.lang" n

/-- In all units of a batch, names stand for the types that are meant. -/
def NamesKept (settings : Settings) (batch : List ValueType) : Prop :=
  ∀ s ∈ (generateBatch settings batch).subjects, TextsTellTypes settings s ∧ BareNamesKept settings s

end Java

namespace Sample

/-- A property of a type named `Boolean`, and one that is a box of a truth value. -/
def account : ValueType :=
  valueType "Account" [getter "getFlag" (.declared "com.other" "Boolean" [] []),
    getter "getVerified" (.boxed .boolean)]

/-- Properties of two types named `Foo`, the second of which is in the default package, as is the value
type itself. -/
def pair : ValueType :=
  ⟨"Pair", "", [], [getter "getLeft" (.declared "com.other" "Foo" [] []),
    getter "getRight" (.declared "" "Foo" [] [])], [], []⟩

/-- The subject of a value type in a batch of its own. -/
def lone (v : ValueType) : Subject :=
  v.assembled Settings.standard (settledTable Settings.standard [v])

end Sample

namespace Java

/-- `Account` writes a box as if it were `com.other.Boolean`, and `Pair` writes two types as `Foo`. -/
theorem not_namesKept :
    ¬ NamesKept Settings.standard [Sample.account] ∧ ¬ NamesKept Settings.standard [Sample.pair] := by
  constructor
  · intro h
    have hmem : Sample.lone Sample.account ∈
        (generateBatch Settings.standard [Sample.account]).subjects := by decide +kernel
    have hbare : "Boolean" ∈ (Sample.lone Sample.account).bareNames := by decide +kernel
    have hbound : (unitScope Settings.standard (Sample.lone Sample.account)).binding? "Boolean" =
        some "com.other.Boolean" := by decide +kernel
    have hlang := (h _ hmem).2 "Boolean" hbare "com.other.Boolean" hbound
    exact absurd hlang (by decide +kernel)
  · intro h
    have hmem : Sample.lone Sample.pair ∈
        (generateBatch Settings.standard [Sample.pair]).subjects := by decide +kernel
    have halike := (h _ hmem).1 ⟨"com.other", "Foo"⟩ (by decide +kernel) ⟨"", "Foo"⟩
      (by decide +kernel) (by decide +kernel)
    exact absurd halike (by decide)

/-! ## What the names stand for -/

/-- **What the names in a unit stand for.** What the references of a unit give in turn is what they
give in its finished scope, and the class depends on the scope by these texts alone. Two types are
written alike only if they have one qualified name, or if one of them owns its simple name and is
called like the qualified name of the other, which does not. The two names of java.lang that are
written without asking the scope, on the mark above the class and where a box is read, are lost
exactly to the unit's own class, or to the first type of the name to which the unit refers, if that
is not of java.lang and is imported or in the unit's package. -/
theorem names_in_unit (settings : Settings) (s : Subject) :
    (Scope.opened s.valueType.package s.name).referenceAll (unitNames settings s) =
        ((unitNames settings s).map (unitScope settings s).text, unitScope settings s) ∧
      (∀ scope : Scope, scope.AgreeOn (unitScope settings s) (unitNames settings s) →
        classPieces scope settings s = classPieces (unitScope settings s) settings s) ∧
      (∀ t u, (unitScope settings s).text t = (unitScope settings s).text u ↔
        t = u ∨ (unitScope settings s).Passes t u ∨ (unitScope settings s).Passes u t ∨
          ¬ (unitScope settings s).Owns t ∧ ¬ (unitScope settings s).Owns u ∧
            t.qualified = u.qualified) ∧
      (∀ t, (unitScope settings s).Owns t ↔
        s.name = t.outer ∧ t.package = s.valueType.package ∨
          s.name ≠ t.outer ∧ ∃ f, Scope.firstClaim? (unitNames settings s) t.outer = some f ∧
            f.package = t.package) ∧
      .line "@SuppressWarnings(\"unchecked\")" ∈ classPieces (unitScope settings s) settings s ∧
      (∀ m ∈ s.methods, ∀ a negated, m.body = .truthy a negated true →
        .line ("final Boolean value = actual." ++ a.expression ++ ";") ∈
          classPieces (unitScope settings s) settings s) ∧
      ∀ n ∈ s.bareNames,
        ((∃ q, (unitScope settings s).binding? n = some q ∧ q ≠ qualify "java.lang" n) ↔
          s.name = n ∧ s.valueType.package ≠ "java.lang" ∨
            s.name ≠ n ∧ ∃ t, Scope.firstClaim? (unitNames settings s) n = some t ∧
              t.package ≠ "java.lang" ∧ (t.package ≠ "" ∨ s.valueType.package = "")) :=
  ⟨Scope.referenceAll_eq _ _, fun _ => classPieces_congr, fun _ _ => Scope.text_eq_iff,
    fun _ => owns_unitScope_iff, (bare_lines _ settings s).1, (bare_lines _ settings s).2,
    fun _ hn => Scope.bound_elsewhere_iff (Subject.dot_notMem_of_mem_bareNames hn)⟩

end Java

end AssertionGen
