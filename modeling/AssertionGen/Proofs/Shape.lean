import AssertionGen.Proofs.Chains
import AssertionGen.Proofs.Precedence
/-!
# What a type is classified as

A type is an object exactly if neither it nor any of its transitive supertypes is matched by a rule.
Otherwise the winning rule takes the shape of the first type in the lineage that it matches, and for
two rules fills in what this shape may have left open: an iterable has the first known element type of
any collection in the lineage, a container that of any container of its own kind (`classify_shape`).

The classifier merges shapes one by one along the chain. What merging does to an iterable or to a
container is a search for the first known element type (`foldl_refine_iterable`,
`foldl_refine_container`), and a search finds the same in the chain as in the lineage, repeats and
all.
-/

namespace AssertionGen

namespace JavaType

/-- The element type of a collection, if it is known. -/
def collectionElement? : JavaType → Option JavaType
  | collection _ e => e
  | _ => none

/-- The element type of a container of some kind, if it is known; only bags have one. -/
def containerElement? (k : ContainerKind) : JavaType → Option JavaType
  | container .multiset as => if k = .multiset then as.head? else none
  | _ => none

end JavaType

namespace Category

/-- The shape with the element type that is known first among some types. -/
def withElementFrom (types : List JavaType) : Category → Category
  | iterable _ => iterable (types.findSome? JavaType.collectionElement?)
  | container k _ => container k (types.findSome? (JavaType.containerElement? k))
  | c => c

theorem rule_withElementFrom (types : List JavaType) (c : Category) :
    (c.withElementFrom types).rule = c.rule := by
  cases c <;> rfl

/-- The element type of an iterable. -/
def iterableElement? : Category → Option JavaType
  | iterable e => e
  | _ => none

/-- The element type of a container of some kind. -/
def elementIn? (k : ContainerKind) : Category → Option JavaType
  | container l e => if k = l then e else none
  | _ => none

theorem foldl_refine_iterable (a : Option JavaType) (cs : List Category) :
    cs.foldl refine (iterable a) = iterable (a.or (cs.findSome? iterableElement?)) := by
  induction cs generalizing a with
  | nil => rw [List.foldl_nil, List.findSome?_nil, Option.or_none]
  | cons c cs ih =>
      have hstep : (iterable a).refine c = iterable (a.or c.iterableElement?) := by
        cases a with
        | some x => cases c <;> rfl
        | none =>
            cases c with
            | iterable e => cases e <;> rfl
            | _ => rfl
      rw [List.foldl_cons, hstep, ih, Option.or_assoc, List.findSome?_cons]
      cases c.iterableElement? <;> rfl

theorem foldl_refine_container (k : ContainerKind) (a : Option JavaType) (cs : List Category) :
    cs.foldl refine (container k a) = container k (a.or (cs.findSome? (elementIn? k))) := by
  induction cs generalizing a with
  | nil => rw [List.foldl_nil, List.findSome?_nil, Option.or_none]
  | cons c cs ih =>
      have hstep : (container k a).refine c = container k (a.or (c.elementIn? k)) := by
        cases a with
        | some x => cases c <;> rfl
        | none =>
            cases c with
            | container l e => cases e <;> simp [refine, elementIn?]
            | _ => rfl
      rw [List.foldl_cons, hstep, ih, Option.or_assoc, List.findSome?_cons]
      cases c.elementIn? k <;> rfl

/-- Shapes of the other rules are never refined. -/
theorem foldl_refine_of_rule {c : Category} (hiterable : c.rule ≠ .iterable)
    (hcontainer : c.rule ≠ .container) (cs : List Category) : cs.foldl refine c = c := by
  induction cs with
  | nil => rfl
  | cons d cs ih =>
      have hstep : c.refine d = c := by
        cases c with
        | iterable a => exact absurd rfl hiterable
        | container k a => exact absurd rfl hcontainer
        | _ => rfl
      rw [List.foldl_cons, hstep, ih]

theorem bind_iterableElement? (u : JavaType) :
    (ofShape? .iterable u).bind iterableElement? = u.collectionElement? := by
  cases u <;> rfl

theorem bind_elementIn? (k : ContainerKind) (u : JavaType) :
    (ofShape? .container u).bind (elementIn? k) = u.containerElement? k := by
  cases u with
  | container l as => cases l <;> simp [ofShape?, elementIn?, JavaType.containerElement?]
  | _ => rfl

end Category

namespace Rule

variable {r : Rule} {t : JavaType}

/-- A search through the shapes on the chain is one through the types of the lineage. -/
theorem findSome?_matches_chain (r : Rule) (t : JavaType) (f : Category → Option JavaType) :
    (r.matches t.chain).findSome? f =
      t.lineage.findSome? fun u => (Category.ofShape? r u).bind f := by
  rw [← List.head?_filterMap, Rule.matches, List.filterMap_filterMap, List.head?_filterMap,
    JavaType.chain_eq_firstSeen, findSome?_firstSeen]

/-- The first shape on the chain is that of the first type in the lineage that the rule matches. -/
theorem head?_matches_chain (r : Rule) (t : JavaType) :
    (r.matches t.chain).head? = t.lineage.findSome? (Category.ofShape? r) := by
  rw [Rule.matches, List.head?_filterMap, JavaType.chain_eq_firstSeen, findSome?_firstSeen]

theorem Wins.classify_eq_withElementFrom (h : Wins r t.chain) :
    ∃ c, t.lineage.findSome? (Category.ofShape? r) = some c ∧
      classify t = c.withElementFrom t.lineage := by
  obtain ⟨c, cs, hshapes⟩ := h.exists_matches_eq_cons
  have hfirst : t.lineage.findSome? (Category.ofShape? r) = some c := by
    rw [← head?_matches_chain, hshapes, List.head?_cons]
  refine ⟨c, hfirst, ?_⟩
  rw [h.classify_eq hshapes]
  have hrule : c.rule = r := by
    obtain ⟨u, -, hu⟩ := List.exists_of_findSome?_eq_some hfirst
    exact rule_of_ofShape? hu
  cases c with
  | iterable a =>
      have hr : r = .iterable := hrule.symm
      subst hr
      have hsearch := findSome?_matches_chain .iterable t Category.iterableElement?
      simp only [hshapes, Category.bind_iterableElement?, List.findSome?_cons] at hsearch
      rw [Category.foldl_refine_iterable, Category.withElementFrom, ← hsearch]
      cases a <;> rfl
  | container k a =>
      have hr : r = .container := hrule.symm
      subst hr
      have hsearch := findSome?_matches_chain .container t (Category.elementIn? k)
      simp only [hshapes, Category.bind_elementIn?, List.findSome?_cons] at hsearch
      rw [Category.foldl_refine_container, Category.withElementFrom, ← hsearch]
      cases a <;> simp [Category.elementIn?]
  | _ => exact Category.foldl_refine_of_rule (by simp [Category.rule]) (by simp [Category.rule]) cs

end Rule

/-- **What the lenient classifier answers.** It answers object exactly if no rule matches the type or
any of its transitive supertypes. Any other answer is of the highest rule that matches one of them: it
is the shape of the first type in the lineage that this rule matches, and if that is an iterable or a
container, it has the first element type that is known of any collection in the lineage, or of any
container of the same kind. -/
theorem classify_shape (t : JavaType) :
    (classify t = .object ↔ ∀ u, t.Reaches u → ∀ r : Rule, Category.ofShape? r u = none) ∧
      (classify t ≠ .object → ∃ (r : Rule) (before : List JavaType) (u : JavaType)
        (after : List JavaType) (c : Category),
        r.Wins t.lineage ∧ (classify t).rule = r ∧ t.lineage = before ++ u :: after ∧
          (∀ w ∈ before, Category.ofShape? r w = none) ∧ Category.ofShape? r u = some c ∧
          classify t = c.withElementFrom t.lineage) := by
  have hreach : ∀ u, u ∈ t.chain ↔ u ∈ t.lineage := fun u =>
    JavaType.mem_chain_iff.trans JavaType.mem_lineage_iff.symm
  rcases Rule.exists_wins_or t.chain with ⟨r, hr⟩ | hnone
  · obtain ⟨c, hfirst, hanswer⟩ := hr.classify_eq_withElementFrom
    obtain ⟨before, u, after, hlineage, hu, hbefore⟩ := List.findSome?_eq_some_iff.mp hfirst
    have hrule : (classify t).rule = r := by
      rw [hanswer, Category.rule_withElementFrom, Rule.rule_of_ofShape? hu]
    have hobject : classify t ≠ .object := by
      intro h
      rw [h] at hrule
      rw [← hrule, Category.rule, Rule.ofShape?_object] at hu
      cases hu
    refine ⟨iff_of_false hobject fun hnone => ?_, fun _ =>
      ⟨r, before, u, after, c, hr.of_mem_iff hreach, hrule, hlineage, hbefore, hu, hanswer⟩⟩
    have hmem : u ∈ t.lineage := by rw [hlineage]; simp
    rw [hnone u (JavaType.mem_lineage_iff.mp hmem) r] at hu
    cases hu
  · have hobject := (Rule.classify_of_no_matches hnone).1
    exact ⟨iff_of_true hobject fun u hu r => hnone r u (JavaType.mem_chain_iff.mpr hu),
      fun hne => absurd hobject hne⟩

end AssertionGen
