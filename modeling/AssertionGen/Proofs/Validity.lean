import AssertionGen.Settings
/-!
# Valid settings

Settings are valid if nothing is wrong with them (`validate_eq_ok_iff`). What is wrong otherwise is said
by a relation, in which each fault names all that is in order before it (`FirstFault`), and which is what
the check reports (`validate_eq_error_iff`).
-/

namespace AssertionGen

namespace Settings

/-- All characters may stand inside an identifier. -/
def IsFragment (n : String) : Prop := ∀ c ∈ n.toList, isIdentifierChar c = true

instance {n : String} : Decidable (IsFragment n) :=
  inferInstanceAs (Decidable (∀ c ∈ n.toList, isIdentifierChar c = true))

/-- There is nothing but spaces and tabs. -/
def IsBlank (n : String) : Prop := ∀ c ∈ n.toList, c = ' ' ∨ c = '\t'

instance {n : String} : Decidable (IsBlank n) :=
  inferInstanceAs (Decidable (∀ c ∈ n.toList, c = ' ' ∨ c = '\t'))

/-- The fault that settings are refused for: the prefix is looked at first, then the suffix, then both
together, and the indentation last. -/
inductive FirstFault (s : Settings) : SettingsFault → Prop where
  | inPrefix (here : ¬ IsFragment s.namePrefix) :
      FirstFault s (.notIdentifier "prefix" s.namePrefix)
  | inSuffix (front : IsFragment s.namePrefix) (here : ¬ IsFragment s.nameSuffix) :
      FirstFault s (.notIdentifier "suffix" s.nameSuffix)
  | shadowing (here : s.namePrefix = "" ∧ s.nameSuffix = "") : FirstFault s .shadowing
  | inIndent (front : IsFragment s.namePrefix) (back : IsFragment s.nameSuffix)
      (named : ¬ (s.namePrefix = "" ∧ s.nameSuffix = "")) (here : ¬ IsBlank s.indent) :
      FirstFault s (.notIdentifier "indent" s.indent)

theorem isFragment_empty : IsFragment "" := fun _ hc => absurd hc List.not_mem_nil

theorem all_isIdentifierChar_iff {n : String} :
    (!n.toList.all isIdentifierChar) = true ↔ ¬ IsFragment n := by
  rw [Bool.not_eq_true', ← Bool.not_eq_true, List.all_eq_true]
  rfl

theorem all_blank_iff {n : String} :
    (!n.toList.all fun c => c = ' ' || c = '\t') = true ↔ ¬ IsBlank n := by
  rw [Bool.not_eq_true', ← Bool.not_eq_true, List.all_eq_true, IsBlank]
  simp only [Bool.or_eq_true, decide_eq_true_eq]

theorem fault?_eq_some_iff {s : Settings} {f : SettingsFault} :
    s.fault? = some f ↔ s.FirstFault f := by
  simp only [fault?, all_isIdentifierChar_iff, all_blank_iff, ite_not]
  constructor
  · intro h
    split at h
    · next hfront =>
      split at h
      · next hback =>
        split at h
        · next hnames => cases h; exact .shadowing hnames
        · next hnames =>
          split at h
          · cases h
          · next hindent => cases h; exact .inIndent hfront hback hnames hindent
      · next hback => cases h; exact .inSuffix hfront hback
    · next hfront => cases h; exact .inPrefix hfront
  · intro h
    cases h with
    | inPrefix here => rw [if_neg here]
    | inSuffix front here => rw [if_pos front, if_neg here]
    | shadowing here =>
        rw [if_pos (here.1 ▸ isFragment_empty), if_pos (here.2 ▸ isFragment_empty), if_pos here]
    | inIndent front back named here => rw [if_pos front, if_pos back, if_neg named, if_neg here]

theorem validate_eq_error_iff {s : Settings} {f : SettingsFault} :
    s.validate = .error f ↔ s.FirstFault f := by
  rw [← fault?_eq_some_iff, validate]
  cases s.fault? <;> simp

/-- What is checked of settings, taken together. -/
theorem validate_eq_ok_iff {s : Settings} :
    s.validate = .ok () ↔
      (∀ c ∈ s.namePrefix.toList, isIdentifierChar c = true) ∧
        (∀ c ∈ s.nameSuffix.toList, isIdentifierChar c = true) ∧
        ¬ (s.namePrefix = "" ∧ s.nameSuffix = "") ∧
        ∀ c ∈ s.indent.toList, c = ' ' ∨ c = '\t' := by
  constructor
  · intro h
    have hnone : ∀ f, ¬ s.FirstFault f := by
      intro f hf
      rw [← validate_eq_error_iff, h] at hf
      cases hf
    have hfront : IsFragment s.namePrefix :=
      Decidable.not_not.mp fun here => hnone _ (.inPrefix here)
    have hback : IsFragment s.nameSuffix :=
      Decidable.not_not.mp fun here => hnone _ (.inSuffix hfront here)
    have hnamed : ¬ (s.namePrefix = "" ∧ s.nameSuffix = "") :=
      fun here => hnone _ (.shadowing here)
    have hindent : IsBlank s.indent :=
      Decidable.not_not.mp fun here => hnone _ (.inIndent hfront hback hnamed here)
    exact ⟨hfront, hback, hnamed, hindent⟩
  · rintro ⟨hfront, hback, hnamed, hindent⟩
    cases hcheck : s.validate with
    | ok valid => rfl
    | error f =>
        cases validate_eq_error_iff.mp hcheck with
        | inPrefix here => exact absurd hfront here
        | inSuffix _ here => exact absurd hback here
        | shadowing here => exact absurd here hnamed
        | inIndent _ _ _ here => exact absurd hindent here

end Settings

end AssertionGen
