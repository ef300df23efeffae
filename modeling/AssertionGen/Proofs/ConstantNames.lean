import AssertionGen.Subject.Synthesis
import Mathlib.Data.List.Basic
/-!
# Names of constants

The base name of a constant erases the underscores between its words; only capitals are left to mark
where a word begins. Where every word is a capital with capitals and digits behind it, this is enough.
In the title of the constant, its capitalized base name, a character is a capital exactly if a word
begins there, so a title is undone by an underscore before every capital and capitals everywhere
(`constantOfTitle`). A constant has one title word by word (`capitalizeChars_joinWords`), and each
word is found again in its own (`flatMap_spelledOut_title`), so the constant is found again in its
base name (`constantOfBase_constantBaseName`).

Digits have no case: of two words `A` and `1`, the second would leave no mark. This is why a word
begins with a capital.
-/

namespace AssertionGen

open Text

/-- A word of a constant: capitals and digits of ASCII, the first of them a capital. -/
def IsConstantWord (w : List Char) : Prop :=
  w.head?.any Char.isUpper = true ∧ (w.all fun c => c.isUpper || c.isDigit) = true

instance {w : List Char} : Decidable (IsConstantWord w) :=
  inferInstanceAs (Decidable
    (w.head?.any Char.isUpper = true ∧ (w.all fun c => c.isUpper || c.isDigit) = true))

/-- A constant of such words, one or more, joined by single underscores. -/
def IsConstantName (constant : String) : Prop :=
  ∃ ws : List (List Char), ws ≠ [] ∧ (∀ w ∈ ws, IsConstantWord w) ∧
    constant.toList = ['_'].intercalate ws

/-- What a character of a title stands for in the constant: a capital begins a word. -/
def spelledOut (c : Char) : List Char := if c.isUpper then ['_', c] else [c.toUpper]

/-- The constant to which a title belongs; no underscore stands before the first word. -/
def constantOfTitle (title : List Char) : List Char := (title.flatMap spelledOut).drop 1

/-- The constant to which a base name belongs. -/
def constantOfBase (base : String) : String :=
  String.ofList (constantOfTitle (capitalizeChars base.toList))

/-! ## Characters of a word -/

variable {c : Char} {w : List Char} {ws : List (List Char)}

theorem isUpper_iff : c.isUpper = true ↔ 65 ≤ c.toNat ∧ c.toNat ≤ 90 := by
  change decide ('A'.val ≤ c.val ∧ c.val ≤ 'Z'.val) = true ↔ _
  simp [UInt32.le_iff_toNat_le, ← Char.toNat_val]

theorem isDigit_iff : c.isDigit = true ↔ 48 ≤ c.toNat ∧ c.toNat ≤ 57 := by
  simp [Char.isDigit, UInt32.le_iff_toNat_le, ← Char.toNat_val]

/-- In ASCII, what lower case makes of a capital or a digit is no capital, and upper case undoes it. -/
theorem casing_of_lt : ∀ n < 0x80, (Char.ofNat n).isUpper = true ∨ (Char.ofNat n).isDigit = true →
    (Char.ofNat n).toLower.toNat < 0x80 ∧ (Char.ofNat n).toLower.isUpper = false ∧
      (Char.ofNat n).toLower.toUpper = Char.ofNat n := by
  decide

namespace IsConstantWord

theorem ne_nil (h : IsConstantWord w) : w ≠ [] := by
  rintro rfl
  exact absurd h.1 (by decide)

theorem isUpper_or_isDigit (h : IsConstantWord w) (hc : c ∈ w) :
    c.isUpper = true ∨ c.isDigit = true := by
  simpa using List.all_eq_true.mp h.2 c hc

theorem toNat_lt (h : IsConstantWord w) (hc : c ∈ w) : c.toNat < 0x80 := by
  rcases h.isUpper_or_isDigit hc with hupper | hdigit
  · rw [isUpper_iff] at hupper
    omega
  · rw [isDigit_iff] at hdigit
    omega

theorem underscore_notMem (h : IsConstantWord w) : '_' ∉ w := by
  intro hmem
  have hcase := h.isUpper_or_isDigit hmem
  revert hcase
  decide

theorem casing (h : IsConstantWord w) (hc : c ∈ w) :
    c.toLower.toNat < 0x80 ∧ c.toLower.isUpper = false ∧ c.toLower.toUpper = c := by
  have hcasing := casing_of_lt c.toNat (h.toNat_lt hc)
  rw [Char.ofNat_toNat] at hcasing
  exact hcasing (h.isUpper_or_isDigit hc)

end IsConstantWord

/-! ## The title of a word -/

/-- In ASCII the case of a character does not depend on its neighbours. -/
theorem lowercaseAfter_eq_map (h : ∀ c ∈ w, c.toNat < 0x80) (before : List Char) :
    lowercaseAfter before w = w.map Char.toLower := by
  induction w generalizing before with
  | nil => rfl
  | cons c w ih =>
      have hc : c.toNat < 0x80 := h c List.mem_cons_self
      have hsigma : c ≠ 'Σ' := by
        rintro rfl
        exact absurd hc (by decide)
      rw [lowercaseAfter, if_neg hsigma, lowerChar, if_pos hc,
        ih fun d hd => h d (List.mem_cons_of_mem _ hd)]
      rfl

/-- The title of a word keeps its capital, and puts the rest into lower case. -/
theorem title_eq {rest : List Char} (h : IsConstantWord (c :: rest)) :
    capitalizeChars (lowercase (c :: rest)) = c :: rest.map Char.toLower := by
  obtain ⟨hascii, -, hback⟩ := h.casing List.mem_cons_self
  rw [lowercase, lowercaseAfter_eq_map fun d hd => h.toNat_lt hd, List.map_cons, capitalizeChars,
    upperChar, if_pos hascii, hback, List.singleton_append]

/-- A word is found again in its title, behind an underscore. -/
theorem flatMap_spelledOut_title (h : IsConstantWord w) :
    (capitalizeChars (lowercase w)).flatMap spelledOut = '_' :: w := by
  cases w with
  | nil => exact absurd rfl h.ne_nil
  | cons c rest =>
      have hrest : ∀ d ∈ rest, spelledOut d.toLower = [d] := by
        intro d hd
        obtain ⟨-, hsmall, hback⟩ := h.casing (List.mem_cons_of_mem _ hd)
        rw [spelledOut, hsmall, if_neg Bool.false_ne_true, hback]
      have hcapital : spelledOut c = ['_', c] := if_pos h.1
      rw [title_eq h, List.flatMap_cons, hcapital, List.flatMap_map, List.flatMap_congr hrest]
      simp

/-! ## The title of a constant -/

theorem constantWords_intercalate (hne : ws ≠ []) (h : ∀ w ∈ ws, IsConstantWord w) :
    constantWords (['_'].intercalate ws) = ws := by
  rw [constantWords, pieces_intercalate hne fun w hw => (h w hw).underscore_notMem]
  exact List.filter_eq_self.mpr fun w hw => by simpa using (h w hw).ne_nil

theorem capitalizeChars_append (h : w ≠ []) (rest : List Char) :
    capitalizeChars (w ++ rest) = capitalizeChars w ++ rest := by
  cases w with
  | nil => exact absurd rfl h
  | cons c w => simp [capitalizeChars]

/-- The first word is capitalized with the base name, the others are in it. -/
theorem capitalizeChars_joinWords (hne : ws ≠ []) (h : ∀ w ∈ ws, IsConstantWord w) :
    capitalizeChars (joinWords ws) = ws.flatMap fun w => capitalizeChars (lowercase w) := by
  cases ws with
  | nil => exact absurd rfl hne
  | cons w ws =>
      have hw : IsConstantWord w := h w List.mem_cons_self
      have hlower : lowercase w ≠ [] := by
        rw [lowercase, lowercaseAfter_eq_map fun c hc => hw.toNat_lt hc]
        simpa using hw.ne_nil
      rw [joinWords, capitalizeChars_append hlower, List.flatMap_cons]

theorem flatMap_cons_eq_intercalate {α : Type} (sep : α) {xs : List (List α)} (hne : xs ≠ []) :
    xs.flatMap (sep :: ·) = sep :: [sep].intercalate xs := by
  induction xs with
  | nil => exact absurd rfl hne
  | cons x xs ih =>
      cases xs with
      | nil => simp
      | cons y ys => rw [List.flatMap_cons, ih (by simp), List.intercalate_cons_cons]; simp

/-- A constant is found again in its base name. -/
theorem constantOfBase_constantBaseName {constant : String} (h : IsConstantName constant) :
    constantOfBase (constantBaseName constant) = constant := by
  obtain ⟨ws, hne, hwords, hconstant⟩ := h
  have htitle : (capitalizeChars (joinWords ws)).flatMap spelledOut = '_' :: constant.toList := by
    rw [capitalizeChars_joinWords hne hwords, List.flatMap_assoc,
      List.flatMap_congr fun w hw => flatMap_spelledOut_title (hwords w hw),
      flatMap_cons_eq_intercalate '_' hne, hconstant]
  rw [constantOfBase, constantBaseName, String.toList_ofList, hconstant,
    constantWords_intercalate hne hwords, constantOfTitle, htitle]
  exact String.ofList_toList

/-- **Constants keep apart.** A constant of plain words is found again in its base name. So two such
constants have one base name only if they are the same, and so it is with the names of the methods that
assert them, and with those of the methods that deny them. -/
theorem constant_names_inj {c d : String} (hc : IsConstantName c) (hd : IsConstantName d) :
    constantOfBase (constantBaseName c) = c ∧
      (constantBaseName c = constantBaseName d ↔ c = d) ∧
      ∀ negated, (constantMethod c negated).name = (constantMethod d negated).name ↔ c = d := by
  have htitle : capitalize (constantBaseName c) = capitalize (constantBaseName d) → c = d := by
    intro h
    have hlist := congrArg String.toList h
    rw [capitalize, capitalize, String.toList_ofList, String.toList_ofList] at hlist
    rw [← constantOfBase_constantBaseName hc, ← constantOfBase_constantBaseName hd, constantOfBase,
      constantOfBase, hlist]
  refine ⟨constantOfBase_constantBaseName hc, ⟨fun h => htitle (congrArg capitalize h), ?_⟩, ?_⟩
  · rintro rfl
    rfl
  · intro negated
    refine ⟨fun h => htitle ?_, ?_⟩
    · exact (String.append_right_inj _).mp h
    · rintro rfl
      rfl

/-- An underscore more is a capital more. -/
theorem constant_names_inj_grades :
    IsConstantName "A_B2" ∧ IsConstantName "AB2" ∧
      constantBaseName "A_B2" ≠ constantBaseName "AB2" ∧
      (constantMethod "A_B2" false).name ≠ (constantMethod "AB2" false).name := by
  have htwo : IsConstantName "A_B2" := ⟨[['A'], ['B', '2']], by decide, by decide, by decide⟩
  have hone : IsConstantName "AB2" := ⟨[['A', 'B', '2']], by decide, by decide, by decide⟩
  obtain ⟨-, hbase, hname⟩ := constant_names_inj htwo hone
  exact ⟨htwo, hone, hbase.not.mpr (by decide), (hname false).not.mpr (by decide)⟩

end AssertionGen
