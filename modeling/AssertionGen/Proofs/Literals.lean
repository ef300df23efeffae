import AssertionGen.Proofs.Blocks
/-!
# Texts in quotes

Accessors, sentences and the generator's name come from outside and stand in the source as string
literals. `Denotes` says what may stand between the quotes of a literal and which text it stands for:
an escape for one character, and every other character but a quote, a backslash and a line break for
itself. The reader finds exactly this (`readLiteralBody?_eq_some_iff`), so a literal has one end and
one text. What is written for a text denotes it (`denotes_flatMap_literalChar`), and all else follows:
the text is read back whatever comes behind the literal, and a literal never spans two lines.

In a line of a class nothing before the quoted text holds a quote, so the first literal of the line
is the one that is meant (`Quotes.firstLiteral?_eq`).
-/

namespace AssertionGen.Java

/-! ## Literals -/

/-- What stands between the quotes of a literal, and the text that it denotes. -/
inductive Denotes : List Char → List Char → Prop where
  | nil : Denotes [] []
  | plain {c : Char} {w s : List Char} (hc : c ∉ ['"', '\\', '\n', '\r']) (h : Denotes w s) :
      Denotes (c :: w) (c :: s)
  | escape {c d : Char} {w s : List Char} (hd : escapedChar? c = some d) (h : Denotes w s) :
      Denotes ('\\' :: c :: w) (d :: s)

variable {cs rest w s : List Char}

theorem Denotes.readLiteralBody?_append (h : Denotes w s) (rest : List Char) :
    readLiteralBody? (w ++ '"' :: rest) = some (s, rest) := by
  induction h with
  | nil => rfl
  | @plain c w s hc h ih =>
      simp only [List.mem_cons, List.not_mem_nil, or_false, not_or] at hc
      obtain ⟨hquote, hbackslash, hfeed, hreturn⟩ := hc
      rw [List.cons_append, readLiteralBody?, if_neg (by simp [hbackslash, hfeed, hreturn]), ih]
      · rfl
      · exact hquote
      · intro d more heq
        exact absurd heq hbackslash
  | @escape c d w s hd h ih =>
      rw [List.cons_append, List.cons_append, readLiteralBody?, hd, ih]
      rfl

/-- The reader takes what denotes a text, up to the quote behind it, and nothing else. -/
theorem readLiteralBody?_eq_some_iff :
    readLiteralBody? cs = some (s, rest) ↔ ∃ w, Denotes w s ∧ cs = w ++ '"' :: rest := by
  constructor
  · intro h
    fun_induction readLiteralBody? cs generalizing s with
    | case1 => cases h
    | case2 tail =>
        cases h
        exact ⟨[], .nil, rfl⟩
    | case3 c tail ih =>
        simp only [Option.bind_eq_bind, Option.bind_eq_some_iff] at h
        obtain ⟨d, hd, ⟨v, more⟩, hread, heq⟩ := h
        cases heq
        obtain ⟨w, hw, rfl⟩ := ih hread
        exact ⟨'\\' :: c :: w, .escape hd hw, rfl⟩
    | case4 c tail => cases h
    | case5 c tail hquote hescape hplain ih =>
        simp only [Option.bind_eq_bind, Option.bind_eq_some_iff] at h
        obtain ⟨⟨v, more⟩, hread, heq⟩ := h
        cases heq
        obtain ⟨w, hw, rfl⟩ := ih hread
        exact ⟨c :: w, .plain (by simp_all) hw, rfl⟩
  · rintro ⟨w, hw, rfl⟩
    exact hw.readLiteralBody?_append rest

/-- A literal is a quote, what denotes a text, and a quote. -/
theorem readLiteral?_eq_some_iff :
    readLiteral? cs = some (s, rest) ↔ ∃ w, Denotes w s ∧ cs = '"' :: (w ++ '"' :: rest) := by
  unfold readLiteral?
  split
  · next tail => simp only [readLiteralBody?_eq_some_iff, List.cons.injEq, true_and]
  · next hquote =>
      refine iff_of_false (by simp) ?_
      rintro ⟨w, -, rfl⟩
      exact hquote _ rfl

/-- A character is written as it is or as its escape. -/
theorem literalChar_cases (c : Char) :
    literalChar c = [c] ∧ c ∉ ['"', '\\', '\n', '\r'] ∨
      ∃ e, literalChar c = ['\\', e] ∧ escapedChar? e = some c := by
  unfold literalChar
  split
  · next h => exact Or.inr ⟨'"', rfl, by rw [h]; rfl⟩
  split
  · next h => exact Or.inr ⟨'\\', rfl, by rw [h]; rfl⟩
  split
  · next h => exact Or.inr ⟨'n', rfl, by rw [h]; rfl⟩
  split
  · next h => exact Or.inr ⟨'t', rfl, by rw [h]; rfl⟩
  split
  · next h => exact Or.inr ⟨'r', rfl, by rw [h]; rfl⟩
  · exact Or.inl ⟨rfl, by simp_all⟩

/-- What is written for a text denotes it. -/
theorem denotes_flatMap_literalChar (s : List Char) : Denotes (s.flatMap literalChar) s := by
  induction s with
  | nil => exact .nil
  | cons c s ih =>
      rw [List.flatMap_cons]
      rcases literalChar_cases c with ⟨hwritten, hplain⟩ | ⟨e, hwritten, hescape⟩
      · rw [hwritten]
        exact .plain hplain ih
      · rw [hwritten]
        exact .escape hescape ih

theorem Denotes.lineBreak_notMem (h : Denotes w s) : '\n' ∉ w ∧ '\r' ∉ w := by
  induction h with
  | nil => exact ⟨List.not_mem_nil, List.not_mem_nil⟩
  | plain hc h ih =>
      simp only [List.mem_cons, List.not_mem_nil, or_false, not_or] at hc ⊢
      exact ⟨⟨Ne.symm hc.2.2.1, ih.1⟩, Ne.symm hc.2.2.2, ih.2⟩
  | @escape c d w s hd h ih =>
      have hescape : c ≠ '\n' ∧ c ≠ '\r' := by
        constructor <;> rintro rfl <;> cases hd
      simp only [List.mem_cons, not_or]
      exact ⟨⟨by decide, Ne.symm hescape.1, ih.1⟩, by decide, Ne.symm hescape.2, ih.2⟩

theorem literalChars_append (s rest : List Char) :
    literalChars s ++ rest = '"' :: (s.flatMap literalChar ++ '"' :: rest) := by
  simp [literalChars]

theorem readLiteral?_literalChars (s rest : List Char) :
    readLiteral? (literalChars s ++ rest) = some (s, rest) :=
  readLiteral?_eq_some_iff.mpr ⟨_, denotes_flatMap_literalChar s, literalChars_append s rest⟩

theorem lineBreak_notMem_literalChars (s : List Char) :
    '\n' ∉ literalChars s ∧ '\r' ∉ literalChars s := by
  simpa [literalChars] using (denotes_flatMap_literalChar s).lineBreak_notMem

theorem literal_inj {s t : String} : literal s = literal t ↔ s = t := by
  refine ⟨fun h => ?_, congrArg _⟩
  have hchars : literalChars s.toList = literalChars t.toList := String.ofList_injective h
  have hread := readLiteral?_literalChars s.toList []
  rw [hchars, readLiteral?_literalChars, Option.some_inj, Prod.mk.injEq] at hread
  exact String.toList_inj.mp hread.1.symm

/-! ## Lines -/

/-- Reads the first literal of a line. -/
def firstLiteral? (line : String) : Option (List Char × List Char) :=
  readLiteral? (line.toList.dropWhile (· ≠ '"'))

/-- A line in which the first quote opens the literal of a text. -/
def Quotes (text line : String) : Prop :=
  ∃ front back : String, line = front ++ literal text ++ back ∧ '"' ∉ front.toList

namespace Quotes

variable {text line : String}

theorem of_literal (text : String) : Quotes text (literal text) :=
  ⟨"", "", by simp, by simp⟩

theorem append (h : Quotes text line) (more : String) : Quotes text (line ++ more) := by
  obtain ⟨front, back, rfl, hfront⟩ := h
  exact ⟨front, back ++ more, by simp [String.append_assoc], hfront⟩

theorem prepend (h : Quotes text line) {more : String} (hmore : '"' ∉ more.toList) :
    Quotes text (more ++ line) := by
  obtain ⟨front, back, rfl, hfront⟩ := h
  exact ⟨more ++ front, back, by simp [String.append_assoc], by simp [hmore, hfront]⟩

theorem firstLiteral?_eq (h : Quotes text line) :
    ∃ back : String, firstLiteral? line = some (text.toList, back.toList) := by
  obtain ⟨front, back, rfl, hfront⟩ := h
  refine ⟨back, ?_⟩
  have hskip : ∀ c ∈ front.toList, (decide (c ≠ '"')) = true := by
    intro c hc
    exact decide_eq_true fun h => hfront (h ▸ hc)
  rw [firstLiteral?, String.toList_append, String.toList_append, List.append_assoc,
    List.dropWhile_append_of_pos hskip, literal, String.toList_ofList]
  exact readLiteral?_literalChars text.toList back.toList

end Quotes

/-- The text that a method quotes: how its property is read, or the sentence with which it fails. -/
def quotedText (m : Method) : String :=
  match m.body with
  | .equals a _ _ | .delegate a _ _ | .contains a _ _ => a.expression
  | .truthy _ _ _ | .constant _ _ => sentence m.failure

variable (scope : Scope)

theorem quote_notMem_text {t : TypeName} (hname : '"' ∉ t.name.toList)
    (hqualified : '"' ∉ t.qualified.toList) : '"' ∉ (scope.text t).toList := by
  unfold Scope.text
  split
  · exact hname
  · exact hqualified

theorem quote_notMem_factClass : '"' ∉ (scope.text factClass).toList :=
  quote_notMem_text scope (by decide) (by decide)

theorem quote_notMem_generatedMark : '"' ∉ (scope.text generatedMark).toList :=
  quote_notMem_text scope (by decide) (by decide)

theorem quotes_checkText (a : Access) : Quotes a.expression (checkText a) :=
  ((Quotes.of_literal a.expression).prepend (by decide)).append ")"

/-- Every body has a line that quotes the text of its method. -/
theorem exists_quotes_bodyPieces (valueType : String) (m : Method) :
    ∃ line, .line line ∈ bodyPieces scope valueType m ∧ Quotes (quotedText m) line := by
  have hfact := quote_notMem_factClass scope
  unfold bodyPieces quotedText
  cases m.body with
  | truthy a negated boxed =>
      refine ⟨_, List.mem_cons_of_mem _ (List.mem_cons_of_mem _ (List.mem_cons_of_mem _
        List.mem_cons_self)), ?_⟩
      iterate 3 apply Quotes.append
      exact (Quotes.of_literal _).prepend (by simp [hfact])
  | equals a t nullSensitive =>
      refine ⟨_, List.mem_cons_of_mem _ List.mem_cons_self, ?_⟩
      iterate 3 apply Quotes.append
      exact quotes_checkText a
  | delegate a t h =>
      refine ⟨_, List.mem_cons_of_mem _ List.mem_cons_self, ?_⟩
      iterate 4 apply Quotes.append
      exact (quotes_checkText a).prepend (by decide)
  | contains a h mode =>
      refine ⟨_, List.mem_cons_of_mem _ List.mem_cons_self, ?_⟩
      iterate 7 apply Quotes.append
      exact quotes_checkText a
  | constant c negated =>
      refine ⟨_, List.mem_cons_of_mem _ List.mem_cons_self, ?_⟩
      apply Quotes.append
      exact (Quotes.of_literal _).prepend (by simp [hfact])

/-- The mark of generated code quotes the name of the generator. -/
theorem exists_quotes_markPieces {settings : Settings} (hmarked : settings.marked = true) :
    ∃ line, .line line ∈ markPieces scope settings ∧ Quotes settings.generatorName line := by
  have hmark := quote_notMem_generatedMark scope
  unfold markPieces
  rw [if_pos hmarked]
  refine ⟨_, List.mem_cons_self, ?_⟩
  apply Quotes.append
  exact (Quotes.of_literal _).prepend (by simp [mark, hmark])

/-- **Literals are faithful and end where they should.** The reader takes a quote, what denotes a text, and
the quote behind it. From a literal it takes exactly the literal and returns its text, whatever follows,
and no other end would denote a text. A literal never breaks a line, and two texts have two literals. So
in the unit of a subject, the first literal in the line of a method that quotes its property or its
sentence is read as just that, and in the line of the mark as the name of the generator. -/
theorem literals_read_back (s rest : String) :
    (∀ cs v more, readLiteral? cs = some (v, more) ↔
        ∃ w, Denotes w v ∧ cs = '"' :: (w ++ '"' :: more)) ∧
      readLiteral? (literal s ++ rest).toList = some (s.toList, rest.toList) ∧
      (∀ w v more, Denotes w v → (literal s ++ rest).toList = '"' :: (w ++ '"' :: more) →
        v = s.toList ∧ more = rest.toList) ∧
      ('\n' ∉ (literal s).toList ∧ '\r' ∉ (literal s).toList) ∧
      (∀ t, literal s = literal t ↔ s = t) ∧
      (∀ (settings : Settings) (subject : Subject), ∀ m ∈ subject.methods,
        ∃ line, .line line ∈ unitMethodPieces settings subject m ∧
          ∃ back : String, firstLiteral? line = some ((quotedText m).toList, back.toList)) ∧
      ∀ (settings : Settings) (subject : Subject), settings.marked = true →
        ∃ line, .line line ∈ headPieces (unitScope settings subject) settings subject ∧
          ∃ back : String, firstLiteral? line = some (settings.generatorName.toList, back.toList) := by
  have hlist : (literal s ++ rest).toList = literalChars s.toList ++ rest.toList := by
    rw [String.toList_append, literal, String.toList_ofList]
  have hread : readLiteral? (literal s ++ rest).toList = some (s.toList, rest.toList) := by
    rw [hlist, readLiteral?_literalChars]
  refine ⟨fun _ _ _ => readLiteral?_eq_some_iff, hread, ?_, ?_, fun t => literal_inj, ?_, ?_⟩
  · intro w v more hw heq
    have hother := readLiteral?_eq_some_iff.mpr ⟨w, hw, heq⟩
    rw [hread, Option.some_inj, Prod.mk.injEq] at hother
    exact ⟨hother.1.symm, hother.2.symm⟩
  · rw [literal, String.toList_ofList]
    exact lineBreak_notMem_literalChars s.toList
  · intro settings subject m _
    obtain ⟨line, hline, hquotes⟩ := exists_quotes_bodyPieces (unitScope settings subject)
      (typeText (unitScope settings subject) subject.valueType.selfType) m
    refine ⟨line, ?_, hquotes.firstLiteral?_eq⟩
    simp [unitMethodPieces, methodPieces, hline]
  · intro settings subject hmarked
    obtain ⟨line, hline, hquotes⟩ := exists_quotes_markPieces (unitScope settings subject) hmarked
    refine ⟨line, ?_, hquotes.firstLiteral?_eq⟩
    simp [headPieces, hline]

end AssertionGen.Java
