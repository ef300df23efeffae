import AssertionGen.Java.Unit
/-!
# Blocks of a class

The indentation of a line is the number of blocks that are open before it, so what a piece of a
source looks like depends on all that stands above it. It does not for `Balanced` pieces, in which
every block that is opened is closed again: they end on the level on which they begin
(`Balanced.level`), and whatever follows is written as if they were not there (`Balanced.writeFrom`).

The body of every method is balanced, and a method is one block under one header (`IsBlock`), and so is
the class itself (`isBlock_classPieces`). So the source of a class is its head, one block for each method
on the first level, in the order of the subject, and the closing of the class (`source_eq`).
-/

namespace AssertionGen.Java

/-! ## Levels -/

namespace Piece

/-- The level after pieces. -/
def level (start : Nat) (ps : List Piece) : Nat := ps.foldl levelAfter start

theorem level_append (start : Nat) (ps qs : List Piece) :
    level start (ps ++ qs) = level (level start ps) qs :=
  List.foldl_append

theorem writeFrom_append (indent : String) (start : Nat) (ps qs : List Piece) :
    writeFrom indent start (ps ++ qs) =
      writeFrom indent start ps ++ writeFrom indent (level start ps) qs := by
  induction ps generalizing start with
  | nil => simp [writeFrom, level]
  | cons p ps ih =>
      rw [List.cons_append, writeFrom, writeFrom, ih, String.append_assoc]
      rfl

/-- Pieces in which every block that is opened is closed. -/
inductive Balanced : List Piece → Prop where
  | nil : Balanced []
  | line (text : String) {ps : List Piece} (h : Balanced ps) : Balanced (.line text :: ps)
  | blank {ps : List Piece} (h : Balanced ps) : Balanced (.blank :: ps)
  | block (header : String) {body ps : List Piece} (hbody : Balanced body) (h : Balanced ps) :
      Balanced (.opening header :: (body ++ .closing :: ps))

namespace Balanced

variable {ps qs : List Piece}

theorem append (hps : Balanced ps) (hqs : Balanced qs) : Balanced (ps ++ qs) := by
  induction hps with
  | nil => exact hqs
  | line text h ih => exact .line text ih
  | blank h ih => exact .blank ih
  | block header hbody h ihbody ih =>
      rw [List.cons_append, List.append_assoc]
      exact .block header hbody ih

/-- Balanced pieces leave the level as it is. -/
theorem level (h : Balanced ps) (start : Nat) : Piece.level start ps = start := by
  induction h generalizing start with
  | nil => rfl
  | line text h ih | blank h ih => exact ih start
  | block header hbody h ihbody ih =>
      show Piece.level (start + 1) (_ ++ _) = start
      rw [level_append, ihbody]
      -- the closing takes back what the opening added
      exact ih start

theorem writeFrom (h : Balanced ps) (indent : String) (start : Nat) (qs : List Piece) :
    Piece.writeFrom indent start (ps ++ qs) =
      Piece.writeFrom indent start ps ++ Piece.writeFrom indent start qs := by
  rw [writeFrom_append, h.level]

theorem flatMap {α : Type} {f : α → List Piece} (h : ∀ a, Balanced (f a)) (as : List α) :
    Balanced (as.flatMap f) := by
  induction as with
  | nil => exact .nil
  | cons a as ih => exact (h a).append ih

/-- Of balanced parts, each is written on the level of the whole. -/
theorem writeFrom_flatMap {α : Type} {f : α → List Piece} (h : ∀ a, Balanced (f a))
    (indent : String) (start : Nat) (as : List α) (qs : List Piece) :
    Piece.writeFrom indent start (as.flatMap f ++ qs) =
      String.join (as.map fun a => Piece.writeFrom indent start (f a)) ++
        Piece.writeFrom indent start qs := by
  induction as with
  | nil => simp
  | cons a as ih =>
      rw [List.flatMap_cons, List.append_assoc, (h a).writeFrom, ih, List.map_cons,
        String.join_cons, String.append_assoc]

end Balanced

/-- One block under a header, with lines above it. -/
inductive IsBlock (header : String) : List Piece → Prop where
  | intro (above : List String) {body : List Piece} (h : Balanced body) :
      IsBlock header (above.map .line ++ .opening header :: (body ++ [.closing]))

theorem balanced_lines (texts : List String) : Balanced (texts.map .line) := by
  induction texts with
  | nil => exact .nil
  | cons text texts ih => exact .line text ih

theorem IsBlock.balanced {header : String} {ps : List Piece} (h : IsBlock header ps) :
    Balanced ps := by
  obtain ⟨above, hbody⟩ := h
  exact (balanced_lines above).append (.block header hbody .nil)

end Piece

/-! ## Methods -/

/-- The header of a method. -/
def methodHeader (scope : Scope) (m : Method) : String :=
  "public " ++ (returnPieces scope m.returns).2 ++ " " ++ m.name ++ "(" ++
    ", ".intercalate (m.parameters.map (parameterText scope)) ++ ")"

theorem balanced_bodyPieces (scope : Scope) (valueType : String) (m : Method) :
    Piece.Balanced (bodyPieces scope valueType m) := by
  unfold bodyPieces
  cases m.body with
  | truthy a negated boxed =>
      exact .line _ (.line _ (.block _ (.line _ .nil) .nil))
  | equals a t nullSensitive => exact .line _ (.line _ .nil)
  | delegate a t h => exact .line _ (.line _ .nil)
  | contains a h mode => exact .line _ (.line _ .nil)
  | constant c negated => exact .block _ (.line _ .nil) .nil

/-- A method is one block under its own header. -/
theorem isBlock_methodPieces (scope : Scope) (valueType : String) (m : Method) :
    Piece.IsBlock (methodHeader scope m) (methodPieces scope valueType m) := by
  have hbody := balanced_bodyPieces scope valueType m
  unfold methodHeader methodPieces
  cases m.returns with
  | nothing => exact .intro [] hbody
  | handle h => exact .intro [mark scope nonnullMark] hbody

/-! ## The class -/

/-- The pieces of a class before its methods. -/
def headPieces (scope : Scope) (settings : Settings) (s : Subject) : List Piece :=
  let h := HeaderTexts.of scope settings s
  markPieces scope settings ++
    [.opening ("public class " ++ h.name ++ h.declaration ++ " extends " ++ scope.text subjectBase),
     .line ("private final " ++ h.valueType ++ " actual;"),
     .blank] ++
    constructorPieces scope h ++ .blank :: factoryPieces scope h ++
    (if settings.assertThat then assertThatPieces scope h s.typeParameters else [])

theorem classPieces_eq (scope : Scope) (settings : Settings) (s : Subject) :
    classPieces scope settings s =
      headPieces scope settings s ++
        (s.methods.flatMap (fun m =>
          .blank :: methodPieces scope (typeText scope s.valueType.selfType) m) ++ [.closing]) := by
  rw [← List.append_assoc]
  rfl

theorem exists_markPieces_eq (scope : Scope) (settings : Settings) :
    ∃ texts : List String, markPieces scope settings = texts.map .line := by
  unfold markPieces
  split
  · exact ⟨[_, _], rfl⟩
  · exact ⟨[_], rfl⟩

theorem balanced_assertThatPieces (scope : Scope) (settings : Settings) (h : HeaderTexts)
    (bindings : List Binding) :
    Piece.Balanced (if settings.assertThat then assertThatPieces scope h bindings else []) := by
  split
  · exact .blank (.line _ (.block _ (.line _ .nil) .nil))
  · exact .nil

/-- After the head of a class, exactly the class itself is open. -/
theorem level_headPieces (scope : Scope) (settings : Settings) (s : Subject) :
    Piece.level 0 (headPieces scope settings s) = 1 := by
  obtain ⟨texts, hmarks⟩ := exists_markPieces_eq scope settings
  have hstatic := balanced_assertThatPieces scope settings (HeaderTexts.of scope settings s)
    s.typeParameters
  unfold headPieces
  simp only [hmarks, Piece.level_append, (Piece.balanced_lines texts).level, hstatic.level]
  rfl

/-- The header of a class. -/
def classHeader (scope : Scope) (settings : Settings) (s : Subject) : String :=
  let h := HeaderTexts.of scope settings s
  "public class " ++ h.name ++ h.declaration ++ " extends " ++ scope.text subjectBase

/-- What stands in a class. -/
def memberPieces (scope : Scope) (settings : Settings) (s : Subject) : List Piece :=
  let h := HeaderTexts.of scope settings s
  .line ("private final " ++ h.valueType ++ " actual;") :: .blank ::
    (constructorPieces scope h ++ .blank :: (factoryPieces scope h ++
      ((if settings.assertThat then assertThatPieces scope h s.typeParameters else []) ++
        s.methods.flatMap fun m => .blank :: methodPieces scope h.valueType m)))

theorem balanced_memberPieces (scope : Scope) (settings : Settings) (s : Subject) :
    Piece.Balanced (memberPieces scope settings s) := by
  have hconstructor : ∀ h, Piece.Balanced (constructorPieces scope h) := fun h =>
    .block _ (.line _ (.line _ .nil)) .nil
  have hfactory : ∀ h, Piece.Balanced (factoryPieces scope h) := fun h =>
    .line _ (.block _ (.line _ .nil) .nil)
  have hmethods : ∀ valueType, Piece.Balanced
      (s.methods.flatMap fun m => .blank :: methodPieces scope valueType m) := fun valueType =>
    .flatMap (fun m => .blank (isBlock_methodPieces scope valueType m).balanced) s.methods
  exact .line _ (.blank ((hconstructor _).append (.blank ((hfactory _).append
    ((balanced_assertThatPieces scope settings _ _).append (hmethods _))))))

theorem classPieces_eq_block (scope : Scope) (settings : Settings) (s : Subject) :
    classPieces scope settings s =
      markPieces scope settings ++
        .opening (classHeader scope settings s) :: (memberPieces scope settings s ++ [.closing]) := by
  unfold classPieces classHeader memberPieces
  simp only [List.append_assoc, List.cons_append, List.nil_append]

/-- A class is one block under its own header. -/
theorem isBlock_classPieces (scope : Scope) (settings : Settings) (s : Subject) :
    Piece.IsBlock (classHeader scope settings s) (classPieces scope settings s) := by
  obtain ⟨texts, hmarks⟩ := exists_markPieces_eq scope settings
  rw [classPieces_eq_block, hmarks]
  exact .intro texts (balanced_memberPieces scope settings s)

/-- What stands above the methods. -/
def headText (settings : Settings) (s : Subject) : String :=
  let scope := unitScope settings s
  Piece.writeAll settings.indent (preamblePieces scope) ++
    Piece.writeAll settings.indent (headPieces scope settings s)

/-- The pieces of a method in the unit of its subject. -/
def unitMethodPieces (settings : Settings) (s : Subject) (m : Method) : List Piece :=
  methodPieces (unitScope settings s) (typeText (unitScope settings s) s.valueType.selfType) m

/-- The block of a method in the unit of its subject, after an empty line. -/
def blockText (settings : Settings) (s : Subject) (m : Method) : String :=
  "\n" ++ Piece.writeFrom settings.indent 1 (unitMethodPieces settings s m)

/-- The source is the head, the blocks of the methods in order, and the closing of the class. -/
theorem source_eq (settings : Settings) (s : Subject) :
    (SourceUnit.ofSubject settings s).source =
      headText settings s ++ (String.join (s.methods.map (blockText settings s)) ++ "\x7d\n") := by
  have hblock : ∀ m, Piece.Balanced (.blank :: unitMethodPieces settings s m) := fun m =>
    .blank (isBlock_methodPieces _ _ m).balanced
  have hclosing : Piece.writeFrom settings.indent 1 [.closing] = "\x7d\n" := rfl
  -- the preamble is written on its own, so the levels of the class start at zero
  show Piece.writeAll _ _ ++ Piece.writeAll _ (classPieces _ _ _) = _
  rw [classPieces_eq, Piece.writeAll, Piece.writeAll, Piece.writeFrom_append, level_headPieces,
    ← String.append_assoc]
  refine congrArg (headText settings s ++ ·) ?_
  exact (Piece.Balanced.writeFrom_flatMap hblock settings.indent 1 s.methods [.closing]).trans
    (by rw [hclosing]; rfl)

end AssertionGen.Java
