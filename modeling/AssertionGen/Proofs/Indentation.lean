import AssertionGen.Proofs.Blocks
import AssertionGen.Proofs.Complements
import AssertionGen.Proofs.Validity
import AssertionGen.Text.Pieces
import Mathlib.Data.List.Forall2
/-!
# Levels and indentation

A class is written by a writer that goes from piece to piece and keeps count of the open blocks
(`Writer`). The count stops at zero, so a closing too many would go unnoticed. There is none: a class
is one block under its header (`isBlock_classPieces`), and in balanced pieces every closing ends a block
that they have opened themselves (`Balanced.closesAbove`).

The count decides only how far lines are indented. Indentation stands at the beginnings of lines, and if
it is blank, what is left of the lines without the blanks that they begin with does not depend on it, nor
on any count (`unindentedLines_writeFrom`). A piece may itself be of several lines, since names are
written as they stand; of these only the first one is indented.

`blocks_match` puts this together for all units of a batch.
-/

namespace AssertionGen

namespace Java

/-! ## Closings -/

namespace Piece

variable {ps qs : List Piece} {floor start : Nat}

/-- At every closing more than `floor` blocks are open. -/
def ClosesAbove (floor start : Nat) (ps : List Piece) : Prop :=
  ∀ before after, ps = before ++ .closing :: after → floor < level start before

theorem closesAbove_nil : ClosesAbove floor start [] := by
  intro before after h
  simp at h

theorem ClosesAbove.cons {p : Piece} (hp : p = .closing → floor < start)
    (h : ClosesAbove floor (p.levelAfter start) ps) : ClosesAbove floor start (p :: ps) := by
  intro before after heq
  cases before with
  | nil => exact hp (List.cons.inj heq).1
  | cons q before =>
      obtain ⟨rfl, hps⟩ := List.cons.inj heq
      exact h before after hps

theorem ClosesAbove.append (hps : ClosesAbove floor start ps)
    (hqs : ClosesAbove floor (level start ps) qs) : ClosesAbove floor start (ps ++ qs) := by
  intro before after h
  rcases List.append_eq_append_iff.mp h with ⟨more, rfl, hmore⟩ | ⟨rest, rfl, hrest⟩
  · rw [level_append]
    exact hqs more after hmore
  · cases rest with
    | nil =>
        rw [List.append_nil] at hqs
        exact hqs [] after hrest.symm
    | cons p rest =>
        obtain ⟨rfl, -⟩ := List.cons.inj hrest
        exact hps before rest rfl

/-- Balanced pieces close only what they have opened. -/
theorem Balanced.closesAbove (h : Balanced ps) (hfloor : floor ≤ start) :
    ClosesAbove floor start ps := by
  induction h generalizing start with
  | nil => exact closesAbove_nil
  | line text h ih | blank h ih => exact .cons (by simp) (ih hfloor)
  | block header hbody h ihbody ih =>
      refine .cons (by simp) ((ihbody (Nat.le_succ_of_le hfloor)).append ?_)
      rw [hbody.level]
      exact .cons (fun _ => Nat.lt_succ_of_le hfloor) (ih hfloor)

end Piece

/-! ## The writer -/

/-- A writer: what it has written, and how many blocks are open. -/
structure Writer where
  text : String
  level : Nat

namespace Writer

/-- A writer that has written nothing. -/
def start : Writer := ⟨"", 0⟩

/-- Writes one piece. -/
def put (indent : String) (w : Writer) (p : Piece) : Writer :=
  ⟨w.text ++ p.write indent w.level, p.levelAfter w.level⟩

/-- Writes pieces, one after the other. -/
def putAll (indent : String) (w : Writer) (ps : List Piece) : Writer := ps.foldl (put indent) w

theorem putAll_eq (indent : String) (w : Writer) (ps : List Piece) :
    w.putAll indent ps = ⟨w.text ++ Piece.writeFrom indent w.level ps, Piece.level w.level ps⟩ := by
  induction ps generalizing w with
  | nil => simp [putAll, Piece.writeFrom, Piece.level]
  | cons p ps ih =>
      show (w.put indent p).putAll indent ps = _
      rw [ih, put, Piece.writeFrom, String.append_assoc]
      rfl

theorem text_putAll_start (indent : String) (ps : List Piece) :
    (start.putAll indent ps).text = Piece.writeAll indent ps := by
  rw [putAll_eq, start, String.empty_append, Piece.writeAll]

theorem level_putAll_start (indent : String) (ps : List Piece) :
    (start.putAll indent ps).level = Piece.level 0 ps := by
  rw [putAll_eq, start]

end Writer

/-! ## Lines without their indentation -/

/-- The lines of a text, each without the spaces and tabs that it begins with. -/
def unindentedLines (text : List Char) : List (List Char) :=
  (Text.pieces '\n' text).map (List.dropWhile fun c => c = ' ' || c = '\t')

/-- A text without the spaces and tabs that its lines begin with. -/
def unindented (text : String) : String :=
  String.ofList (['\n'].intercalate (unindentedLines text.toList))

theorem unindentedLines_append (cs ds : List Char) :
    unindentedLines (cs ++ '\n' :: ds) = unindentedLines cs ++ unindentedLines ds := by
  rw [unindentedLines, Text.pieces_append_sep, List.map_append]
  rfl

/-- Blanks in front of a text are blanks in front of its first line. -/
theorem unindentedLines_blank_append {blanks : List Char} (h : ∀ c ∈ blanks, c = ' ' ∨ c = '\t')
    (cs : List Char) : unindentedLines (blanks ++ cs) = unindentedLines cs := by
  induction blanks with
  | nil => rfl
  | cons c blanks ih =>
      obtain ⟨hc, hblanks⟩ := List.forall_mem_cons.mp h
      have hline : c ≠ '\n' := by
        rcases hc with rfl | rfl <;> decide
      have hdropped : (decide (c = ' ') || decide (c = '\t')) = true := by simpa using hc
      rw [← ih hblanks]
      obtain ⟨line, lines, hlines⟩ :=
        List.exists_cons_of_ne_nil (Text.pieces_ne_nil '\n' (blanks ++ cs))
      simp only [unindentedLines, List.cons_append, Text.pieces, if_neg hline, hlines, List.map_cons,
        List.dropWhile_cons, hdropped, if_true]

namespace Piece

/-- What a piece says, without its indentation and the end of its last line. -/
def content : Piece → String
  | line text => text
  | blank => ""
  | opening header => header ++ " \x7b"
  | closing => "\x7d"

variable {indent : String}

theorem blank_join_replicate (h : Settings.IsBlank indent) (level : Nat) :
    ∀ c ∈ (String.join (List.replicate level indent)).toList, c = ' ' ∨ c = '\t' := by
  intro c hc
  rw [String.toList_join, List.mem_flatMap] at hc
  obtain ⟨copy, hcopy, hc⟩ := hc
  rw [List.eq_of_mem_replicate hcopy] at hc
  exact h c hc

/-- A blank indentation and the level leave no trace in what a line says. -/
theorem unindentedLines_indented (h : Settings.IsBlank indent) (level : Nat) (text : String)
    (rest : List Char) :
    unindentedLines ((indented indent level text).toList ++ rest) =
      unindentedLines text.toList ++ unindentedLines rest := by
  have hend : "\n".toList = ['\n'] := rfl
  unfold indented
  split
  · next hempty =>
    rw [hempty, hend]
    rfl
  · rw [String.toList_append, String.toList_append, hend, List.append_assoc, List.append_assoc,
      List.singleton_append, unindentedLines_blank_append (blank_join_replicate h level),
      unindentedLines_append]

theorem unindentedLines_write (h : Settings.IsBlank indent) (level : Nat) (p : Piece)
    (rest : List Char) :
    unindentedLines ((p.write indent level).toList ++ rest) =
      unindentedLines p.content.toList ++ unindentedLines rest := by
  cases p with
  | line text => exact unindentedLines_indented h level text rest
  | blank => exact unindentedLines_indented h level "" rest
  | opening header => exact unindentedLines_indented h level (header ++ " \x7b") rest
  | closing => exact unindentedLines_indented h (level - 1) "\x7d" rest

/-- Without their indentation, the lines of pieces are those of what each piece says. -/
theorem unindentedLines_writeFrom (h : Settings.IsBlank indent) (level : Nat) (ps : List Piece)
    (rest : List Char) :
    unindentedLines ((writeFrom indent level ps).toList ++ rest) =
      (ps.flatMap fun p => unindentedLines p.content.toList) ++ unindentedLines rest := by
  induction ps generalizing level with
  | nil => rfl
  | cons p ps ih =>
      rw [writeFrom, String.toList_append, List.append_assoc, unindentedLines_write h, ih,
        List.flatMap_cons, List.append_assoc]

end Piece

/-! ## Units -/

/-- The pieces of the class in the unit of its subject. -/
def unitPieces (settings : Settings) (s : Subject) : List Piece :=
  classPieces (unitScope settings s) settings s

/-- Methods in the unit of their subject, each after an empty line. -/
def unitMethodsPieces (settings : Settings) (s : Subject) (ms : List Method) : List Piece :=
  ms.flatMap fun m => .blank :: unitMethodPieces settings s m

/-- What stands in a class above the method that follows some others. -/
def piecesAbove (settings : Settings) (s : Subject) (ms : List Method) : List Piece :=
  headPieces (unitScope settings s) settings s ++ unitMethodsPieces settings s ms ++ [.blank]

theorem unitPieces_eq (settings : Settings) (s : Subject) {m : Method} {before after : List Method}
    (h : s.methods = before ++ m :: after) :
    unitPieces settings s =
      piecesAbove settings s before ++ unitMethodPieces settings s m ++
        (unitMethodsPieces settings s after ++ [.closing]) := by
  have hmethods : unitMethodsPieces settings s s.methods =
      unitMethodsPieces settings s before ++
        (.blank :: unitMethodPieces settings s m ++ unitMethodsPieces settings s after) := by
    rw [h]
    exact List.flatMap_append.trans (congrArg _ List.flatMap_cons)
  rw [unitPieces, classPieces_eq]
  show headPieces _ _ _ ++ (unitMethodsPieces settings s s.methods ++ [.closing]) = _
  rw [hmethods, piecesAbove]
  simp only [List.append_assoc, List.cons_append, List.nil_append]

theorem level_piecesAbove (settings : Settings) (s : Subject) (ms : List Method) :
    Piece.level 0 (piecesAbove settings s ms) = 1 := by
  have hmethods : Piece.Balanced (unitMethodsPieces settings s ms) :=
    .flatMap (fun m => .blank (isBlock_methodPieces _ _ m).balanced) ms
  rw [piecesAbove, Piece.level_append, Piece.level_append, level_headPieces, hmethods.level]
  rfl

/-- The blocks of a class match: its writer never closes a block where none is open and ends with none
open, and it is on one level before and after every method. -/
structure BlocksMatch (settings : Settings) (s : Subject) : Prop where
  /-- The class in the source is what the writer writes. -/
  source : (SourceUnit.ofSubject settings s).source =
    Piece.writeAll settings.indent (preamblePieces (unitScope settings s)) ++
      (Writer.start.putAll settings.indent (unitPieces settings s)).text
  closing : ∀ before after, unitPieces settings s = before ++ .closing :: after →
    1 ≤ (Writer.start.putAll settings.indent before).level
  finish : (Writer.start.putAll settings.indent (unitPieces settings s)).level = 0
  method : ∀ before m after, s.methods = before ++ m :: after →
    unitPieces settings s =
        piecesAbove settings s before ++ unitMethodPieces settings s m ++
          (unitMethodsPieces settings s after ++ [.closing]) ∧
      (Writer.start.putAll settings.indent (piecesAbove settings s before)).level = 1 ∧
      (Writer.start.putAll settings.indent
        (piecesAbove settings s before ++ unitMethodPieces settings s m)).level = 1

theorem blocksMatch (settings : Settings) (s : Subject) : BlocksMatch settings s where
  source := by
    rw [Writer.text_putAll_start]
    rfl
  closing := by
    intro before after h
    rw [Writer.level_putAll_start]
    exact (isBlock_classPieces _ settings s).balanced.closesAbove (Nat.le_refl 0) before after h
  finish := by
    rw [Writer.level_putAll_start]
    exact (isBlock_classPieces _ settings s).balanced.level 0
  method := by
    intro before m after h
    have hmethod : Piece.Balanced (unitMethodPieces settings s m) :=
      (isBlock_methodPieces _ _ m).balanced
    rw [Writer.level_putAll_start, Writer.level_putAll_start, Piece.level_append, hmethod.level]
    exact ⟨unitPieces_eq settings s h, level_piecesAbove settings s before,
      level_piecesAbove settings s before⟩

/-- Two units are the same but for the blanks that lines begin with. -/
structure SourceUnit.DifferInIndentation (u u' : SourceUnit) : Prop where
  package : u.package = u'.package
  name : u.name = u'.name
  source : unindented u.source = unindented u'.source

/-- The lines of a source without their indentation, whatever blanks it is indented with. -/
theorem unindentedLines_source {settings : Settings} (h : Settings.IsBlank settings.indent)
    (s : Subject) :
    unindentedLines (SourceUnit.ofSubject settings s).source.toList =
      (preamblePieces (unitScope settings s) ++ unitPieces settings s).flatMap
        (fun p => unindentedLines p.content.toList) ++ [[]] := by
  have hclass := Piece.unindentedLines_writeFrom h 0 (unitPieces settings s) []
  rw [List.append_nil] at hclass
  show unindentedLines (Piece.writeAll _ _ ++ Piece.writeAll _ (unitPieces settings s)).toList = _
  rw [String.toList_append, Piece.writeAll, Piece.writeAll, Piece.unindentedLines_writeFrom h, hclass,
    List.flatMap_append, List.append_assoc]
  rfl

theorem differInIndentation_ofSubject {settings : Settings} {indent : String}
    (h : Settings.IsBlank settings.indent) (h' : Settings.IsBlank indent) (s : Subject) :
    (SourceUnit.ofSubject settings s).DifferInIndentation
      (SourceUnit.ofSubject { settings with indent := indent } s) where
  package := rfl
  name := rfl
  source := by
    -- no piece depends on the indentation
    have hpieces : unitPieces { settings with indent := indent } s = unitPieces settings s := rfl
    have hscope : unitScope { settings with indent := indent } s = unitScope settings s := rfl
    have hblank : Settings.IsBlank { settings with indent := indent }.indent := h'
    rw [unindented, unindented, unindentedLines_source h, unindentedLines_source hblank, hpieces,
      hscope]

end Java

/-! ## Batches -/

/-- Generation does not look at the indentation. -/
theorem batchResults_withIndent (settings : Settings) (indent : String) (batch : List ValueType) :
    batchResults { settings with indent := indent } batch = batchResults settings batch := by
  unfold batchResults
  rw [settledTable_eq_shrink, settledTable_eq_shrink]
  rfl

/-- **Blocks match, and indentation is only indentation.** In the class of every reported subject, under
whatever settings it is written, no closing stands where no block is open, all blocks are closed at the
end, and every method ends on the level on which it begins. Under valid settings that differ only in the
indentation, a batch has the same subjects, and their units are equal once the spaces and tabs that lines
begin with are removed. -/
theorem blocks_match (settings : Settings) (batch : List ValueType) (indent : String) :
    (∀ s ∈ (generateBatch settings batch).subjects, ∀ written : Settings,
      Java.BlocksMatch written s) ∧
      (settings.validate = .ok () → { settings with indent := indent }.validate = .ok () →
        (generateBatch { settings with indent := indent } batch).subjects =
            (generateBatch settings batch).subjects ∧
          List.Forall₂ Java.SourceUnit.DifferInIndentation (generateBatch settings batch).units
            (generateBatch { settings with indent := indent } batch).units) := by
  refine ⟨fun s _ written => Java.blocksMatch written s, fun hvalid hvalid' => ?_⟩
  have hblank : Settings.IsBlank settings.indent :=
    (Settings.validate_eq_ok_iff.mp hvalid).2.2.2
  have hblank' : Settings.IsBlank indent := (Settings.validate_eq_ok_iff.mp hvalid').2.2.2
  have hsubjects : (generateBatch { settings with indent := indent } batch).subjects =
      (generateBatch settings batch).subjects := by
    show generatedSubjects (batchResults _ batch) = generatedSubjects (batchResults _ batch)
    rw [batchResults_withIndent]
  refine ⟨hsubjects, ?_⟩
  rw [units_generateBatch, units_generateBatch, hsubjects]
  refine List.forall₂_map_left_iff.mpr (List.forall₂_map_right_iff.mpr ?_)
  exact List.forall₂_same.mpr fun s _ => Java.differInIndentation_ofSubject hblank hblank' s

namespace Sample

/-- The standard settings, with tabs. -/
def tabbed : Settings := { Settings.standard with indent := "\t" }

/-- What a writer writes for the class of `Role`. -/
def roleText (settings : Settings) : String :=
  (Java.Writer.start.putAll settings.indent (Java.unitPieces settings (unlinked role))).text

end Sample

/-- The class of `Role`, where methods have blocks of their own, is another text with tabs than with
spaces, but not without its indentation. -/
theorem blocks_match_role :
    Sample.unlinked Sample.role ∈ (generateBatch Settings.standard [Sample.role]).subjects ∧
      Settings.standard.validate = .ok () ∧ Sample.tabbed.validate = .ok () ∧
      Java.BlocksMatch Settings.standard (Sample.unlinked Sample.role) ∧
      (generateBatch Sample.tabbed [Sample.role]).subjects =
        (generateBatch Settings.standard [Sample.role]).subjects ∧
      List.Forall₂ Java.SourceUnit.DifferInIndentation
        (generateBatch Settings.standard [Sample.role]).units
        (generateBatch Sample.tabbed [Sample.role]).units ∧
      Sample.roleText Settings.standard ≠ Sample.roleText Sample.tabbed := by
  have hs : Sample.unlinked Sample.role ∈
      (generateBatch Settings.standard [Sample.role]).subjects := by decide +kernel
  have hvalid : Settings.standard.validate = .ok () := by decide +kernel
  have hvalid' : Sample.tabbed.validate = .ok () := by decide +kernel
  obtain ⟨hmatch, hindent⟩ := blocks_match Settings.standard [Sample.role] "\t"
  obtain ⟨hsubjects, hunits⟩ := hindent hvalid hvalid'
  exact ⟨hs, hvalid, hvalid', hmatch _ hs _, hsubjects, hunits, by decide +kernel⟩

end AssertionGen
