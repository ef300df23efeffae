import AssertionGen.Descriptor.TypeDocument
import AssertionGen.Proofs.Occurrences
import AssertionGen.Proofs.Names
/-!
# Serialized type descriptions read back

What `JavaType.write` writes is an object whose first field is the kind and whose others are fields
of the shape, in order. Each of them is read back as the part that it was written for
(`readFields_written`), and the parts make up the description again (`build_parts`). A description
inside another one is read on a way of its own, which also takes positions for kinds, so the
induction is on that way (`readInner_write`); the outermost description is one more step of it
(`read_write`).

A field is written only if there is something to write: `Json.Sparse` says that no value is null or
an empty list. That nothing else is lost by this is what reading back says.
-/

namespace AssertionGen

open Json (Cause Refusal)

/-! ## What is left out -/

/-- Null and the empty list, by which nothing is said. -/
def Json.IsBlank (v : Json) : Prop := v = .null ∨ v = .array []

/-- An object with fields among `names`, in that order, of which those outside `always` are not
blank. -/
def Json.Sparse (names always : List String) (v : Json) : Prop :=
  ∃ fields, v = .object fields ∧ (fields.map Prod.fst).Sublist names ∧
    ∀ f ∈ fields, f.2.IsBlank → f.1 ∈ always

theorem Json.not_isBlank_text (s : String) : ¬ (Json.text s).IsBlank := by
  rintro (h | h) <;> cases h

theorem Json.not_isBlank_object (fields : List (String × Json)) : ¬ (Json.object fields).IsBlank := by
  rintro (h | h) <;> cases h

theorem Json.not_isBlank_cons (v : Json) (vs : List Json) : ¬ (Json.array (v :: vs)).IsBlank := by
  simp [IsBlank]

theorem Json.not_isBlank_bool (b : Bool) : ¬ (Json.bool b).IsBlank := by
  rintro (h | h) <;> cases h

/-! ## Names out of closed vocabularies -/

section Kinds

variable {α : Type} {all : List α} {tag : α → String}

/-- Where all entries are listed and no tag is given twice, every tag is read as its entry. -/
theorem readKind_tag (hall : ∀ a, a ∈ all) (hdistinct : (all.map tag).Nodup) (a : α) :
    readKind all tag (.text (tag a)) = .ok a := by
  have hknown : tag a ∈ all.map tag := List.mem_map_of_mem (hall a)
  have hfind : (all.find? fun b => tag b = tag a) = some a :=
    find?_eq_some_of_nodup_map hdistinct (hall a)
  simp only [readKind, Json.asVariant, if_pos hknown, hfind]

theorem readKind_primitive (k : Primitive) :
    readKind Primitive.all Primitive.keyword (.text k.keyword) = .ok k :=
  readKind_tag (fun k => by cases k <;> decide) (by decide) k

theorem readKind_collection (k : CollectionKind) :
    readKind CollectionKind.all CollectionKind.tag (.text k.tag) = .ok k :=
  readKind_tag (fun k => by cases k <;> decide) (by decide) k

theorem readKind_map (k : MapKind) : readKind MapKind.all MapKind.tag (.text k.tag) = .ok k :=
  readKind_tag (fun k => by cases k <;> decide) (by decide) k

theorem readKind_optional (k : OptionalKind) :
    readKind OptionalKind.all OptionalKind.tag (.text k.tag) = .ok k :=
  readKind_tag (fun k => by cases k <;> decide) (by decide) k

theorem readKind_stream (k : StreamKind) :
    readKind StreamKind.all StreamKind.tag (.text k.tag) = .ok k :=
  readKind_tag (fun k => by cases k <;> decide) (by decide) k

theorem readKind_container (k : ContainerKind) :
    readKind ContainerKind.all ContainerKind.tag (.text k.tag) = .ok k :=
  readKind_tag (fun k => by cases k <;> decide) (by decide) k

end Kinds

namespace TypeTag

theorem ofName?_tag (s : TypeTag) : ofName? s.tag = some s :=
  find?_eq_some_of_nodup_map (by decide) (by cases s <;> decide)

theorem readInner_tag (s : TypeTag) : readInner (.text s.tag) = .ok s := by
  simp only [readInner, ofName?_tag]

theorem readOuter_tag (s : TypeTag) : readOuter (.text s.tag) = .ok s := by
  simp only [readOuter, ofName?_tag]

/-- The kind is no field of any shape. -/
theorem lookup_kind (s : TypeTag) : s.fields.lookup "kind" = none := by
  cases s <;> decide

end TypeTag

namespace JavaType

/-! ## The shape and the fields of a description -/

/-- The shape. -/
def shape : JavaType → TypeTag
  | primitive _ => .primitive
  | boxed _ => .boxed
  | array _ => .array
  | collection _ _ => .collection
  | map _ _ _ => .map
  | optional _ _ => .optional
  | stream _ _ => .stream
  | container _ _ => .container
  | classRef _ => .classRef
  | path => .path
  | typeVariable _ => .typeVariable
  | wildcard _ => .wildcard
  | declared _ _ _ _ => .declared
  | verbatim _ => .verbatim

/-- The fields that are written after the kind. -/
def written : JavaType → List (String × Json)
  | primitive k | boxed k => [("primitive", .text k.keyword)]
  | array e => [("element", write e)]
  | collection k e => ("collection", .text k.tag) :: writeOption "element" e
  | map k key value => ("map", .text k.tag) :: (writeOption "key" key ++ writeOption "value" value)
  | optional k e => ("optional", .text k.tag) :: writeOption "element" e
  | stream k e => ("stream", .text k.tag) :: writeOption "element" e
  | container k as => ("container", .text k.tag) :: writeList "arguments" as
  | classRef t => writeOption "target" t
  | path => []
  | typeVariable n | verbatim n => [("name", .text n)]
  | wildcard u => writeOption "upper" u
  | declared p n as ss =>
    ("package", .text p) :: ("name", .text n) ::
      (writeList "type_arguments" as ++ writeList "supertypes" ss)

/-- A component as a part, if there is one. -/
def optionPart (field : String) : Option JavaType → List (String × TypePart)
  | none => []
  | some t => [(field, .type (some t))]

/-- A list as a part, if it has entries. -/
def listPart (field : String) : List JavaType → List (String × TypePart)
  | [] => []
  | ts => [(field, .types ts)]

/-- The parts that the written fields stand for. -/
def parts : JavaType → List (String × TypePart)
  | primitive k | boxed k => [("primitive", .primitive k)]
  | array e => [("element", .type (some e))]
  | collection k e => ("collection", .collection k) :: optionPart "element" e
  | map k key value => ("map", .map k) :: (optionPart "key" key ++ optionPart "value" value)
  | optional k e => ("optional", .optional k) :: optionPart "element" e
  | stream k e => ("stream", .stream k) :: optionPart "element" e
  | container k as => ("container", .container k) :: listPart "arguments" as
  | classRef t => optionPart "target" t
  | path => []
  | typeVariable n | verbatim n => [("name", .text n)]
  | wildcard u => optionPart "upper" u
  | declared p n as ss =>
    ("package", .text p) :: ("name", .text n) ::
      (listPart "type_arguments" as ++ listPart "supertypes" ss)

/-- The kind comes first, and the fields of the shape after it. -/
theorem write_eq (t : JavaType) : t.write = .object (("kind", .text t.shape.tag) :: t.written) := by
  cases t <;> simp only [write, written, shape, TypeTag.tag]

theorem writeItems_eq_map (ts : List JavaType) : writeItems ts = ts.map write := by
  induction ts with
  | nil => rfl
  | cons t ts ih => rw [writeItems, ih, List.map_cons]

theorem writeList_eq {field : String} {ts : List JavaType} (h : ts ≠ []) :
    writeList field ts = [(field, .array (ts.map write))] := by
  cases ts with
  | nil => exact absurd rfl h
  | cons t ts => rw [writeList, writeItems_eq_map, List.map_cons]

theorem not_isBlank_write (t : JavaType) : ¬ t.write.IsBlank := by
  rw [write_eq]
  exact Json.not_isBlank_object _

/-! ## Reading the fields -/

section Fields

variable (s : TypeTag) {field : String} {ts : List JavaType} {e : Option JavaType}

/-- Fields in a row are read in a row. -/
theorem readFields_append (xs ys : List (String × Json)) :
    readFields s (xs ++ ys) =
      readFields s xs >>= fun ps => readFields s ys >>= fun qs => .ok (ps ++ qs) := by
  induction xs with
  | nil =>
      rw [List.nil_append, readFields]
      cases readFields s ys <;> rfl
  | cons f xs ih =>
      obtain ⟨k, v⟩ := f
      rw [List.cons_append, readFields, readFields]
      cases s.fields.lookup k with
      | none => exact ih
      | some sort =>
          dsimp only
          rw [ih]
          -- the first refusal, of this field, of the ones before `ys` or of those in it, is the result
          cases TypePart.read sort v (readInner v) (readItems v) with
          | error c => rfl
          | ok part =>
              cases readFields s xs with
              | error c => rfl
              | ok ps => cases readFields s ys <;> rfl

variable {s}

/-- A field whose value is read as a part gives that part alone. -/
theorem readFields_single {v : Json} {sort : PartSort} {part : TypePart}
    (hsort : s.fields.lookup field = some sort)
    (hread : TypePart.read sort v (readInner v) (readItems v) = .ok part) :
    readFields s [(field, v)] = .ok [(field, part)] := by
  rw [readFields, hsort]
  dsimp only
  rw [hread]
  rfl

theorem readFields_cons {v : Json} {sort : PartSort} {part : TypePart}
    {fields : List (String × Json)} {ps : List (String × TypePart)}
    (hsort : s.fields.lookup field = some sort)
    (hread : TypePart.read sort v (readInner v) (readItems v) = .ok part)
    (hfields : readFields s fields = .ok ps) :
    readFields s ((field, v) :: fields) = .ok ((field, part) :: ps) := by
  rw [readFields, hsort]
  dsimp only
  rw [hread, hfields]
  rfl

theorem readAll_map_write (h : ∀ u ∈ ts, readInner u.write = .ok u) :
    readAll (ts.map write) = .ok ts := by
  induction ts with
  | nil => rfl
  | cons t ts ih =>
      rw [List.map_cons, readAll, h t List.mem_cons_self,
        ih fun u hu => h u (List.mem_cons_of_mem t hu)]
      rfl

theorem readFields_writeOption (hsort : s.fields.lookup field = some .typeOption)
    (h : ∀ u ∈ e.toList, readInner u.write = .ok u) :
    readFields s (writeOption field e) = .ok (optionPart field e) := by
  cases e with
  | none => rfl
  | some t =>
      -- null would be read as no component, but no description is written as null
      have hnull : Json.isNull t.write = false := by rw [write_eq]; rfl
      have hread := h t (by simp)
      refine readFields_single hsort ?_
      simp only [TypePart.read, hnull, hread]
      rfl

theorem readFields_writeList (hsort : s.fields.lookup field = some .types)
    (h : ∀ u ∈ ts, readInner u.write = .ok u) :
    readFields s (writeList field ts) = .ok (listPart field ts) := by
  cases ts with
  | nil => rfl
  | cons t ts =>
      rw [writeList_eq (List.cons_ne_nil t ts)]
      refine readFields_single hsort ?_
      show (readAll ((t :: ts).map write)).map TypePart.types = _
      rw [readAll_map_write h]
      rfl

end Fields

/-- The written fields of a description are read as its parts, if what stands in them is read
back. -/
theorem readFields_written {t : JavaType} (hcomponents : ∀ u ∈ t.components, readInner u.write = .ok u)
    (hsupertypes : ∀ u ∈ t.supertypes, readInner u.write = .ok u) :
    readFields t.shape t.written = .ok t.parts := by
  cases t with
  | primitive k | boxed k =>
      refine readFields_single rfl ?_
      simp only [TypePart.read, readKind_primitive]
      rfl
  | array e =>
      refine readFields_single rfl ?_
      simp only [TypePart.read, hcomponents e List.mem_cons_self]
      rfl
  | collection k e =>
      refine readFields_cons rfl ?_ (readFields_writeOption rfl hcomponents)
      simp only [TypePart.read, readKind_collection]
      rfl
  | map k key value =>
      have hkey : ∀ u ∈ key.toList, readInner u.write = .ok u := fun u hu =>
        hcomponents u (List.mem_append_left _ hu)
      have hvalue : ∀ u ∈ value.toList, readInner u.write = .ok u := fun u hu =>
        hcomponents u (List.mem_append_right _ hu)
      have hboth : readFields .map (writeOption "key" key ++ writeOption "value" value) =
          .ok (optionPart "key" key ++ optionPart "value" value) := by
        rw [readFields_append, readFields_writeOption rfl hkey, readFields_writeOption rfl hvalue]
        rfl
      refine readFields_cons rfl ?_ hboth
      simp only [TypePart.read, readKind_map]
      rfl
  | optional k e =>
      refine readFields_cons rfl ?_ (readFields_writeOption rfl hcomponents)
      simp only [TypePart.read, readKind_optional]
      rfl
  | stream k e =>
      refine readFields_cons rfl ?_ (readFields_writeOption rfl hcomponents)
      simp only [TypePart.read, readKind_stream]
      rfl
  | container k as =>
      refine readFields_cons rfl ?_ (readFields_writeList rfl hcomponents)
      simp only [TypePart.read, readKind_container]
      rfl
  | classRef e | wildcard e => exact readFields_writeOption rfl hcomponents
  | path => rfl
  | typeVariable n | verbatim n => exact readFields_single rfl rfl
  | declared p n as ss =>
      have has : ∀ u ∈ as, readInner u.write = .ok u := hcomponents
      have hss : ∀ u ∈ ss, readInner u.write = .ok u := hsupertypes
      have hboth : readFields .declared (writeList "type_arguments" as ++ writeList "supertypes" ss) =
          .ok (listPart "type_arguments" as ++ listPart "supertypes" ss) := by
        rw [readFields_append, readFields_writeList rfl has, readFields_writeList rfl hss]
        rfl
      exact readFields_cons rfl rfl (readFields_cons rfl rfl hboth)

/-! ## From the parts to the description -/

section Build

variable {p : TypeParts} {field other : String} {e : Option JavaType} {ts : List JavaType}

@[simp] theorem lookup_optionPart_of_ne (h : field ≠ other) :
    (optionPart other e).lookup field = none := by
  cases e <;> simp [optionPart, h]

@[simp] theorem lookup_listPart_of_ne (h : field ≠ other) :
    (listPart other ts).lookup field = none := by
  cases ts <;> simp [listPart, h]

/-- Where a field is what was made of a component, it is that component. -/
theorem component_of_lookup (h : p.parts.lookup field = (optionPart field e).lookup field) :
    p.component field = e := by
  rw [TypeParts.component, h]
  cases e <;> simp [optionPart]

theorem list_of_lookup (h : p.parts.lookup field = (listPart field ts).lookup field) :
    p.list field = ts := by
  rw [TypeParts.list, h]
  cases ts <;> simp [listPart]

end Build

/-- The parts of a description make it up again. -/
theorem build_parts (t : JavaType) (missing : String → Cause) :
    TypeParts.build ⟨t.parts, missing⟩ t.shape = .ok t := by
  cases t with
  | primitive k | boxed k | array e | typeVariable n | verbatim n | path => rfl
  | collection k e =>
      have he : TypeParts.component ⟨parts (.collection k e), missing⟩ "element" = e :=
        component_of_lookup (by simp [parts, List.lookup_cons])
      show Except.ok (collection k _) = _
      rw [he]
  | optional k e =>
      have he : TypeParts.component ⟨parts (.optional k e), missing⟩ "element" = e :=
        component_of_lookup (by simp [parts, List.lookup_cons])
      show Except.ok (optional k _) = _
      rw [he]
  | stream k e =>
      have he : TypeParts.component ⟨parts (.stream k e), missing⟩ "element" = e :=
        component_of_lookup (by simp [parts, List.lookup_cons])
      show Except.ok (stream k _) = _
      rw [he]
  | map k key value =>
      have hkey : TypeParts.component ⟨parts (.map k key value), missing⟩ "key" = key :=
        component_of_lookup (by simp [parts, List.lookup_cons, List.lookup_append])
      have hvalue : TypeParts.component ⟨parts (.map k key value), missing⟩ "value" = value :=
        component_of_lookup (by simp [parts, List.lookup_cons, List.lookup_append])
      show Except.ok (map k _ _) = _
      rw [hkey, hvalue]
  | container k as =>
      have has : TypeParts.list ⟨parts (.container k as), missing⟩ "arguments" = as :=
        list_of_lookup (by simp [parts, List.lookup_cons])
      show Except.ok (container k _) = _
      rw [has]
  | classRef e =>
      have he : TypeParts.component ⟨parts (.classRef e), missing⟩ "target" = e :=
        component_of_lookup rfl
      show Except.ok (classRef _) = _
      rw [he]
  | wildcard e =>
      have he : TypeParts.component ⟨parts (.wildcard e), missing⟩ "upper" = e :=
        component_of_lookup rfl
      show Except.ok (wildcard _) = _
      rw [he]
  | declared q n as ss =>
      have has : TypeParts.list ⟨parts (.declared q n as ss), missing⟩ "type_arguments" = as :=
        list_of_lookup (by simp [parts, List.lookup_cons, List.lookup_append])
      have hss : TypeParts.list ⟨parts (.declared q n as ss), missing⟩ "supertypes" = ss :=
        list_of_lookup (by simp [parts, List.lookup_cons, List.lookup_append])
      show Except.ok (declared q n _ _) = _
      rw [has, hss]

/-! ## Reading descriptions back -/

/-- The kind is passed over when the fields are read. -/
theorem readFields_of_kind (t : JavaType) {v : Json} :
    readFields t.shape (("kind", v) :: t.written) = readFields t.shape t.written := by
  rw [readFields, TypeTag.lookup_kind]

/-- A description inside another one is read back. The induction is on what the written fields
hold, components and supertypes alike. -/
theorem readInner_write (t : JavaType) : readInner t.write = .ok t := by
  induction t using parts_induction with
  | step t hcomponents hsupertypes =>
      have hparts := readFields_written hcomponents hsupertypes
      rw [write_eq, readInner, List.lookup_cons_self]
      dsimp only
      rw [TypeTag.readInner_tag]
      show (readFields t.shape (("kind", .text t.shape.tag) :: t.written) >>= fun ps =>
        TypeParts.build ⟨ps, .missingField⟩ t.shape) = _
      rw [readFields_of_kind, hparts]
      exact build_parts t .missingField

/-- An outermost description is read back. -/
theorem read_write (t : JavaType) : read t.write = .ok t := by
  have hparts : readFields t.shape t.written = .ok t.parts :=
    readFields_written (fun u _ => readInner_write u) fun u _ => readInner_write u
  rw [write_eq, read, List.lookup_cons_self]
  dsimp only
  rw [TypeTag.readOuter_tag]
  show Json.anywhere (readFields t.shape (("kind", .text t.shape.tag) :: t.written) >>= fun ps =>
    TypeParts.build ⟨ps, .missingField⟩ t.shape) = _
  rw [readFields_of_kind, hparts]
  show Json.anywhere (TypeParts.build ⟨t.parts, .missingField⟩ t.shape) = _
  rw [build_parts, Json.anywhere_ok]

/-! ## What is written -/

section Names

variable {field : String} {e : Option JavaType} {ts : List JavaType}

theorem names_writeOption_sublist : ((writeOption field e).map Prod.fst).Sublist [field] := by
  cases e with
  | none => exact List.nil_sublist _
  | some t => exact List.Sublist.refl _

theorem names_writeList_sublist : ((writeList field ts).map Prod.fst).Sublist [field] := by
  cases ts with
  | nil => exact List.nil_sublist _
  | cons t ts => exact List.Sublist.refl _

end Names

/-- The fields that are written are fields of the shape, in order. -/
theorem names_written_sublist (t : JavaType) :
    (t.written.map Prod.fst).Sublist (t.shape.fields.map Prod.fst) := by
  cases t with
  | primitive k | boxed k | array e | typeVariable n | verbatim n | path =>
      exact List.Sublist.refl _
  | collection k e | optional k e | stream k e => exact names_writeOption_sublist.cons_cons _
  | map k key value =>
      show (_ :: List.map Prod.fst (_ ++ _)).Sublist _
      rw [List.map_append]
      exact (names_writeOption_sublist.append names_writeOption_sublist).cons_cons _
  | container k as => exact names_writeList_sublist.cons_cons _
  | classRef e | wildcard e => exact names_writeOption_sublist
  | declared p n as ss =>
      show (_ :: _ :: List.map Prod.fst (_ ++ _)).Sublist _
      rw [List.map_append]
      exact ((names_writeList_sublist.append names_writeList_sublist).cons_cons _).cons_cons _

section Values

variable {field : String} {e : Option JavaType} {ts : List JavaType} {f : String × Json}

theorem not_isBlank_of_mem_writeOption (h : f ∈ writeOption field e) : ¬ f.2.IsBlank := by
  cases e with
  | none => cases h
  | some t =>
      rw [writeOption, List.mem_singleton] at h
      rw [h]
      exact not_isBlank_write t

theorem not_isBlank_of_mem_writeList (h : f ∈ writeList field ts) : ¬ f.2.IsBlank := by
  cases ts with
  | nil => cases h
  | cons t ts =>
      rw [writeList, List.mem_singleton] at h
      rw [h]
      exact Json.not_isBlank_cons _ _

end Values

/-- Of what is written, nothing is blank. -/
theorem not_isBlank_of_mem_written {t : JavaType} {f : String × Json} (h : f ∈ t.written) :
    ¬ f.2.IsBlank := by
  cases t with
  | primitive k | boxed k | typeVariable n | verbatim n =>
      rw [written, List.mem_singleton] at h
      rw [h]
      exact Json.not_isBlank_text _
  | path => cases h
  | array e =>
      rw [written, List.mem_singleton] at h
      rw [h]
      exact not_isBlank_write e
  | collection k e | optional k e | stream k e =>
      rcases List.mem_cons.mp h with rfl | h
      · exact Json.not_isBlank_text _
      · exact not_isBlank_of_mem_writeOption h
  | map k key value =>
      rcases List.mem_cons.mp h with rfl | h
      · exact Json.not_isBlank_text _
      · rcases List.mem_append.mp h with h | h
        · exact not_isBlank_of_mem_writeOption h
        · exact not_isBlank_of_mem_writeOption h
  | container k as =>
      rcases List.mem_cons.mp h with rfl | h
      · exact Json.not_isBlank_text _
      · exact not_isBlank_of_mem_writeList h
  | classRef e | wildcard e => exact not_isBlank_of_mem_writeOption h
  | declared p n as ss =>
      rcases List.mem_cons.mp h with rfl | h
      · exact Json.not_isBlank_text _
      · rcases List.mem_cons.mp h with rfl | h
        · exact Json.not_isBlank_text _
        · rcases List.mem_append.mp h with h | h
          · exact not_isBlank_of_mem_writeList h
          · exact not_isBlank_of_mem_writeList h

/-- A written description has its kind and fields of its shape, none of them blank. -/
theorem sparse_write (t : JavaType) :
    t.write.Sparse ("kind" :: t.shape.fields.map Prod.fst) [] := by
  refine ⟨_, write_eq t, t.names_written_sublist.cons_cons _, ?_⟩
  intro f hf hblank
  rcases List.mem_cons.mp hf with rfl | hf
  · exact absurd hblank (Json.not_isBlank_text _)
  · exact absurd hblank (not_isBlank_of_mem_written hf)

end JavaType

end AssertionGen
