import AssertionGen.Discovery.Source
import AssertionGen.Proofs.TypeDocuments
/-!
# Serialized value types read back

A value type, its properties and its type parameters are records: each written field is read by the
reader that the format names for it, and the record is picked from the parts. A list that is left
out is read as the empty one, which is why leaving it out loses nothing
(`RecordParts.optional_listPart`). Types inside are read back by `JavaType.read_write`.

`value_types_read_back` puts this together for the list of value types that a document holds.
-/

namespace AssertionGen

open Json (Refusal RecordFormat RecordParts anywhere asText asBool asList asVariant nonemptyField)

/-! ## Records -/

namespace Json

variable {α β : Type}

theorem readItemsFrom_map {write : α → Json} {item : Json → Except Refusal α} {as : List α}
    (h : ∀ a ∈ as, item (write a) = .ok a) (i : Nat) :
    readItemsFrom item i (as.map write) = .ok as := by
  induction as generalizing i with
  | nil => rfl
  | cons a as ih =>
      rw [List.map_cons, readItemsFrom, h a List.mem_cons_self,
        ih (fun b hb => h b (List.mem_cons_of_mem a hb))]
      rfl

/-- A list of values is read back if each of the values is. -/
theorem asList_map {write : α → Json} {item : Json → Except Refusal α} {as : List α}
    (h : ∀ a ∈ as, item (write a) = .ok a) : asList item (.array (as.map write)) = .ok as :=
  readItemsFrom_map h 0

theorem asList_texts (ss : List String) :
    asList (fun v => anywhere (asText v)) (.array (ss.map .text)) = .ok ss :=
  asList_map fun _ _ => rfl

/-- A list as a part, if it has entries. -/
def listPart (field : String) (items : List β) (part : α) : List (String × α) :=
  if items.isEmpty then [] else [(field, part)]

namespace RecordFormat

variable {format : RecordFormat α} {field : String} {part : α}

theorem readFields_nil (format : RecordFormat α) : format.readFields [] = .ok [] := rfl

theorem readFields_cons {v : Json} {reader : Json → Except Refusal α}
    {fields : List (String × Json)} {ps : List (String × α)}
    (hreader : format.fields.lookup field = some reader) (hread : reader v = .ok part)
    (hfields : format.readFields fields = .ok ps) :
    format.readFields ((field, v) :: fields) = .ok ((field, part) :: ps) := by
  rw [readFields, hreader]
  dsimp only
  rw [hread, hfields]
  rfl

section Lists

variable {write : β → Json} {items : List β} {reader : Json → Except Refusal α}

/-- A list that is left out gives no part, any other its own one. -/
theorem readFields_nonemptyField_append {fields : List (String × Json)} {ps : List (String × α)}
    (hreader : format.fields.lookup field = some reader)
    (hread : reader (.array (items.map write)) = .ok part)
    (hfields : format.readFields fields = .ok ps) :
    format.readFields (nonemptyField field (items.map write) ++ fields) =
      .ok (listPart field items part ++ ps) := by
  cases items with
  | nil => exact hfields
  | cons a as => exact readFields_cons hreader hread hfields

theorem readFields_nonemptyField (hreader : format.fields.lookup field = some reader)
    (hread : reader (.array (items.map write)) = .ok part) :
    format.readFields (nonemptyField field (items.map write)) = .ok (listPart field items part) := by
  have happend := readFields_nonemptyField_append hreader hread (readFields_nil format)
  rwa [List.append_nil, List.append_nil] at happend

end Lists

end RecordFormat

section Parts

variable {r : RecordParts α} {field other : String} {items : List β}

@[simp] theorem lookup_listPart_of_ne {part : α} (h : field ≠ other) :
    (listPart other items part).lookup field = none := by
  cases items <;> simp [listPart, h]

/-- Where a field is what was made of a list, it is picked as that list, empty or not. -/
theorem RecordParts.optional_listPart {pick : α → Option (List β)} (part : α)
    (hpick : pick part = some items)
    (h : r.parts.lookup field = (listPart field items part).lookup field) :
    r.optional field pick [] = items := by
  rw [RecordParts.optional, h]
  cases items with
  | nil => rfl
  | cons a as => simp [listPart, hpick]

end Parts

/-- Of a list field, nothing blank is written. -/
theorem not_isBlank_of_mem_nonemptyField {field : String} {items : List Json} {f : String × Json}
    (h : f ∈ nonemptyField field items) : ¬ f.2.IsBlank := by
  cases items with
  | nil => cases h
  | cons a as =>
      have hf : f = (field, .array (a :: as)) := List.mem_singleton.mp h
      rw [hf]
      exact not_isBlank_cons a as

theorem names_nonemptyField_sublist {field : String} {items : List Json} :
    ((nonemptyField field items).map Prod.fst).Sublist [field] := by
  cases items with
  | nil => exact List.nil_sublist _
  | cons a as => exact List.Sublist.refl _

end Json

/-! ## Type parameters and properties -/

namespace TypeParameter

theorem readFields_write (p : TypeParameter) :
    format.readFields
        (("name", .text p.name) :: nonemptyField "bounds" (p.bounds.map JavaType.write)) =
      .ok (("name", .text p.name) :: Json.listPart "bounds" p.bounds (.types p.bounds)) := by
  have hbounds : asList JavaType.read (.array (p.bounds.map JavaType.write)) = .ok p.bounds :=
    Json.asList_map fun t _ => JavaType.read_write t
  refine RecordFormat.readFields_cons rfl rfl (RecordFormat.readFields_nonemptyField rfl ?_)
  rw [hbounds]
  rfl

theorem read_write (p : TypeParameter) : read p.write = .ok p := by
  rw [read, write, RecordFormat.read, readFields_write]
  refine congrArg (fun bounds => Except.ok (TypeParameter.mk p.name bounds)) ?_
  exact RecordParts.optional_listPart (.types p.bounds) rfl (by simp [List.lookup_cons])

/-- A written type parameter has no list of bounds where there are none. -/
theorem sparse_write (p : TypeParameter) : p.write.Sparse (format.fields.map Prod.fst) [] := by
  refine ⟨_, rfl, Json.names_nonemptyField_sublist.cons_cons _, ?_⟩
  intro f hf hblank
  rcases List.mem_cons.mp hf with rfl | hf
  · exact absurd hblank (Json.not_isBlank_text _)
  · exact absurd hblank (Json.not_isBlank_of_mem_nonemptyField hf)

end TypeParameter

theorem AccessorKind.read_tag (k : AccessorKind) : read (.text k.tag) = .ok k := by
  cases k <;> rfl

namespace Property

theorem readFields_write (p : Property) :
    format.readFields
        [("name", .text p.name), ("accessor", .text p.accessor), ("kind", .text p.kind.tag),
          ("type", p.type.write), ("nullable", .bool p.nullable)] =
      .ok [("name", .text p.name), ("accessor", .text p.accessor), ("kind", .kind p.kind),
        ("type", .type p.type), ("nullable", .flag p.nullable)] := by
  refine RecordFormat.readFields_cons rfl rfl (RecordFormat.readFields_cons rfl rfl
    (RecordFormat.readFields_cons rfl ?_ (RecordFormat.readFields_cons rfl ?_
      (RecordFormat.readFields_cons rfl rfl (RecordFormat.readFields_nil format)))))
  · rw [AccessorKind.read_tag]
    rfl
  · rw [JavaType.read_write]
    rfl

theorem read_write (p : Property) : read p.write = .ok p := by
  rw [read, write, RecordFormat.read, readFields_write]
  rfl

/-- A property is written with all its fields. -/
theorem sparse_write (p : Property) : p.write.Sparse (format.fields.map Prod.fst) [] := by
  refine ⟨_, rfl, List.Sublist.refl _, ?_⟩
  intro f hf hblank
  simp only [List.mem_cons, List.not_mem_nil, or_false] at hf
  rcases hf with rfl | rfl | rfl | rfl | rfl
  · exact absurd hblank (Json.not_isBlank_text _)
  · exact absurd hblank (Json.not_isBlank_text _)
  · exact absurd hblank (Json.not_isBlank_text _)
  · exact absurd hblank p.type.not_isBlank_write
  · exact absurd hblank (Json.not_isBlank_bool _)

end Property

/-! ## Value types -/

namespace ValueType

theorem readFields_write (v : ValueType) :
    format.readFields
        (("name", .text v.name) :: ("package", .text v.package) ::
          (nonemptyField "enclosing" (v.enclosing.map .text) ++
            ("properties", .array (v.properties.map Property.write)) ::
              (nonemptyField "type_parameters" (v.typeParameters.map TypeParameter.write) ++
                nonemptyField "enum_constants" (v.enumConstants.map .text)))) =
      .ok (("name", .text v.name) :: ("package", .text v.package) ::
        (Json.listPart "enclosing" v.enclosing (.texts v.enclosing) ++
          ("properties", .properties v.properties) ::
            (Json.listPart "type_parameters" v.typeParameters (.typeParameters v.typeParameters) ++
              Json.listPart "enum_constants" v.enumConstants (.texts v.enumConstants)))) := by
  have hproperties : asList Property.read (.array (v.properties.map Property.write)) =
      .ok v.properties := Json.asList_map fun p _ => Property.read_write p
  have hparameters : asList TypeParameter.read
      (.array (v.typeParameters.map TypeParameter.write)) = .ok v.typeParameters :=
    Json.asList_map fun p _ => TypeParameter.read_write p
  refine RecordFormat.readFields_cons rfl rfl (RecordFormat.readFields_cons rfl rfl
    (RecordFormat.readFields_nonemptyField_append rfl ?_ (RecordFormat.readFields_cons rfl ?_
      (RecordFormat.readFields_nonemptyField_append rfl ?_
        (RecordFormat.readFields_nonemptyField rfl ?_)))))
  · rw [Json.asList_texts]
    rfl
  · rw [hproperties]
    rfl
  · rw [hparameters]
    rfl
  · rw [Json.asList_texts]
    rfl

theorem read_write (v : ValueType) : read v.write = .ok v := by
  rw [read, write, RecordFormat.read, readFields_write]
  have hrecord : ∀ {enclosing properties typeParameters enumConstants},
      enclosing = v.enclosing → properties = v.properties → typeParameters = v.typeParameters →
        enumConstants = v.enumConstants →
          (Except.ok ⟨v.name, v.package, enclosing, properties, typeParameters, enumConstants⟩ :
            Except Refusal ValueType) = .ok v := by
    rintro _ _ _ _ rfl rfl rfl rfl
    rfl
  refine hrecord ?enclosing ?properties ?typeParameters ?enumConstants
  case enclosing =>
    exact RecordParts.optional_listPart (.texts v.enclosing) rfl
      (by simp [List.lookup_cons, List.lookup_append])
  case properties => simp [RecordParts.optional, List.lookup_cons, List.lookup_append]
  case typeParameters =>
    exact RecordParts.optional_listPart (.typeParameters v.typeParameters) rfl
      (by simp [List.lookup_cons, List.lookup_append])
  case enumConstants =>
    exact RecordParts.optional_listPart (.texts v.enumConstants) rfl
      (by simp [List.lookup_cons, List.lookup_append])

/-- A written value type says nothing of enclosing types, type parameters and constants where it
has none; its package and its properties are always there. -/
theorem sparse_write (v : ValueType) :
    v.write.Sparse (format.fields.map Prod.fst) ["properties"] := by
  refine ⟨_, rfl, ?_, ?_⟩
  · simp only [List.map_cons, List.map_append]
    refine ((Json.names_nonemptyField_sublist.append (List.Sublist.cons_cons "properties" ?_)).cons_cons
      "package").cons_cons "name"
    exact Json.names_nonemptyField_sublist.append Json.names_nonemptyField_sublist
  · intro f hf hblank
    simp only [List.mem_cons, List.mem_append] at hf
    rcases hf with rfl | rfl | hf | rfl | hf | hf
    · exact absurd hblank (Json.not_isBlank_text _)
    · exact absurd hblank (Json.not_isBlank_text _)
    · exact absurd hblank (Json.not_isBlank_of_mem_nonemptyField hf)
    · exact List.mem_singleton_self _
    · exact absurd hblank (Json.not_isBlank_of_mem_nonemptyField hf)
    · exact absurd hblank (Json.not_isBlank_of_mem_nonemptyField hf)

theorem readAllFrom_map_write (vs : List ValueType) (i : Nat) :
    readAllFrom i (vs.map write) = .ok vs := by
  induction vs generalizing i with
  | nil => rfl
  | cons v vs ih =>
      rw [List.map_cons, readAllFrom, read_write]
      dsimp only
      rw [ih]
      rfl

end ValueType

/-- **What is written of value types reads back as the same value types.** A list of written value
types is a document, and what it holds is that list, whatever names, nested types and supertypes
stand in it. Nothing that is missing or empty is written, except an empty list of properties. -/
theorem value_types_read_back :
    (∀ vs : List ValueType, ValueType.ofTree (.array (vs.map ValueType.write)) = .ok vs) ∧
      (∀ v : ValueType,
        v.write.Sparse (ValueType.format.fields.map Prod.fst) ["properties"]) ∧
      (∀ p : Property, p.write.Sparse (Property.format.fields.map Prod.fst) []) ∧
      (∀ p : TypeParameter, p.write.Sparse (TypeParameter.format.fields.map Prod.fst) []) ∧
      (∀ t : JavaType, t.write.Sparse ("kind" :: t.shape.fields.map Prod.fst) []) :=
  ⟨fun vs => ValueType.readAllFrom_map_write vs 0, ValueType.sparse_write,
    Property.sparse_write, TypeParameter.sparse_write, JavaType.sparse_write⟩

end AssertionGen
