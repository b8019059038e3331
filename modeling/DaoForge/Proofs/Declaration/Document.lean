import DaoForge.Proofs.Declaration.Proper
import DaoForge.Proofs.Tree.Record

/-!
# DaoForge.Proofs.Declaration.Document

What is written of a declaration is read back. A field is left out exactly where its default restores
it, and of the forms that a value can have the first one that fits is the one that was written.

1. `TypeExpr.ofTree?_toTree`, `MarkValue.ofTree?_toTree`: types and values, by induction on what is
   inside; an annotation must not have two arguments of one name (`MarkValue.Proper`);
2. `Mark.ofTree?_toTree` and, of each record, `ofTree?_toTree`: annotations and members, whose fields
   are read in their order (`fields_written`);
3. `Declaration.survives_document`: declarations, among them all that were read of a document.
-/

namespace DaoForge

open DaoForge.Tree

/-! ## types -/

namespace TypeExpr

theorem toTrees_eq_map (ts : List TypeExpr) : toTrees ts = ts.map toTree := by
  induction ts with
  | nil => rfl
  | cons t rest ih => rw [toTrees, ih, List.map_cons]

/-- The fields of a type. -/
def fieldValues (name : String) (nullable : Bool) (arguments : List TypeExpr) :
    List (String × Option Tree) :=
  [("name", some (.text name)), ("nullable", if nullable then some (.bool true) else none),
    ("arguments", listed toTree arguments)]

theorem toTree_eq (name : String) (nullable : Bool) (arguments : List TypeExpr) :
    toTree ⟨name, nullable, arguments⟩ = .record (written (fieldValues name nullable arguments)) := by
  rw [toTree, toTrees_eq_map]
  cases nullable <;> cases arguments <;> rfl

theorem ofTree?_mapping (entries : List (Key × Tree)) :
    ofTree? (.mapping entries) = (namedFields fieldNames entries).bind fun values =>
      (argumentsOf? entries).bind fun arguments => ofTree?.build (values.take 2) arguments := rfl

/-- The arguments stand behind the name and the flag, or are left out. -/
theorem argumentsOf?_written (name : String) (nullable : Bool) (arguments : List TypeExpr) :
    argumentsOf? (entriesOf (written (fieldValues name nullable arguments))) =
      ofTrees? (arguments.map toTree) := by
  cases nullable <;> cases arguments <;> rfl

mutual

/-- A **type** is read back. -/
theorem ofTree?_toTree : (t : TypeExpr) → ofTree? t.toTree = some t
  | ⟨name, nullable, arguments⟩ => by
    have hfields : namedFields fieldNames (entriesOf (written (fieldValues name nullable arguments))) =
        some ((fieldValues name nullable arguments).map Prod.snd) :=
      @namedFields_written (fieldValues name nullable arguments)
        (show fieldNames.Nodup from by decide)
    have harguments := argumentsOf?_written name nullable arguments
    rw [ofTrees?_toTrees arguments] at harguments
    rw [toTree_eq, record, ← entriesOf, ofTree?_mapping, hfields, harguments]
    cases nullable <;> rfl

theorem ofTrees?_toTrees : (ts : List TypeExpr) → ofTrees? (ts.map toTree) = some ts
  | [] => rfl
  | t :: rest => by
    rw [List.map_cons, ofTrees?, ofTree?_toTree t, ofTrees?_toTrees rest]
    rfl

end

end TypeExpr

/-! ## annotations -/

namespace MarkValue

theorem toTrees_eq_map (values : List MarkValue) : toTrees values = values.map toTree := by
  induction values with
  | nil => rfl
  | cons value rest ih => rw [toTrees, ih, List.map_cons]

theorem asInt64?_toInt (value : Int64) : (Tree.int value.toInt).asInt64? = some value := by
  rw [asInt64?, if_pos ⟨value.minValue_le_toInt, value.toInt_le⟩, Int64.ofInt_toInt]

/-- Of a record with a type only a type literal can be read. -/
theorem ofEntries?_class (t : TypeExpr) (arguments : Option (List (String × MarkValue))) :
    ofEntries? [(.name "class", t.toTree)] arguments = some (.type t) := by
  have hfields : namedFields ["class"] [(.name "class", t.toTree)] = some [some t.toTree] := rfl
  simp [ofEntries?, hfields, TypeExpr.ofTree?_toTree]

/-- Of a record with a constant's name only an enum literal can be read. -/
theorem ofEntries?_enum (name : String) (arguments : Option (List (String × MarkValue))) :
    ofEntries? [(.name "enum", .text name)] arguments = some (.constant name) := rfl

/-- The fields of an annotation. -/
def fieldValues (name : String) (arguments : List (String × MarkValue)) :
    List (String × Option Tree) :=
  [("name", some (.text name)),
    ("arguments", if arguments.isEmpty then none else some (.record (toFields arguments)))]

theorem toTree_nested (name : String) (arguments : List (String × MarkValue)) :
    toTree (.nested name arguments) = .record (written (fieldValues name arguments)) := by
  rw [toTree, fieldValues]
  cases arguments <;> rfl

/-- Of the record of an annotation no literal can be read, for it has other fields. -/
theorem ofEntries?_nested (name : String) (arguments : List (String × MarkValue)) :
    ofEntries? (entriesOf (written (fieldValues name arguments))) (some arguments) =
      some (.nested name arguments) := by
  cases arguments <;> rfl

theorem argumentsOf?_written (name : String) (arguments : List (String × MarkValue)) :
    argumentsOf? (entriesOf (written (fieldValues name arguments))) =
      ofArguments? (entriesOf (toFields arguments)) := by
  cases arguments <;> rfl

/-- An argument in front of others of other names. -/
theorem consArgument_of_new {name : String} {value : MarkValue} {later : List (String × MarkValue)}
    (h : name ∉ later.map Prod.fst) : consArgument name value later = (name, value) :: later := by
  have hnone : (later.find? fun argument => argument.1 == name) = none := by
    rw [List.find?_eq_none]
    intro argument hargument hname
    exact h (List.mem_map.mpr ⟨argument, hargument, by simpa using hname⟩)
  rw [consArgument, hnone]

mutual

/-- A **value** is read back in the form from which it was written. -/
theorem ofTree?_toTree : (value : MarkValue) → value.Proper → ofTree? value.toTree = some value
  | .bool _, _ | .float _, _ | .text _, _ => rfl
  | .integer value, _ => by rw [toTree, ofTree?, asInt64?_toInt]
  | .array items, h => by
    rw [toTree, toTrees_eq_map, ofTree?, ofTrees?_toTrees items h]
  | .type t, _ => ofEntries?_class t _
  | .constant name, _ => ofEntries?_enum name _
  | .nested name arguments, h => by
    rw [toTree_nested, record, ← entriesOf, ofTree?, argumentsOf?_written,
      ofArguments?_toFields arguments h.1 h.2, ofEntries?_nested]

theorem ofTrees?_toTrees :
    (values : List MarkValue) → ProperItems values → ofTrees? (values.map toTree) = some values
  | [], _ => rfl
  | value :: rest, h => by
    rw [List.map_cons, ofTrees?, ofTree?_toTree value h.1, ofTrees?_toTrees rest h.2]
    rfl

theorem ofArguments?_toFields : (arguments : List (String × MarkValue)) →
    (arguments.map Prod.fst).Nodup → ProperArguments arguments →
    ofArguments? (entriesOf (toFields arguments)) = some arguments
  | [], _, _ => rfl
  | (name, value) :: rest, hnodup, h => by
    obtain ⟨hnew, hnodup⟩ := List.nodup_cons.mp hnodup
    have hrest := ofArguments?_toFields rest hnodup h.2
    rw [toFields, entriesOf, List.map_cons, ← entriesOf, ofArguments?, ofTree?_toTree value h.1, hrest]
    exact congrArg some (consArgument_of_new hnew)

end

end MarkValue

namespace Mark

theorem ofTree?_mapping (entries : List (Key × Tree)) :
    ofTree? (.mapping entries) = (namedFields MarkValue.fieldNames entries).bind fun values =>
      (required asText? values.head?.join).bind fun name =>
        (MarkValue.argumentsOf? entries).bind fun arguments => some ⟨name, arguments⟩ := rfl

/-- An **annotation** is read back. -/
theorem ofTree?_toTree {a : Mark} (h : a.Proper) : Mark.ofTree? a.toTree = some a := by
  obtain ⟨name, arguments⟩ := a
  have hfields : namedFields MarkValue.fieldNames
      (entriesOf (written (MarkValue.fieldValues name arguments))) =
        some ((MarkValue.fieldValues name arguments).map Prod.snd) :=
    @namedFields_written (MarkValue.fieldValues name arguments)
      (show MarkValue.fieldNames.Nodup from by decide)
  rw [toTree, MarkValue.toTree_nested, record, ← entriesOf, ofTree?_mapping, hfields,
    MarkValue.argumentsOf?_written, MarkValue.ofArguments?_toFields arguments h.1 h.2]
  rfl

end Mark

/-! ## members -/

theorem listField_eq {α : Type} (name : String) (write : α → Tree) (items : List α) :
    listField name write items = (listed write items).toList.map fun tree => (name, tree) := by
  cases items <;> rfl

/-- Annotations are read back one by one. -/
theorem defaulted_marks {annotations : List Mark} (h : ∀ a ∈ annotations, a.Proper) :
    defaulted (asListOf? Mark.ofTree?) [] (listed Mark.toTree annotations) = some annotations :=
  defaulted_listed fun a ha => Mark.ofTree?_toTree (h a ha)

theorem Parameter.ofTree?_toTree (p : Parameter) : Parameter.ofTree? p.toTree = some p := by
  have hfields : p.toTree.fields ["name", "type"] = some [some (.text p.name), some p.type.toTree] :=
    @fields_written [("name", some (.text p.name)), ("type", some p.type.toTree)]
      (show ["name", "type"].Nodup from by decide)
  rw [Parameter.ofTree?, hfields]
  simp [asText?, TypeExpr.ofTree?_toTree]

theorem Property.ofTree?_toTree {p : Property} (h : ∀ a ∈ p.annotations, a.Proper) :
    Property.ofTree? p.toTree = some p := by
  have htree : p.toTree = .record (written [("name", some (.text p.name)),
      ("type", some p.type.toTree), ("annotations", listed Mark.toTree p.annotations)]) := by
    simp [Property.toTree, listField_eq, written_cons]
  have hfields : p.toTree.fields ["name", "type", "annotations"] =
      some [some (.text p.name), some p.type.toTree, listed Mark.toTree p.annotations] := by
    rw [htree]
    exact fields_written (show ["name", "type", "annotations"].Nodup from by decide)
  rw [Property.ofTree?, hfields]
  simp [asText?, TypeExpr.ofTree?_toTree, defaulted_marks h]

theorem Constructor.ofTree?_toTree (c : Constructor) : Constructor.ofTree? c.toTree = some c := by
  have hfields : c.toTree.fields ["name", "parameters"] =
      some [some (.text c.name), some (.list (c.parameters.map Parameter.toTree))] :=
    @fields_written [("name", some (.text c.name)),
      ("parameters", some (.list (c.parameters.map Parameter.toTree)))]
      (show ["name", "parameters"].Nodup from by decide)
  rw [Constructor.ofTree?, hfields]
  simp [asText?, asListOf?_map fun p _ => Parameter.ofTree?_toTree p]

/-- A type is never written as `null`. -/
theorem TypeExpr.toTree_ne_null (t : TypeExpr) : t.toTree ≠ .null := by
  obtain ⟨name, nullable, arguments⟩ := t
  simp [TypeExpr.toTree, record]

theorem Function.ofTree?_toTree {f : Function} (h : ∀ a ∈ f.annotations, a.Proper) :
    Function.ofTree? f.toTree = some f := by
  have htree : f.toTree = .record (written [("name", some (.text f.name)),
      ("parameters", listed Parameter.toTree f.parameters),
      ("return_type", f.returnType.map TypeExpr.toTree),
      ("annotations", listed Mark.toTree f.annotations),
      ("is_abstract", some (.bool f.isAbstract))]) := by
    cases hreturn : f.returnType <;>
      simp [Function.toTree, listField_eq, written_cons, hreturn]
  have hfields : f.toTree.fields
      ["name", "parameters", "return_type", "annotations", "is_abstract"] =
      some [some (.text f.name), listed Parameter.toTree f.parameters,
        f.returnType.map TypeExpr.toTree, listed Mark.toTree f.annotations,
        some (.bool f.isAbstract)] := by
    rw [htree]
    exact fields_written
      (show ["name", "parameters", "return_type", "annotations", "is_abstract"].Nodup from by decide)
  rw [Function.ofTree?, hfields]
  simp [asText?, asBool?, defaulted_listed fun p _ => Parameter.ofTree?_toTree p, defaulted_marks h,
    optional_map TypeExpr.toTree_ne_null fun t _ => TypeExpr.ofTree?_toTree t]

/-! ## declarations -/

namespace Declaration

theorem ofTree?_toTree {d : Declaration} (h : ∀ a ∈ d.marks, a.Proper) :
    Declaration.ofTree? d.toTree = some d := by
  obtain ⟨hannotations, hproperties, hfunctions⟩ := forall_mem_marks.mp h
  have hconstructor : ∀ c : Constructor, c.toTree ≠ .null := fun c => by
    simp [Constructor.toTree, record]
  have htree : d.toTree = .record (written [("qualified_name", some (.text d.qualifiedName)),
      ("kind", some (.text d.kind.word)), ("annotations", listed Mark.toTree d.annotations),
      ("properties", listed Property.toTree d.properties),
      ("functions", listed Function.toTree d.functions),
      ("constructor", d.constructor.map Constructor.toTree),
      ("supertypes", listed TypeExpr.toTree d.supertypes)]) := by
    cases hconstructor : d.constructor <;>
      simp [Declaration.toTree, listField_eq, written_cons, hconstructor]
  have hfields : d.toTree.fields ["qualified_name", "kind", "annotations", "properties", "functions",
      "constructor", "supertypes"] =
      some [some (.text d.qualifiedName), some (.text d.kind.word),
        listed Mark.toTree d.annotations, listed Property.toTree d.properties,
        listed Function.toTree d.functions, d.constructor.map Constructor.toTree,
        listed TypeExpr.toTree d.supertypes] := by
    rw [htree]
    exact fields_written (show ["qualified_name", "kind", "annotations", "properties", "functions",
      "constructor", "supertypes"].Nodup from by decide)
  rw [Declaration.ofTree?, hfields]
  simp [asText?, defaulted_marks hannotations, DeclarationKind.ofTree?_word,
    defaulted_listed fun p hp => Property.ofTree?_toTree (hproperties p hp),
    defaulted_listed fun f hf => Function.ofTree?_toTree (hfunctions f hf),
    optional_map hconstructor fun c _ => Constructor.ofTree?_toTree c,
    defaulted_listed fun t _ => TypeExpr.ofTree?_toTree t]

/-- **Declarations survive a document.** Whatever the annotations hold, a declaration is read as it
was written, and so is each value in them, in its own form. No argument may be there twice; of what
was read none is, so a declaration that was read can be written again. -/
theorem survives_document :
    (∀ d : Declaration, (∀ a ∈ d.marks, a.Proper) → Declaration.ofTree? d.toTree = some d) ∧
      (∀ v : MarkValue, v.Proper → MarkValue.ofTree? v.toTree = some v) ∧
      ∀ (tree : Tree) (d : Declaration), Declaration.ofTree? tree = some d →
        Declaration.ofTree? d.toTree = some d :=
  ⟨fun _ h => ofTree?_toTree h, MarkValue.ofTree?_toTree,
    fun _ _ h => ofTree?_toTree (proper_of_ofTree? h)⟩

/-- A book: annotations within annotations, literals of each kind, fields with and without their
defaults. -/
def bookSample : Declaration where
  qualifiedName := "app::Book"
  annotations :=
    [{ name := "Entity"
       arguments :=
         [("tableName", .text "books"),
          ("indices", .array
            [.nested "Index" [("columns", .array [.text "title"]), ("orders", .constant "ASC")],
             .nested "Index" []]),
          ("foreignKeys", .nested "ForeignKey"
            [("entity", .type { name := "Option", arguments := [.ofName "app::Author"] }),
             ("deferred", .bool true)])] }]
  properties :=
    [{ name := "id", type := .ofName "i64", annotations := [{ name := "PrimaryKey" }] },
     { name := "title", type := { name := "String", nullable := true } }]
  functions := [{ name := "describe", returnType := some (.ofName "String"), isAbstract := false }]
  constructor := some { name := "new", parameters := [{ name := "id", type := .ofName "i64" }] }

/-- The book is read back; its supertypes, of which it has none, were left out. -/
theorem survives_document_book :
    (∀ a ∈ bookSample.marks, a.Proper) ∧
      Declaration.ofTree? bookSample.toTree = some bookSample ∧
      bookSample.toTree.fields ["supertypes"] = some [none] := by
  have hproper : ∀ a ∈ bookSample.marks, a.Proper := by
    simp [bookSample, marks, Mark.Proper, MarkValue.Proper, MarkValue.ProperItems,
      MarkValue.ProperArguments]
  exact ⟨hproper, survives_document.1 bookSample hproper, rfl⟩

end Declaration

end DaoForge
