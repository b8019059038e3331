import DaoForge.Declaration.Document
import DaoForge.Proofs.Tree.Record

/-!
# DaoForge.Proofs.Declaration.Proper

Annotations in which no argument is written twice, at any depth. Only such annotations come from
documents: of two arguments of one name reading keeps one (`MarkValue.proper_of_ofTree?`,
`Declaration.proper_of_ofTree?`).
-/

namespace DaoForge

namespace MarkValue

mutual

/-- No annotation in the value has two arguments of one name. -/
def Proper : MarkValue → Prop
  | .array items => ProperItems items
  | .nested _ arguments => (arguments.map Prod.fst).Nodup ∧ ProperArguments arguments
  | _ => True

/-- `Proper`, item by item. -/
def ProperItems : List MarkValue → Prop
  | [] => True
  | value :: rest => value.Proper ∧ ProperItems rest

/-- `Proper`, argument by argument. -/
def ProperArguments : List (String × MarkValue) → Prop
  | [] => True
  | (_, value) :: rest => value.Proper ∧ ProperArguments rest

end

theorem properItems_iff {items : List MarkValue} : ProperItems items ↔ ∀ v ∈ items, v.Proper := by
  induction items with
  | nil => simp [ProperItems]
  | cons v rest ih => simp [ProperItems, ih]

theorem properArguments_iff {arguments : List (String × MarkValue)} :
    ProperArguments arguments ↔ ∀ argument ∈ arguments, argument.2.Proper := by
  induction arguments with
  | nil => simp [ProperArguments]
  | cons argument rest ih => simp [ProperArguments, ih]

/-! ## reading -/

/-- Of two arguments of one name one is kept. -/
theorem nodup_consArgument {name : String} {value : MarkValue} {later : List (String × MarkValue)}
    (h : (later.map Prod.fst).Nodup) : ((consArgument name value later).map Prod.fst).Nodup := by
  unfold consArgument
  split
  · have hother : name ∉ (later.filter fun argument => argument.1 != name).map Prod.fst := by
      simp
    exact List.nodup_cons.mpr ⟨hother, h.sublist (List.filter_sublist.map _)⟩
  · next hnone =>
    refine List.nodup_cons.mpr ⟨fun hmem => ?_, h⟩
    obtain ⟨argument, hargument, hname⟩ := List.mem_map.mp hmem
    have hmiss := List.find?_eq_none.mp hnone argument hargument
    simp [hname] at hmiss

theorem properArguments_consArgument {name : String} {value : MarkValue}
    {later : List (String × MarkValue)} (hvalue : value.Proper) (h : ProperArguments later) :
    ProperArguments (consArgument name value later) := by
  rw [properArguments_iff] at h ⊢
  unfold consArgument
  split
  · next found last hlast =>
    have hlater : ∀ argument ∈ later, argument.2.Proper := h
    exact List.forall_mem_cons.mpr
      ⟨hlater (found, last) (List.mem_of_find?_eq_some hlast),
        fun argument ha => hlater argument (List.mem_filter.mp ha).1⟩
  · exact List.forall_mem_cons.mpr ⟨hvalue, h⟩

/-- What is read of a mapping has no annotation inside, or is one with the arguments that were read. -/
theorem proper_of_ofEntries? {entries : List (Key × Tree)}
    {arguments : Option (List (String × MarkValue))} {v : MarkValue}
    (harguments : ∀ as ∈ arguments, (as.map Prod.fst).Nodup ∧ ProperArguments as)
    (h : ofEntries? entries arguments = some v) : v.Proper := by
  simp only [ofEntries?, Option.orElse_eq_orElse, Option.orElse_eq_or, Option.or_eq_some_iff,
    Option.map_eq_some_iff, Option.bind_eq_bind, Option.bind_eq_some_iff] at h
  obtain ⟨_, -, rfl⟩ | ⟨-, ⟨_, -, rfl⟩ | ⟨-, name, -, as, has, h⟩⟩ := h
  · trivial
  · trivial
  · cases h
    exact harguments as has

mutual

/-- **Reading** makes no annotation with two arguments of one name. -/
theorem proper_of_ofTree? : (tree : Tree) → ∀ v ∈ ofTree? tree, v.Proper
  | .null => fun v h => nomatch h
  | .bool _ | .float _ | .text _ => fun v h => by
    cases h
    trivial
  | .int value => fun v h => by
    rw [ofTree?] at h
    split at h <;> (cases h; trivial)
  | .list items => fun v h => by
    rw [ofTree?] at h
    split at h
    · next values hvalues =>
      cases h
      exact properItems_of_ofTrees? items values hvalues
    · exact proper_of_ofPlaces? items v h
  | .mapping entries => fun v h => by
    rw [ofTree?] at h
    exact proper_of_ofEntries? (proper_of_argumentsOf? entries) h
  | .tagged _ _ => fun v h => nomatch h
termination_by tree => sizeOf tree

theorem properItems_of_ofTrees? : (items : List Tree) → ∀ vs ∈ ofTrees? items, ProperItems vs
  | [] => fun vs h => by
    cases h
    trivial
  | item :: rest => fun vs h => by
    rw [ofTrees?] at h
    obtain ⟨v, hv, h⟩ := Option.bind_eq_some_iff.mp h
    obtain ⟨later, hlater, h⟩ := Option.bind_eq_some_iff.mp h
    cases h
    exact ⟨proper_of_ofTree? item v hv, properItems_of_ofTrees? rest later hlater⟩
termination_by items => sizeOf items

theorem proper_of_ofPlaces? (items : List Tree) : ∀ v ∈ ofPlaces? items, v.Proper := fun v h => by
  unfold ofPlaces? at h
  split at h
  · next name entries =>
    obtain ⟨as, has, h⟩ := Option.bind_eq_some_iff.mp h
    cases h
    exact proper_of_ofArguments? entries as has
  · contradiction
termination_by sizeOf items

theorem proper_of_ofArguments? : (entries : List (Key × Tree)) →
    ∀ as ∈ ofArguments? entries, (as.map Prod.fst).Nodup ∧ ProperArguments as
  | [] => fun as h => by
    cases h
    exact ⟨List.nodup_nil, trivial⟩
  | (key, value) :: rest => fun as h => by
    rw [ofArguments?] at h
    obtain ⟨name, -, h⟩ := Option.bind_eq_some_iff.mp h
    obtain ⟨v, hv, h⟩ := Option.bind_eq_some_iff.mp h
    obtain ⟨later, hlater, h⟩ := Option.bind_eq_some_iff.mp h
    cases h
    obtain ⟨hnodup, hproper⟩ := proper_of_ofArguments? rest later hlater
    exact ⟨nodup_consArgument hnodup,
      properArguments_consArgument (proper_of_ofTree? value v hv) hproper⟩
termination_by entries => sizeOf entries

theorem proper_of_argumentsOf? : (entries : List (Key × Tree)) →
    ∀ as ∈ argumentsOf? entries, (as.map Prod.fst).Nodup ∧ ProperArguments as
  | [] => fun as h => by
    cases h
    exact ⟨List.nodup_nil, trivial⟩
  | (key, value) :: rest => fun as h => by
    unfold argumentsOf? at h
    split at h
    · split at h
      · next inner => exact proper_of_ofArguments? inner as h
      · contradiction
    · exact proper_of_argumentsOf? rest as h
termination_by entries => sizeOf entries

end

end MarkValue

/-! ## annotations and declarations -/

/-- No annotation in this one has two arguments of one name, nor has itself. -/
def Mark.Proper (a : Mark) : Prop := (MarkValue.nested a.name a.arguments).Proper

theorem Mark.proper_of_ofTree? {tree : Tree} {a : Mark} (h : Mark.ofTree? tree = some a) :
    a.Proper := by
  unfold Mark.ofTree? at h
  split at h
  · next entries =>
    obtain ⟨values, -, h⟩ := Option.bind_eq_some_iff.mp h
    obtain ⟨name, -, h⟩ := Option.bind_eq_some_iff.mp h
    obtain ⟨arguments, harguments, h⟩ := Option.bind_eq_some_iff.mp h
    cases h
    exact MarkValue.proper_of_argumentsOf? entries arguments harguments
  · cases h
    exact ⟨List.nodup_nil, trivial⟩
  · next entries =>
    obtain ⟨arguments, harguments, h⟩ := Option.bind_eq_some_iff.mp h
    cases h
    exact MarkValue.proper_of_ofArguments? entries arguments harguments
  · contradiction

open DaoForge.Tree

theorem Property.proper_of_ofTree? {tree : Tree} {p : Property} (h : Property.ofTree? tree = some p) :
    ∀ a ∈ p.annotations, a.Proper := by
  unfold Property.ofTree? at h
  split at h
  · obtain ⟨name, -, h⟩ := Option.bind_eq_some_iff.mp h
    obtain ⟨type, -, h⟩ := Option.bind_eq_some_iff.mp h
    obtain ⟨annotations, hannotations, h⟩ := Option.bind_eq_some_iff.mp h
    cases h
    exact forall_of_defaulted (fun _ _ => Mark.proper_of_ofTree?) hannotations
  · contradiction

theorem Function.proper_of_ofTree? {tree : Tree} {f : Function} (h : Function.ofTree? tree = some f) :
    ∀ a ∈ f.annotations, a.Proper := by
  unfold Function.ofTree? at h
  split at h
  · obtain ⟨name, -, h⟩ := Option.bind_eq_some_iff.mp h
    obtain ⟨parameters, -, h⟩ := Option.bind_eq_some_iff.mp h
    obtain ⟨returnType, -, h⟩ := Option.bind_eq_some_iff.mp h
    obtain ⟨annotations, hannotations, h⟩ := Option.bind_eq_some_iff.mp h
    obtain ⟨isAbstract, -, h⟩ := Option.bind_eq_some_iff.mp h
    cases h
    exact forall_of_defaulted (fun _ _ => Mark.proper_of_ofTree?) hannotations
  · contradiction

namespace Declaration

/-- The annotations of a declaration and of its members. -/
def marks (d : Declaration) : List Mark :=
  d.annotations ++ d.properties.flatMap Property.annotations ++
    d.functions.flatMap Function.annotations

theorem forall_mem_marks {d : Declaration} {p : Mark → Prop} :
    (∀ a ∈ d.marks, p a) ↔ (∀ a ∈ d.annotations, p a) ∧
      (∀ property ∈ d.properties, ∀ a ∈ property.annotations, p a) ∧
      ∀ function ∈ d.functions, ∀ a ∈ function.annotations, p a := by
  simp only [marks, List.append_assoc, List.forall_mem_append, List.forall_mem_flatMap]

/-- No **declaration** that is read of a document has an annotation with two arguments of one name. -/
theorem proper_of_ofTree? {tree : Tree} {d : Declaration} (h : Declaration.ofTree? tree = some d) :
    ∀ a ∈ d.marks, a.Proper := by
  unfold Declaration.ofTree? at h
  split at h
  · obtain ⟨qualifiedName, -, h⟩ := Option.bind_eq_some_iff.mp h
    obtain ⟨kind, -, h⟩ := Option.bind_eq_some_iff.mp h
    obtain ⟨annotations, hannotations, h⟩ := Option.bind_eq_some_iff.mp h
    obtain ⟨properties, hproperties, h⟩ := Option.bind_eq_some_iff.mp h
    obtain ⟨functions, hfunctions, h⟩ := Option.bind_eq_some_iff.mp h
    obtain ⟨constructor, -, h⟩ := Option.bind_eq_some_iff.mp h
    obtain ⟨supertypes, -, h⟩ := Option.bind_eq_some_iff.mp h
    cases h
    exact forall_mem_marks.mpr
      ⟨forall_of_defaulted (fun _ _ => Mark.proper_of_ofTree?) hannotations,
        forall_of_defaulted (fun _ _ => Property.proper_of_ofTree?) hproperties,
        forall_of_defaulted (fun _ _ => Function.proper_of_ofTree?) hfunctions⟩
  · contradiction

end Declaration

end DaoForge
