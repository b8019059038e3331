import DaoForge.Tree.Basic

/-!
# DaoForge.Proofs.Tree.Record

Records in which fields are left out are read back.

1. `namedFields_written`: of a record type every field is read that was written, and no other;
2. `asListOf?_map`, `defaulted_listed`: a list is read item by item, and an empty one may be left out;
3. `optional_map`: so may a value be that is never written as `null`.
-/

namespace DaoForge

namespace Tree

/-- The fields of a record type that are written, of those with a value. -/
def written (values : List (String × Option Tree)) : List (String × Tree) :=
  values.filterMap fun field => field.2.map fun value => (field.1, value)

/-- The entries of a record. -/
def entriesOf (fields : List (String × Tree)) : List (Key × Tree) :=
  fields.map fun field => (.name field.1, field.2)

@[simp]
theorem written_nil : written [] = [] := rfl

theorem written_cons (name : String) (value : Option Tree) (values : List (String × Option Tree)) :
    written ((name, value) :: values) = (value.toList.map fun tree => (name, tree)) ++ written values := by
  cases value <;> rfl

theorem name_of_mem_written {values : List (String × Option Tree)} {field : String × Tree}
    (h : field ∈ written values) : field.1 ∈ values.map Prod.fst := by
  obtain ⟨value, hvalue, hfield⟩ := List.mem_filterMap.mp h
  obtain ⟨tree, -, rfl⟩ := Option.map_eq_some_iff.mp hfield
  exact List.mem_map_of_mem hvalue

/-- The values of the field at a place are those of its name. -/
theorem valuesOf_entriesOf (names : List String) (place : Nat) (fields : List (String × Tree)) :
    valuesOf names place (entriesOf fields) =
      fields.filterMap fun field => if names[place]? == some field.1 then some field.2 else none :=
  List.filterMap_map

/-- At every place there is the value of the field, if it is written. -/
theorem valuesOf_written {values : List (String × Option Tree)} (h : (values.map Prod.fst).Nodup)
    {place : Nat} (hplace : place < values.length) :
    valuesOf (values.map Prod.fst) place (entriesOf (written values)) = values[place].2.toList := by
  rw [valuesOf_entriesOf]
  induction values generalizing place with
  | nil => contradiction
  | cons head rest ih =>
      obtain ⟨name, value⟩ := head
      rw [List.map_cons, List.nodup_cons] at h
      rw [written_cons, List.filterMap_append, List.map_cons]
      cases place with
      | zero =>
          have hrest : ∀ field ∈ written rest, name ≠ field.1 :=
            fun field hfield heq => h.1 (heq ▸ name_of_mem_written hfield)
          have hothers : ((written rest).filterMap fun field =>
              if (name :: rest.map Prod.fst)[0]? == some field.1 then some field.2 else none) = [] := by
            rw [List.filterMap_eq_nil_iff]
            intro field hfield
            simp [hrest field hfield]
          rw [hothers, List.append_nil]
          cases value <;> simp
      | succ place =>
          have hother : (rest.map Prod.fst)[place]? ≠ some name :=
            fun hname => h.1 (List.mem_of_getElem? hname)
          have hfirst : ((value.toList.map fun tree => (name, tree)).filterMap fun field =>
              if (rest.map Prod.fst)[place]? == some field.1 then some field.2 else none) = [] := by
            rw [List.filterMap_eq_nil_iff]
            intro field hfield
            obtain ⟨tree, -, rfl⟩ := List.mem_map.mp hfield
            rw [if_neg (by simpa using hother)]
          simp only [List.getElem?_cons_succ, List.getElem_cons_succ]
          rw [hfirst, List.nil_append, ih h.2 (Nat.lt_of_succ_lt_succ hplace)]

/-- Items that are read one by one. -/
theorem mapM_eq_some {α β : Type} {f : α → Option β} {g : α → β} {items : List α}
    (h : ∀ item ∈ items, f item = some (g item)) : items.mapM f = some (items.map g) := by
  induction items with
  | nil => rfl
  | cons item rest ih =>
      obtain ⟨hitem, hrest⟩ := List.forall_mem_cons.mp h
      rw [List.mapM_cons, hitem, ih hrest]
      rfl

/-- Every item that is read is read of some item. -/
theorem mem_of_mapM_eq_some {α β : Type} {f : α → Option β} {items : List α} {results : List β}
    (h : items.mapM f = some results) : ∀ b ∈ results, ∃ a ∈ items, f a = some b := by
  induction items generalizing results with
  | nil =>
      cases h
      exact fun b hb => nomatch hb
  | cons item rest ih =>
      rw [List.mapM_cons] at h
      obtain ⟨first, hfirst, h⟩ := Option.bind_eq_some_iff.mp h
      obtain ⟨others, hothers, h⟩ := Option.bind_eq_some_iff.mp h
      cases h
      intro b hb
      obtain rfl | hb := List.mem_cons.mp hb
      · exact ⟨item, List.mem_cons_self, hfirst⟩
      · obtain ⟨a, ha, hread⟩ := ih hothers b hb
        exact ⟨a, List.mem_cons_of_mem item ha, hread⟩

/-- Every field of a record type is read as it was written, or left out. -/
theorem namedFields_written {values : List (String × Option Tree)} (h : (values.map Prod.fst).Nodup) :
    namedFields (values.map Prod.fst) (entriesOf (written values)) = some (values.map Prod.snd) := by
  have hnamed : (entriesOf (written values)).any (·.1 == .other) = false := by
    simp [entriesOf]
  have hall : ((List.range values.length).map fun place => values[place]?.bind Prod.snd) =
      values.map Prod.snd := by
    refine List.ext_getElem (by simp) fun place hplace _ => ?_
    simp at hplace
    simp [hplace]
  rw [namedFields, hnamed, if_neg Bool.false_ne_true, List.length_map]
  refine (@mapM_eq_some _ _ _ (fun place => values[place]?.bind Prod.snd) _
    fun place hplace => ?_).trans (congrArg some hall)
  rw [List.mem_range] at hplace
  rw [valuesOf_written h hplace, List.getElem?_eq_getElem hplace, Option.bind_some]
  generalize values[place].2 = value
  cases value <;> rfl

theorem fields_written {values : List (String × Option Tree)} (h : (values.map Prod.fst).Nodup) :
    (record (written values)).fields (values.map Prod.fst) = some (values.map Prod.snd) :=
  namedFields_written h

/-! ## lists -/

theorem asListOf?_map {α : Type} {read : Tree → Option α} {write : α → Tree} {items : List α}
    (h : ∀ item ∈ items, read (write item) = some item) :
    asListOf? read (.list (items.map write)) = some items := by
  have hread : items.mapM (read ∘ write) = some (items.map id) := mapM_eq_some h
  rw [asListOf?, List.mapM_map, hread, List.map_id]

/-- A list as the value of a field, none if it is empty. -/
def listed {α : Type} (write : α → Tree) (items : List α) : Option Tree :=
  if items.isEmpty then none else some (.list (items.map write))

/-- An empty list may be left out. -/
theorem defaulted_listed {α : Type} {read : Tree → Option α} {write : α → Tree} {items : List α}
    (h : ∀ item ∈ items, read (write item) = some item) :
    defaulted (asListOf? read) [] (listed write items) = some items := by
  unfold listed
  split
  · next hempty => rw [List.isEmpty_iff.mp hempty, defaulted]
  · exact asListOf?_map h

/-- What holds of all that is read of an item holds of every item that is read of a list. -/
theorem forall_of_defaulted {α : Type} {read : Tree → Option α} {p : α → Prop}
    (h : ∀ tree, ∀ a ∈ read tree, p a) {value : Option Tree} {items : List α}
    (hread : defaulted (asListOf? read) [] value = some items) : ∀ a ∈ items, p a := by
  unfold defaulted at hread
  split at hread
  · cases hread
    exact fun a ha => nomatch ha
  unfold asListOf? at hread
  split at hread
  · next trees =>
    intro a ha
    obtain ⟨tree, -, hitem⟩ := mem_of_mapM_eq_some hread a ha
    exact h tree a hitem
  · contradiction

@[simp]
theorem defaulted_some {α : Type} (read : Tree → Option α) (default : α) (value : Tree) :
    defaulted read default (some value) = read value := rfl

@[simp]
theorem required_some {α : Type} (read : Tree → Option α) (value : Tree) :
    required read (some value) = read value := rfl

/-- A value that is there is not taken for one that was left out. -/
theorem optional_map {α : Type} {read : Tree → Option α} {write : α → Tree} {value : Option α}
    (hnull : ∀ a, write a ≠ .null) (h : ∀ a ∈ value, read (write a) = some a) :
    optional read (value.map write) = some value := by
  cases value with
  | none => rfl
  | some a =>
      have hread : optional read (some (write a)) = (read (write a)).map some := by
        unfold optional
        split
        · contradiction
        · next hsome => exact absurd (Option.some.inj hsome) (hnull a)
        · next hsome => rw [Option.some.inj hsome]
      rw [Option.map_some, hread, h a rfl, Option.map_some]

end Tree

end DaoForge
