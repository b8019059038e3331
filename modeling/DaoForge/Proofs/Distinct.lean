import DaoForge.Schema.Dao
import Mathlib.Data.List.Induction
import Mathlib.Data.List.Nodup

/-!
# DaoForge.Proofs.Distinct

The first item of each key: `distinctBy` takes items in one by one (`keepNew`).

1. it keeps what it has taken and takes nothing else (`mem_of_mem_distinctBy`);
2. the keys are those of all items, each once (`mem_map_distinctBy`, `nodup_distinctBy`);
3. items whose keys tell them apart are all kept (`mem_distinctBy_iff`), and in their order if the
   keys are distinct (`distinctBy_of_nodup`); of others the first of its key is
   (`mem_distinctBy_iff_find?`);
4. the distinct items of a list are the same without what came before
   (`distinct_append_flatMap_distinctBy`, `distinct_append_flatMap_of_subset`).
-/

namespace DaoForge

variable {α β : Type} [DecidableEq β] {key : α → β}

/-- Takes in an item unless one of its key was taken. -/
def keepNew (key : α → β) (taken : List α) (item : α) : List α :=
  if key item ∈ taken.map key then taken else taken ++ [item]

/-- Takes in items, in order. -/
def keepAll (key : α → β) (taken items : List α) : List α := items.foldl (keepNew key) taken

theorem distinctBy_eq_keepAll (key : α → β) (items : List α) :
    distinctBy key items = keepAll key [] items := rfl

/-! ## one item -/

theorem mem_keepNew {taken : List α} {item x : α} (h : x ∈ keepNew key taken item) :
    x ∈ taken ∨ x = item := by
  unfold keepNew at h
  split at h
  · exact .inl h
  · simpa using h

theorem mem_map_keepNew {taken : List α} {item : α} {k : β} :
    k ∈ (keepNew key taken item).map key ↔ k ∈ taken.map key ∨ k = key item := by
  unfold keepNew
  split
  · next hmem =>
    constructor
    · exact .inl
    · rintro (h | rfl)
      · exact h
      · exact hmem
  · rw [List.map_append, List.mem_append, List.map_singleton, List.mem_singleton]

theorem nodup_keepNew {taken : List α} (h : (taken.map key).Nodup) (item : α) :
    ((keepNew key taken item).map key).Nodup := by
  unfold keepNew
  split
  · exact h
  · next hnew =>
    rw [List.map_append, List.map_singleton]
    exact h.append (List.nodup_singleton _) (by simpa using hnew)

/-! ## all items -/

theorem mem_keepAll {taken items : List α} {x : α} (h : x ∈ keepAll key taken items) :
    x ∈ taken ∨ x ∈ items := by
  induction items generalizing taken with
  | nil => exact .inl h
  | cons item rest ih =>
      rcases ih h with hmem | hmem
      · rcases mem_keepNew hmem with hmem | rfl
        · exact .inl hmem
        · exact .inr List.mem_cons_self
      · exact .inr (List.mem_cons_of_mem _ hmem)

theorem mem_map_keepAll {taken items : List α} {k : β} :
    k ∈ (keepAll key taken items).map key ↔ k ∈ taken.map key ∨ k ∈ items.map key := by
  induction items generalizing taken with
  | nil => simp [keepAll]
  | cons item rest ih =>
      have hrest : k ∈ (keepAll key taken (item :: rest)).map key ↔ _ := ih
      rw [hrest, mem_map_keepNew, List.map_cons, List.mem_cons, or_assoc]

theorem nodup_keepAll {taken : List α} (h : (taken.map key).Nodup) (items : List α) :
    ((keepAll key taken items).map key).Nodup := by
  induction items generalizing taken with
  | nil => exact h
  | cons item rest ih => exact ih (nodup_keepNew h item)

theorem nodup_distinctBy (key : α → β) (items : List α) : ((distinctBy key items).map key).Nodup := by
  have hempty : (([] : List α).map key).Nodup := List.nodup_nil
  exact nodup_keepAll hempty items

theorem mem_map_distinctBy {items : List α} {k : β} :
    k ∈ (distinctBy key items).map key ↔ k ∈ items.map key := by
  rw [distinctBy_eq_keepAll, mem_map_keepAll]
  simp

theorem mem_of_mem_distinctBy {items : List α} {x : α} (h : x ∈ distinctBy key items) :
    x ∈ items := by
  rw [distinctBy_eq_keepAll] at h
  rcases mem_keepAll h with hmem | hmem
  · cases hmem
  · exact hmem

/-- Items that their keys tell apart are all kept. -/
theorem mem_distinctBy_iff {items : List α} {x : α}
    (hkey : ∀ x ∈ items, ∀ y ∈ items, key x = key y → x = y) :
    x ∈ distinctBy key items ↔ x ∈ items := by
  refine ⟨mem_of_mem_distinctBy, fun hx => ?_⟩
  have hmem : key x ∈ (distinctBy key items).map key :=
    mem_map_distinctBy.mpr (List.mem_map_of_mem hx)
  obtain ⟨y, hy, heq⟩ := List.mem_map.mp hmem
  rw [hkey x hx y (mem_of_mem_distinctBy hy) heq.symm]
  exact hy

/-- Items with distinct keys are all kept, in their order. -/
theorem keepAll_of_nodup {taken items : List α} (h : ((taken ++ items).map key).Nodup) :
    keepAll key taken items = taken ++ items := by
  induction items generalizing taken with
  | nil => exact (List.append_nil taken).symm
  | cons item rest ih =>
      have hnew : key item ∉ taken.map key := by
        rw [List.map_append, List.map_cons, List.nodup_append] at h
        exact fun hmem => h.2.2 _ hmem _ List.mem_cons_self rfl
      have hstep : keepNew key taken item = taken ++ [item] := if_neg hnew
      have hsplit : taken ++ item :: rest = (taken ++ [item]) ++ rest := by simp
      rw [hsplit] at h ⊢
      rw [← ih h, ← hstep]
      rfl

theorem distinctBy_of_nodup {items : List α} (h : (items.map key).Nodup) :
    distinctBy key items = items := keepAll_of_nodup h

/-- An item is kept iff it is the first of its key. -/
theorem mem_distinctBy_iff_find? {items : List α} {x : α} :
    x ∈ distinctBy key items ↔ items.find? (fun y => key y == key x) = some x := by
  induction items using List.reverseRecOn with
  | nil => simp [distinctBy]
  | append_singleton items y ih =>
      have hstep : distinctBy key (items ++ [y]) = keepNew key (distinctBy key items) y :=
        List.foldl_append
      rw [hstep, keepNew, List.find?_append]
      simp only [mem_map_distinctBy]
      by_cases hseen : key y ∈ items.map key
      · rw [if_pos hseen, ih]
        cases hfind : items.find? (fun y => key y == key x) with
        | some first => rw [Option.some_or]
        | none =>
            have hother : key y ≠ key x := by
              intro heq
              obtain ⟨z, hz, hkey⟩ := List.mem_map.mp hseen
              have hmiss := List.find?_eq_none.mp hfind z hz
              simp [hkey, heq] at hmiss
            simp [hother]
      · rw [if_neg hseen, List.mem_append, List.mem_singleton, ih]
        cases hfind : items.find? (fun y => key y == key x) with
        | some first =>
            have hkey := List.find?_some hfind
            have hother : x ≠ y := by
              rintro rfl
              have hmem := List.mem_of_find?_eq_some hfind
              exact hseen (List.mem_map.mpr ⟨first, hmem, by simpa using hkey⟩)
            simp [hother]
        | none =>
            by_cases heq : x = y
            · simp [heq]
            · simp [heq, Ne.symm heq]

theorem keepAll_append (taken items rest : List α) :
    keepAll key taken (items ++ rest) = keepAll key (keepAll key taken items) rest :=
  List.foldl_append

/-- The distinct items are the items of distinct keys, each its own key. -/
theorem distinct_eq_distinctBy [DecidableEq α] (items : List α) :
    distinct items = distinctBy id items := by
  have hstep : (addNew : List α → α → List α) = keepNew id := by
    funext taken item
    rw [addNew, keepNew, List.map_id]
    rfl
  rw [distinct, hstep]
  rfl

theorem mem_distinct [DecidableEq α] {items : List α} {x : α} : x ∈ distinct items ↔ x ∈ items := by
  rw [distinct_eq_distinctBy]
  exact mem_distinctBy_iff fun _ _ _ _ heq => heq

theorem distinct_eq_nil_iff [DecidableEq α] {items : List α} : distinct items = [] ↔ items = [] := by
  constructor
  · intro h
    rw [List.eq_nil_iff_forall_not_mem] at h ⊢
    intro x hx
    exact h x (mem_distinct.mpr hx)
  · rintro rfl
    rfl

/-! ## distinct items of several lists -/

/-- Items whose keys were taken add nothing. -/
theorem keepAll_of_subset {taken items : List α} (h : ∀ x ∈ items, key x ∈ taken.map key) :
    keepAll key taken items = taken := by
  induction items with
  | nil => rfl
  | cons item rest ih =>
      obtain ⟨hitem, hrest⟩ := List.forall_mem_cons.mp h
      have hstep : keepNew key taken item = taken := if_pos hitem
      have hsame : keepAll key taken (item :: rest) = keepAll key (keepNew key taken item) rest := rfl
      rw [hsame, hstep, ih hrest]

theorem nodup_distinct [DecidableEq α] (items : List α) : (distinct items).Nodup := by
  rw [distinct_eq_distinctBy]
  have hnodup := nodup_distinctBy id items
  rwa [List.map_id] at hnodup

theorem distinct_append [DecidableEq α] (items rest : List α) :
    distinct (items ++ rest) = keepAll id (distinct items) rest := by
  rw [distinct_eq_distinctBy, distinct_eq_distinctBy, distinctBy_eq_keepAll, keepAll_append]
  rfl

theorem distinct_append_of_subset [DecidableEq α] {items rest : List α} (h : rest ⊆ items) :
    distinct (items ++ rest) = distinct items := by
  rw [distinct_append]
  refine keepAll_of_subset fun x hx => ?_
  rw [List.map_id]
  exact mem_distinct.mpr (h hx)

/-- What comes before only matters for which items it has, each where it is first. -/
theorem distinct_append_congr [DecidableEq α] {items items' : List α}
    (h : distinct items = distinct items') (rest : List α) :
    distinct (items ++ rest) = distinct (items' ++ rest) := by
  rw [distinct_append, distinct_append, h]

theorem distinct_concat [DecidableEq α] (items : List α) (x : α) :
    distinct (items ++ [x]) = if x ∈ items then distinct items else distinct items ++ [x] := by
  have hstep : distinct (items ++ [x]) = addNew (distinct items) x := List.foldl_append
  rw [hstep, addNew]
  simp only [mem_distinct]

theorem distinct_append_distinct [DecidableEq α] (before items : List α) :
    distinct (before ++ distinct items) = distinct (before ++ items) := by
  induction items using List.reverseRecOn with
  | nil => rfl
  | append_singleton items x ih =>
      rw [distinct_concat, ← List.append_assoc]
      split
      · next hmem =>
        have hsubset : [x] ⊆ before ++ items := by simp [hmem]
        rw [ih, distinct_append_of_subset hsubset]
      · rw [← List.append_assoc]
        exact distinct_append_congr ih [x]

/-- Items that their keys tell apart need be looked at once only. -/
theorem distinct_append_flatMap_distinctBy {γ : Type} [DecidableEq γ] {f : α → List γ}
    {items : List α} (before : List γ)
    (hkey : ∀ x ∈ items, ∀ y ∈ items, key x = key y → f x = f y) :
    distinct (before ++ (distinctBy key items).flatMap f) = distinct (before ++ items.flatMap f) := by
  induction items using List.reverseRecOn with
  | nil => rfl
  | append_singleton items x ih =>
      have hitems : ∀ y ∈ items, ∀ z ∈ items, key y = key z → f y = f z := fun y hy z hz =>
        hkey y (List.mem_append_left _ hy) z (List.mem_append_left _ hz)
      have hstep : distinctBy key (items ++ [x]) = keepNew key (distinctBy key items) x :=
        List.foldl_append
      rw [hstep, keepNew, List.flatMap_append, List.flatMap_singleton, ← List.append_assoc]
      split
      · next hmem =>
        obtain ⟨y, hy, hname⟩ := List.mem_map.mp (mem_map_distinctBy.mp hmem)
        have hsame : f x = f y :=
          (hkey y (List.mem_append_left _ hy) x (by simp) hname).symm
        have hsubset : f x ⊆ before ++ items.flatMap f := by
          rw [hsame]
          exact fun k hk => List.mem_append_right _ (List.mem_flatMap.mpr ⟨y, hy, hk⟩)
        rw [ih hitems, distinct_append_of_subset hsubset]
      · rw [List.flatMap_append, List.flatMap_singleton, ← List.append_assoc]
        exact distinct_append_congr (ih hitems) (f x)

/-- Further items that came before all of them add nothing. -/
theorem distinct_append_flatMap_of_subset {γ δ : Type} [DecidableEq γ] {f g : δ → List γ}
    {items : List δ} {before : List γ} (h : ∀ x ∈ items, g x ⊆ before) :
    distinct (before ++ items.flatMap fun x => distinct (f x ++ g x)) =
      distinct (before ++ items.flatMap f) := by
  induction items using List.reverseRecOn with
  | nil => rfl
  | append_singleton items x ih =>
      obtain ⟨hitems, hx⟩ := List.forall_mem_append.mp h
      have hsubset : g x ⊆ before ++ items.flatMap f ++ f x := fun k hk =>
        List.mem_append_left _ (List.mem_append_left _ (hx x (by simp) hk))
      rw [List.flatMap_append, List.flatMap_singleton, ← List.append_assoc,
        distinct_append_distinct, distinct_append_congr (ih hitems), ← List.append_assoc,
        distinct_append_of_subset hsubset, List.flatMap_append, List.flatMap_singleton,
        List.append_assoc]

end DaoForge
