import DaoForge.Declaration.Catalog
import DaoForge.Proofs.Declaration.Normal
import DaoForge.Proofs.Except
import Mathlib.Data.List.Nodup

/-!
# DaoForge.Proofs.Declaration.Catalog

What a catalog finds, and what is left of the calls that made it.

1. `get?_eq`, `get?_eq_some_iff`: the index finds what a walk over all declarations would: a name stands for
   the declaration that is called so, else for the only one with its last name (`StandsFor`);
2. `insert_eq_ok_iff`, `insertAll_eq_ok_iff`: which declarations are taken, and what a catalog holds then;
3. `Change`, `after`: calls one after the other, of which any may be refused. `after_finds`: after any of
   them the catalog holds what was taken, in order, and finds by the rule; `ofList_after`: a catalog of its
   declarations is the catalog itself.
-/

namespace DaoForge

namespace Catalog

variable {c c' : Catalog} {d d' : Declaration} {name : String}

/-! ## declarations of a catalog -/

/-- A qualified name stands for one declaration. -/
theorem eq_of_qualifiedName_eq (h : d ∈ c.declarations) (h' : d' ∈ c.declarations)
    (hname : d.qualifiedName = d'.qualifiedName) : d = d' :=
  List.inj_on_of_nodup_map c.nodup h h' hname

/-- Catalogs of the same declarations have the same index. -/
theorem eq_of_declarations_eq (h : c.declarations = c'.declarations) : c = c' := by
  obtain ⟨declarations, _, index, inStep⟩ := c
  obtain ⟨declarations', _, index', inStep'⟩ := c'
  obtain rfl : declarations = declarations' := h
  obtain rfl : index = index' := inStep.trans inStep'.symm
  rfl

theorem named?_eq_some_iff :
    c.named? name = some d ↔ d ∈ c.declarations ∧ d.qualifiedName = name := by
  constructor
  · exact fun h => ⟨List.mem_of_find?_eq_some h, by simpa using List.find?_some h⟩
  · rintro ⟨hd, rfl⟩
    cases hfind : c.named? d.qualifiedName with
    | none =>
        have hmiss := List.find?_eq_none.mp hfind d hd
        simp at hmiss
    | some found =>
        have hname : found.qualifiedName = d.qualifiedName := by simpa using List.find?_some hfind
        rw [eq_of_qualifiedName_eq (List.mem_of_find?_eq_some hfind) hd hname]

theorem named?_eq_none_iff : c.named? name = none ↔ ∀ d ∈ c.declarations, d.qualifiedName ≠ name := by
  simp [named?, List.find?_eq_none]

/-! ## finding -/

/-- The index lists the qualified names of the declarations that share a last name. -/
theorem index_named (c : Catalog) (name : String) :
    c.index.named (simpleName name) = (c.sharing name).map Declaration.qualifiedName := by
  rw [c.inStep, NameIndex.named_ofNames, List.filter_map]
  rfl

/-- What the index finds is found by a walk over the declarations. -/
theorem get?_eq (c : Catalog) (name : String) :
    c.get? name =
      match c.named? name with
      | some d => some d
      | none =>
        match c.sharing name with
        | [d] => some d
        | _ => none := by
  unfold get?
  rw [index_named]
  cases c.named? name with
  | some d => rfl
  | none =>
      match hsharing : c.sharing name with
      | [] => rfl
      | [d] =>
          have hd : d ∈ c.sharing name := by rw [hsharing]; exact List.mem_singleton_self d
          exact named?_eq_some_iff.mpr ⟨(List.mem_filter.mp hd).1, rfl⟩
      | _ :: _ :: _ => rfl

/-- A name stands for a declaration: the declaration is called so, or none is and this is the only one
with the last name. -/
def StandsFor (c : Catalog) (name : String) (d : Declaration) : Prop :=
  d ∈ c.declarations ∧
    (d.qualifiedName = name ∨
      (∀ e ∈ c.declarations, e.qualifiedName ≠ name) ∧
        ∀ e ∈ c.declarations, e.simpleName = simpleName name ↔ e = d)

theorem sharing_eq_singleton_iff :
    c.sharing name = [d] ↔
      d ∈ c.declarations ∧ ∀ e ∈ c.declarations, e.simpleName = simpleName name ↔ e = d := by
  have hmem (e : Declaration) :
      e ∈ c.sharing name ↔ e ∈ c.declarations ∧ e.simpleName = simpleName name := by
    simp [sharing]
  constructor
  · intro h
    have honly (e : Declaration) : e ∈ c.sharing name ↔ e = d := by rw [h, List.mem_singleton]
    refine ⟨((hmem d).mp ((honly d).mpr rfl)).1, fun e he => ?_⟩
    rw [← honly, hmem, and_iff_right he]
  · rintro ⟨hd, honly⟩
    have hnodup : (c.sharing name).Nodup := c.nodup.of_map.filter _
    rw [← List.perm_singleton, List.perm_ext_iff_of_nodup hnodup (List.nodup_singleton d)]
    intro e
    rw [hmem, List.mem_singleton]
    constructor
    · exact fun he => (honly e he.1).mp he.2
    · rintro rfl
      exact ⟨hd, (honly e hd).mpr rfl⟩

theorem get?_eq_some_iff : c.get? name = some d ↔ c.StandsFor name d := by
  rw [get?_eq, StandsFor]
  cases hnamed : c.named? name with
  | some found =>
      obtain ⟨hfound, rfl⟩ := named?_eq_some_iff.mp hnamed
      constructor
      · intro h
        obtain rfl := Option.some.inj h
        exact ⟨hfound, .inl rfl⟩
      · rintro ⟨hd, hname | ⟨hnone, -⟩⟩
        · exact congrArg some (eq_of_qualifiedName_eq hfound hd hname.symm)
        · exact absurd rfl (hnone found hfound)
  | none =>
      have hnone := named?_eq_none_iff.mp hnamed
      have hsharing : (match c.sharing name with | [d] => some d | _ => none) = some d ↔
          c.sharing name = [d] := by
        match c.sharing name with
        | [] => simp
        | [_] => simp
        | _ :: _ :: _ => simp
      refine hsharing.trans (sharing_eq_singleton_iff.trans (and_congr_right fun hd => ?_))
      exact ⟨fun honly => .inr ⟨hnone, honly⟩, fun h => (h.resolve_left (hnone d hd)).2⟩

theorem mem_of_get? (h : c.get? name = some d) : d ∈ c.declarations := (get?_eq_some_iff.mp h).1

/-! ## adding -/

/-- A declaration is taken if its name is new and not blank. -/
theorem insert_eq_ok_iff :
    c.insert d = .ok c' ↔
      (isBlankText d.qualifiedName = false ∧ d.qualifiedName ∉ c.names) ∧
        c'.declarations = c.declarations ++ [d.normalized] := by
  unfold insert
  split
  · next hblank => simp [hblank]
  · next hblank =>
    split
    · next htaken => simp [htaken]
    · next hnew =>
      rw [Bool.not_eq_true] at hblank
      rw [and_iff_right ⟨hblank, hnew⟩, Except.ok.injEq]
      constructor
      · rintro rfl
        rfl
      · exact fun h => eq_of_declarations_eq h.symm

theorem names_of_insert (h : c.insert d = .ok c') : c'.names = c.names ++ [d.qualifiedName] := by
  rw [names, (insert_eq_ok_iff.mp h).2, List.map_append, List.map_singleton,
    Declaration.qualifiedName_normalized, names]

/-- What is refused has a blank name or one that is taken. -/
theorem insert_eq_error_iff {e : CatalogError} :
    c.insert d = .error e ↔
      (isBlankText d.qualifiedName = true ∧ e = .emptyName) ∨
        isBlankText d.qualifiedName = false ∧ d.qualifiedName ∈ c.names ∧
          e = .duplicate d.qualifiedName := by
  unfold insert
  split
  · next hblank => simp [hblank, eq_comm]
  · next hblank =>
    split
    · next htaken => simp [hblank, htaken, eq_comm]
    · next hnew => simp [hblank, hnew]

/-- Declarations are taken if all their names are new, distinct and not blank. -/
theorem insertAll_eq_ok_iff {ds : List Declaration} :
    c.insertAll ds = .ok c' ↔
      ((∀ d ∈ ds, isBlankText d.qualifiedName = false) ∧
        (c.names ++ ds.map Declaration.qualifiedName).Nodup) ∧
        c'.declarations = c.declarations ++ ds.map Declaration.normalized := by
  induction ds generalizing c with
  | nil =>
      have hnodup : c.names.Nodup := c.nodup
      have hstay : c.insertAll [] = .ok c' ↔ c'.declarations = c.declarations := by
        constructor
        · intro h
          cases h
          rfl
        · exact fun h => congrArg Except.ok (eq_of_declarations_eq h.symm)
      simp [hstay, hnodup]
  | cons d ds ih =>
      have hstep : c.insertAll (d :: ds) = c.insert d >>= fun next => next.insertAll ds := rfl
      rw [hstep]
      constructor
      · intro h
        obtain ⟨next, hnext, h⟩ := bind_eq_ok h
        obtain ⟨⟨hblank, -⟩, hdeclarations⟩ := insert_eq_ok_iff.mp hnext
        obtain ⟨⟨hrest, hnodup⟩, hall⟩ := ih.mp h
        rw [names_of_insert hnext, List.append_assoc, List.singleton_append] at hnodup
        refine ⟨⟨List.forall_mem_cons.mpr ⟨hblank, hrest⟩, hnodup⟩, ?_⟩
        rw [hall, hdeclarations, List.append_assoc, List.singleton_append, List.map_cons]
      · rintro ⟨⟨hblank, hnodup⟩, hall⟩
        obtain ⟨hfirst, hrest⟩ := List.forall_mem_cons.mp hblank
        have hnew : d.qualifiedName ∉ c.names := fun hmem =>
          List.disjoint_of_nodup_append hnodup hmem List.mem_cons_self
        obtain ⟨next, hnext⟩ : ∃ next, c.insert d = .ok next := by
          cases hinsert : c.insert d with
          | ok next => exact ⟨next, rfl⟩
          | error e => simp [insert_eq_error_iff, hfirst, hnew] at hinsert
        have hdeclarations := (insert_eq_ok_iff.mp hnext).2
        rw [hnext]
        refine ih.mpr ⟨⟨hrest, ?_⟩, ?_⟩
        · rw [names_of_insert hnext, List.append_assoc, List.singleton_append]
          exact hnodup
        · rw [hall, hdeclarations, List.append_assoc, List.singleton_append, List.map_cons]

/-! ## calls -/

/-- A call that changes a catalog. -/
inductive Change where
  /-- Replaces it by one of these declarations. -/
  | new (ds : List Declaration)
  | insert (d : Declaration)

/-- What a call makes of a catalog, unless it is refused. -/
def Change.result (c : Catalog) : Change → Except CatalogError Catalog
  | .new ds => ofList ds
  | .insert d => c.insert d

/-- The catalog after a call. One that is refused leaves it as it was. -/
def Change.apply (c : Catalog) (change : Change) : Catalog :=
  match change.result c with
  | .ok next => next
  | .error _ => c

/-- The catalog after some calls, the first of them on an empty one. -/
def after (changes : List Change) : Catalog := changes.foldl Change.apply empty

/-- What a call leaves of the declarations that were taken before, in the order in which they were. -/
def Change.keep (taken : List Declaration) : Change → List Declaration
  | .new ds =>
    if (∀ d ∈ ds, isBlankText d.qualifiedName = false) ∧ (ds.map Declaration.qualifiedName).Nodup then
      ds.map Declaration.normalized
    else taken
  | .insert d =>
    if isBlankText d.qualifiedName = false ∧ d.qualifiedName ∉ taken.map Declaration.qualifiedName then
      taken ++ [d.normalized]
    else taken

theorem ofList_eq_ok_iff {ds : List Declaration} :
    ofList ds = .ok c ↔
      ((∀ d ∈ ds, isBlankText d.qualifiedName = false) ∧ (ds.map Declaration.qualifiedName).Nodup) ∧
        c.declarations = ds.map Declaration.normalized :=
  insertAll_eq_ok_iff

/-- Declarations of distinct names that are not blank make a catalog. -/
theorem exists_ofList {ds : List Declaration}
    (hblank : ∀ d ∈ ds, isBlankText d.qualifiedName = false)
    (hnodup : (ds.map Declaration.qualifiedName).Nodup) : ∃ c, ofList ds = .ok c := by
  have hnames : ((ds.map Declaration.normalized).map Declaration.qualifiedName).Nodup := by
    rw [List.map_map]
    exact hnodup
  exact ⟨{ declarations := ds.map Declaration.normalized, nodup := hnames },
    ofList_eq_ok_iff.mpr ⟨⟨hblank, hnodup⟩, rfl⟩⟩

/-- A call does to a catalog what it does to the list of its declarations. -/
theorem declarations_apply (c : Catalog) (change : Change) :
    (change.apply c).declarations = change.keep c.declarations := by
  unfold Change.apply
  cases change with
  | new ds =>
      rw [Change.result, Change.keep]
      cases hnew : ofList ds with
      | ok next =>
          obtain ⟨htaken, hdeclarations⟩ := ofList_eq_ok_iff.mp hnew
          rw [if_pos htaken]
          exact hdeclarations
      | error e =>
          rw [if_neg]
          rintro ⟨hblank, hnodup⟩
          obtain ⟨next, hnext⟩ := exists_ofList hblank hnodup
          rw [hnext] at hnew
          contradiction
  | insert d =>
      rw [Change.result, Change.keep]
      cases hinsert : c.insert d with
      | ok next =>
          obtain ⟨htaken, hdeclarations⟩ := insert_eq_ok_iff.mp hinsert
          exact hdeclarations.trans (if_pos htaken).symm
      | error e =>
          rw [if_neg]
          rintro ⟨hblank, hnew⟩
          simp [insert_eq_error_iff, hblank, names, hnew] at hinsert

theorem declarations_after (changes : List Change) :
    (after changes).declarations = changes.foldl Change.keep [] := by
  have hfold : ∀ c : Catalog, (changes.foldl Change.apply c).declarations =
      changes.foldl Change.keep c.declarations := by
    induction changes with
    | nil => exact fun c => rfl
    | cons change rest ih =>
        intro c
        rw [List.foldl_cons, List.foldl_cons, ih, declarations_apply]
  exact hfold empty

/-- **Finding.** Whatever calls were made, and whichever of them were refused: a declaration is found under a
name iff the name stands for it; the catalog holds what was taken, in the order in which it was, and no
name twice; and a declaration is refused iff its name is blank or taken, and then nothing changes. -/
theorem after_finds (changes : List Change) :
    (∀ name d, (after changes).get? name = some d ↔ (after changes).StandsFor name d) ∧
      (after changes).declarations = changes.foldl Change.keep [] ∧ (after changes).names.Nodup ∧
      ∀ d, ((∃ e, (after changes).insert d = .error e) ↔
          isBlankText d.qualifiedName = true ∨ d.qualifiedName ∈ (after changes).names) ∧
        ∀ e, (after changes).insert d = .error e →
          (∀ name, (after (changes ++ [.insert d])).get? name = (after changes).get? name) ∧
            (after (changes ++ [.insert d])).declarations = (after changes).declarations := by
  refine ⟨fun name d => get?_eq_some_iff, declarations_after changes, (after changes).nodup,
    fun d => ⟨?_, fun e he => ?_⟩⟩
  · simp only [insert_eq_error_iff]
    cases hblank : isBlankText d.qualifiedName <;> simp
  · have hstay : after (changes ++ [.insert d]) = after changes := by
      rw [after, List.foldl_append]
      change Change.apply (after changes) (.insert d) = after changes
      rw [Change.apply, Change.result, he]
    rw [hstay]
    exact ⟨fun _ => rfl, rfl⟩

/-! ## building again -/

/-- The declarations of a catalog are normalized and have names that are not blank. -/
def Settled (c : Catalog) : Prop :=
  ∀ d ∈ c.declarations, d.normalized = d ∧ isBlankText d.qualifiedName = false

theorem settled_of_normalized {ds : List Declaration}
    (h : ∀ d ∈ ds, isBlankText d.qualifiedName = false) :
    ∀ d ∈ ds.map Declaration.normalized, d.normalized = d ∧ isBlankText d.qualifiedName = false := by
  intro d hd
  obtain ⟨e, he, rfl⟩ := List.mem_map.mp hd
  exact ⟨Declaration.normalized_normalized e, h e he⟩

theorem Settled.apply (h : c.Settled) (change : Change) : (change.apply c).Settled := by
  unfold Settled
  rw [declarations_apply]
  cases change with
  | new ds =>
      rw [Change.keep]
      split
      · next htaken => exact settled_of_normalized htaken.1
      · exact h
  | insert d =>
      rw [Change.keep]
      split
      · next htaken =>
        have hlast := @settled_of_normalized [d] (by simpa using htaken.1)
        exact List.forall_mem_append.mpr ⟨h, hlast⟩
      · exact h

theorem settled_after (changes : List Change) : (after changes).Settled := by
  have hfold : ∀ c : Catalog, c.Settled → (changes.foldl Change.apply c).Settled := by
    induction changes with
    | nil => exact fun c hc => hc
    | cons change rest ih => exact fun c hc => ih _ (hc.apply change)
  exact hfold empty fun d hd => nomatch hd

theorem Settled.map_normalized (h : c.Settled) :
    c.declarations.map Declaration.normalized = c.declarations := by
  rw [List.map_congr_left fun d hd => (h d hd).1, List.map_id']

/-- **Building again.** A catalog of the declarations that some calls have left is the catalog that they
have left; for a type that was normalized stays as it is, as no `Option` with one argument occurs in it. -/
theorem ofList_after (changes : List Change) :
    ofList (after changes).declarations = .ok (after changes) ∧
      ∀ t : TypeExpr, t.normalized.normalized = t.normalized ∧
        ∀ s, TypeExpr.Within s t.normalized → ¬ s.IsOption := by
  have hsettled := settled_after changes
  refine ⟨ofList_eq_ok_iff.mpr ⟨⟨fun d hd => (hsettled d hd).2, (after changes).nodup⟩, ?_⟩,
    fun t => ⟨t.normalized_normalized, t.folded_normalized⟩⟩
  exact hsettled.map_normalized.symm

end Catalog

end DaoForge
