import DaoForge.Proofs.Declaration.Catalog
import DaoForge.Proofs.Except
import DaoForge.Resolve.Session

/-!
# DaoForge.Proofs.Resolve.Memory

A run answers from memory what the catalog alone says.

1. `Session.Sound`: every answer that was kept is right;
2. `Yields inv p post`: from a session with the invariant, the step `p` comes to a result with `post`
   and keeps the invariant. `Yields.bind` and `yields_mapM` chain steps;
3. `yields_remember`: a step that looks into the memory first yields what it would without.
-/

namespace DaoForge

/-! ## declarations of a catalog -/

namespace Catalog

variable {c : Catalog} {d d' : Declaration} {name : String}

theorem mem_of_resolve? {t : TypeExpr} (h : c.resolve? t = some d) : d ∈ c.declarations :=
  mem_of_get? h

theorem mem_of_lookup (h : c.lookup name = .ok d) : d ∈ c.declarations := by
  unfold lookup at h
  split at h
  · next hget =>
    cases h
    exact mem_of_get? hget
  · contradiction

end Catalog

/-! ## sound sessions -/

/-- Every answer that was kept for a declaration of the catalog is right. -/
def Keeps {α : Type} (c : Catalog) (right : Declaration → Except (List Diagnostic) α → Prop)
    (answers : Answers α) : Prop :=
  ∀ d ∈ c.declarations, ∀ answer, (d.qualifiedName, answer) ∈ answers → right d answer

theorem keeps_nil {α : Type} {c : Catalog} {right : Declaration → Except (List Diagnostic) α → Prop} :
    Keeps c right [] := by
  intro d _ answer hmem
  cases hmem

/-- An answer that is right may be kept. -/
theorem Keeps.cons {α : Type} {c : Catalog}
    {right : Declaration → Except (List Diagnostic) α → Prop} {answers : Answers α}
    (h : Keeps c right answers) {d : Declaration} (hd : d ∈ c.declarations)
    {answer : Except (List Diagnostic) α} (hright : right d answer) :
    Keeps c right ((d.qualifiedName, answer) :: answers) := by
  intro d' hd' answer' hmem
  rcases List.mem_cons.mp hmem with heq | hmem
  · obtain ⟨hname, rfl⟩ := Prod.mk.injEq .. ▸ heq
    rw [Catalog.eq_of_qualifiedName_eq hd' hd hname]
    exact hright
  · exact h d' hd' answer' hmem

/-- The answer of a run for a DAO. Which problems it lists depends on the names that were reported
before. -/
def listed (reported : List String) (findings : Except (List Finding) Dao) :
    Except (List Diagnostic) Dao :=
  findings.mapError fun findings => (Finding.list reported findings).1

/-- Every answer of the session is what the catalog alone says. -/
structure Session.Sound (c : Catalog) (s : Session) : Prop where
  shapes : Keeps c (fun d answer => answer = c.entityShape d) s.shapes
  entities : Keeps c (fun d answer => answer = c.entityOf d) s.entities
  compounds : Keeps c (fun d answer => answer = c.compoundOf d) s.compounds
  daos : Keeps c (fun d answer => ∃ reported, answer = listed reported (c.daoFindings d)) s.daos

theorem Session.sound_empty (c : Catalog) : Session.Sound c {} :=
  ⟨keeps_nil, keeps_nil, keeps_nil, keeps_nil⟩

/-- A sound session in which these names were reported. -/
structure Session.Quiet (c : Catalog) (reported : List String) (s : Session) : Prop where
  sound : Session.Sound c s
  reported_eq : s.reported = reported

/-! ## steps of a run -/

/-- From a session with the invariant the step comes to a result with `post`, and keeps the
invariant. -/
def Yields {α : Type} (inv : Session → Prop) (p : Run α) (post : α → Prop) : Prop :=
  ∀ s, inv s → post (p.run s).run.1 ∧ inv (p.run s).run.2

section Yields

variable {α β : Type} {inv : Session → Prop}

theorem yields_pure {a : α} {post : α → Prop} (h : post a) : Yields inv (pure a) post :=
  fun _ hs => ⟨h, hs⟩

theorem Yields.imp {p : Run α} {post post' : α → Prop} (h : Yields inv p post)
    (himp : ∀ a, post a → post' a) : Yields inv p post' := by
  intro s hs
  obtain ⟨hpost, hs'⟩ := h s hs
  exact ⟨himp _ hpost, hs'⟩

theorem Yields.bind {p : Run α} {f : α → Run β} {mid : α → Prop} {post : β → Prop}
    (h : Yields inv p mid) (hf : ∀ a, mid a → Yields inv (f a) post) :
    Yields inv (p >>= f) post := by
  intro s hs
  obtain ⟨hmid, hs'⟩ := h s hs
  exact hf _ hmid _ hs'

theorem Yields.map {p : Run α} {f : α → β} {mid : α → Prop} {post : β → Prop}
    (h : Yields inv p mid) (hf : ∀ a, mid a → post (f a)) : Yields inv (f <$> p) post := by
  intro s hs
  obtain ⟨hmid, hs'⟩ := h s hs
  exact ⟨hf _ hmid, hs'⟩

/-- Steps in a row come to results in a row. -/
theorem yields_mapM {xs : List α} {f : α → Run β} {post : α → β → Prop}
    (h : ∀ x ∈ xs, Yields inv (f x) (post x)) : Yields inv (xs.mapM f) (List.Forall₂ post xs) := by
  induction xs with
  | nil => exact yields_pure .nil
  | cons x xs ih =>
      rw [List.mapM_cons]
      refine (h x List.mem_cons_self).bind fun b hb => ?_
      refine (ih fun y hy => h y (List.mem_cons_of_mem x hy)).bind fun bs hbs => ?_
      exact yields_pure (.cons hb hbs)

/-- What is reported nowhere on the way keeps any sound session sound. -/
theorem Yields.of_quiet {c : Catalog} {p : Run α} {post : α → Prop}
    (h : ∀ reported, Yields (Session.Quiet c reported) p post) :
    Yields (Session.Sound c) p post := by
  intro s hs
  obtain ⟨hpost, hs'⟩ := h s.reported s ⟨hs, rfl⟩
  exact ⟨hpost, hs'.sound⟩

end Yields

/-! ## memory -/

/-- A shelf holds right answers whenever the invariant does, and may take another one. -/
structure Shelf.Holds {α : Type} (c : Catalog) (inv : Session → Prop) (shelf : Shelf α)
    (right : Declaration → Except (List Diagnostic) α → Prop) : Prop where
  keeps : ∀ s, inv s → Keeps c right (shelf.answers s)
  keep : ∀ s answers, inv s → Keeps c right answers → inv (shelf.keep s answers)

section Recall

variable {α : Type} {c : Catalog} {shelf : Shelf α} {resolver : Resolver Run α} {d : Declaration}
  {s : Session}

theorem run_remember_known {known : String × Except (List Diagnostic) α}
    (h : (shelf.answers s).find? (fun known => known.1 == d.qualifiedName) = some known) :
    (Session.remember shelf resolver d).run s = pure (known.2, s) := by
  simp only [Session.remember, StateT.run_bind, StateT.run_get, pure_bind, h, StateT.run_pure]

theorem run_remember_new
    (h : (shelf.answers s).find? (fun known => known.1 == d.qualifiedName) = none) :
    (Session.remember shelf resolver d).run s = (do
      let (answer, s') ← (resolver d).run s
      pure (answer, shelf.keep s' ((d.qualifiedName, answer) :: shelf.answers s'))) := by
  simp only [Session.remember, StateT.run_bind, StateT.run_get, pure_bind, h, StateT.run_pure,
    StateT.run_modify]

/-- Memory does not change what is right. -/
theorem yields_remember {inv : Session → Prop}
    {right : Declaration → Except (List Diagnostic) α → Prop} (hshelf : shelf.Holds c inv right)
    (hd : d ∈ c.declarations) (h : Yields inv (resolver d) (right d)) :
    Yields inv (Session.remember shelf resolver d) (right d) := by
  intro s hs
  cases hfind : (shelf.answers s).find? fun known => known.1 == d.qualifiedName with
  | some known =>
      have hname : known.1 = d.qualifiedName := by simpa using List.find?_some hfind
      have hmem : (d.qualifiedName, known.2) ∈ shelf.answers s := by
        rw [← hname]
        exact List.mem_of_find?_eq_some hfind
      rw [run_remember_known hfind]
      exact ⟨hshelf.keeps s hs d hd known.2 hmem, hs⟩
  | none =>
      obtain ⟨hright, hs'⟩ := h s hs
      rw [run_remember_new hfind]
      exact ⟨hright, hshelf.keep _ _ hs' ((hshelf.keeps _ hs').cons hd hright)⟩

end Recall

section Shelves

variable (c : Catalog) (reported : List String)

theorem holds_shapes :
    Shelf.shapes.Holds c (Session.Quiet c reported) fun d answer => answer = c.entityShape d :=
  ⟨fun _ hs => hs.sound.shapes, fun _ _ hs h => ⟨{ hs.sound with shapes := h }, hs.reported_eq⟩⟩

theorem holds_entities :
    Shelf.entities.Holds c (Session.Quiet c reported) fun d answer => answer = c.entityOf d :=
  ⟨fun _ hs => hs.sound.entities,
    fun _ _ hs h => ⟨{ hs.sound with entities := h }, hs.reported_eq⟩⟩

theorem holds_compounds :
    Shelf.compounds.Holds c (Session.Quiet c reported) fun d answer => answer = c.compoundOf d :=
  ⟨fun _ hs => hs.sound.compounds,
    fun _ _ hs h => ⟨{ hs.sound with compounds := h }, hs.reported_eq⟩⟩

theorem holds_daos :
    Shelf.daos.Holds c (Session.Sound c) fun d answer =>
      ∃ reported, answer = listed reported (c.daoFindings d) :=
  ⟨fun _ hs => hs.daos, fun _ _ hs h => { hs with daos := h }⟩

end Shelves

end DaoForge
