import DaoForge.Proofs.Resolve.Calls

/-!
# DaoForge.Proofs.Resolve.Isolation

An entity depends on the declarations that it reaches, and of all others only on their names.

1. `Catalog.Reaches`: what is reached from a declaration through the types of its properties and the
   targets of its foreign keys;
2. `get?_congr`: catalogs of the same names, in any order, find declarations of the same name;
3. so two catalogs that agree on what is reached come to the same members (`memberFindings_congr`), the
   same shape (`entityShape_congr`) and the same entity (`entityOf_congr`);
4. `Call.entity_isolated`: a run replies alike in both, whatever else they hold;
5. `Catalog.SameStructs`: catalogs whose declarations differ in annotations and functions only come to the
   same members of the same properties (`memberFindings_sameStructs`).
-/

namespace DaoForge

/-- A check goes on with a value that is there. -/
theorem CheckedT.lift_some_bind {ι α β : Type} (problem : ι) (a : α) (f : α → CheckedT ι Id β) :
    (.lift (.ofOption problem (some a)) >>= f : CheckedT ι Id β) = f a := rfl

/-! ## names -/

/-- The name that a name stands for among others: itself, else the only one with the same last name. -/
def nameAmong? (names : List String) (name : String) : Option String :=
  if name ∈ names then some name
  else
    match names.filter fun other => simpleName other == simpleName name with
    | [only] => some only
    | _ => none

/-- The order of the others does not matter. -/
theorem nameAmong?_congr {names names' : List String} (h : names.Perm names') (name : String) :
    nameAmong? names name = nameAmong? names' name := by
  unfold nameAmong?
  simp only [h.mem_iff]
  have hsharing := h.filter fun other => simpleName other == simpleName name
  generalize names.filter _ = sharing at hsharing
  generalize names'.filter _ = sharing' at hsharing
  congr 1
  match sharing, sharing', hsharing.length_eq with
  | [], [], _ => rfl
  | [only], [only'], _ =>
      obtain rfl : only = only' := List.singleton_perm_singleton.mp hsharing
      rfl
  | _ :: _ :: _, _ :: _ :: _, _ => rfl

namespace Catalog

variable {c c' : Catalog} {d : Declaration}

/-- The declaration that is found has the name that was meant. -/
theorem map_get? (c : Catalog) (name : String) :
    (c.get? name).map Declaration.qualifiedName = nameAmong? c.names name := by
  have hnamed : name ∈ c.names ↔ (c.named? name).isSome = true := by
    simp [named?, names, List.find?_isSome]
  have hsharing : (c.names.filter fun other => simpleName other == simpleName name) =
      (c.sharing name).map Declaration.qualifiedName := List.filter_map
  rw [get?_eq, nameAmong?, hsharing]
  cases hfound : c.named? name with
  | some found =>
      rw [if_pos (hnamed.mpr (by rw [hfound]; rfl))]
      have hname := List.find?_some hfound
      rw [beq_iff_eq] at hname
      rw [Option.map_some, hname]
  | none =>
      rw [if_neg fun hmem => by simpa [hfound] using hnamed.mp hmem]
      rcases c.sharing name with _ | ⟨_, _ | ⟨_, _⟩⟩ <;> rfl

/-- Catalogs of the same names find the same declaration, if the other one has it. -/
theorem get?_congr (hnames : c.names.Perm c'.names) {name : String}
    (hfound : ∀ found, c.get? name = some found → found ∈ c'.declarations) :
    c'.get? name = c.get? name := by
  have hname : (c'.get? name).map Declaration.qualifiedName =
      (c.get? name).map Declaration.qualifiedName := by
    rw [map_get?, map_get?, nameAmong?_congr hnames]
  cases hget : c.get? name with
  | none =>
      rw [hget, Option.map_none, Option.map_eq_none_iff] at hname
      exact hname
  | some found =>
      rw [hget, Option.map_some, Option.map_eq_some_iff] at hname
      obtain ⟨other, hother, hsame⟩ := hname
      rw [hother, eq_of_qualifiedName_eq (mem_of_get? hother) (hfound found hget) hsame]

/-- If every declaration is changed but keeps its name, what is found is changed alike. -/
theorem get?_of_map {change : Declaration → Declaration}
    (hchange : ∀ d, (change d).qualifiedName = d.qualifiedName)
    (h : c'.declarations = c.declarations.map change) (wanted : String) :
    c'.get? wanted = (c.get? wanted).map change := by
  have hnamed : c'.named? wanted = (c.named? wanted).map change := by
    rw [named?, h, List.find?_map, named?]
    simp only [Function.comp_def, hchange]
  have hsharing : c'.sharing wanted = (c.sharing wanted).map change := by
    rw [sharing, h, List.filter_map, sharing]
    simp only [Function.comp_def, Declaration.simpleName, hchange]
  rw [get?_eq, get?_eq, hnamed, hsharing]
  cases c.named? wanted with
  | some d => rfl
  | none => rcases c.sharing wanted with _ | ⟨_, _ | ⟨_, _⟩⟩ <;> rfl

theorem size_congr (hnames : c.names.Perm c'.names) : c'.size = c.size := by
  have hlength := hnames.length_eq
  rw [names, names, List.length_map, List.length_map] at hlength
  exact hlength.symm

/-! ## what is reached -/

/-- The types that lead from a declaration to others. -/
def references (d : Declaration) : List TypeExpr :=
  d.properties.map Property.type ++ d.foreignKeyMarks.map ForeignKeyMark.entity

/-- The declarations to which the types lead, from one to the next. -/
inductive Reaches (c : Catalog) (d : Declaration) : Declaration → Prop
  | refl : Reaches c d d
  | step {e next : Declaration} {t : TypeExpr} (h : Reaches c d e) (ht : t ∈ references e)
      (hnext : c.resolve? t = some next) : Reaches c d next

/-- Declarations that lead to none but themselves hold all that is reached from one of them. -/
theorem Reaches.mem_of_closed {ds : List Declaration} (hd : d ∈ ds)
    (hclosed : ∀ e ∈ ds, ∀ t ∈ references e, ∀ next ∈ c.resolve? t, next ∈ ds) {e : Declaration}
    (h : c.Reaches d e) : e ∈ ds := by
  induction h with
  | refl => exact hd
  | step _ ht hnext ih => exact hclosed _ ih _ ht _ hnext

section Congr

variable {e : Declaration} (hnames : c.names.Perm c'.names)
  (hagree : ∀ e, c.Reaches d e → e ∈ c'.declarations) (he : c.Reaches d e)

include hnames hagree he

theorem resolve?_congr {t : TypeExpr} (ht : t ∈ references e) : c'.resolve? t = c.resolve? t :=
  get?_congr hnames fun _ hfound => hagree _ (he.step ht hfound)

theorem embeddedTarget_congr {p : Property} (hp : p ∈ e.properties) (s : MemberScope) :
    embeddedTarget c' s p = embeddedTarget c s p := by
  have ht : p.type ∈ references e := List.mem_append_left _ (List.mem_map_of_mem hp)
  rw [embeddedTarget, resolve?_congr hnames hagree he ht, embeddedTarget]

omit hnames hagree in
/-- An embedded struct is reached. -/
theorem reaches_of_embeddedTarget {p : Property} (hp : p ∈ e.properties) {s : MemberScope}
    {target : Declaration} (h : embeddedTarget c s p = .ok target) : c.Reaches d target := by
  refine he.step (List.mem_append_left _ (List.mem_map_of_mem hp)) ?_
  unfold embeddedTarget at h
  split at h
  · contradiction
  next found hfound =>
  split at h
  · contradiction
  split at h
  · contradiction
  · cases h
    exact hfound

/-- A property of what is reached comes to the same members. -/
theorem memberFindings_congr (depth : Nat) {p : Property} (hp : p ∈ e.properties) (s : MemberScope) :
    memberFindings c' depth s p = memberFindings c depth s p := by
  induction depth generalizing s e p with
  | zero =>
      unfold memberFindings
      rw [embeddedTarget_congr hnames hagree he hp s]
  | succ depth ih =>
      unfold memberFindings
      rw [embeddedTarget_congr hnames hagree he hp s]
      cases htarget : embeddedTarget c s p with
      | error error => rfl
      | ok target =>
          have hreached := reaches_of_embeddedTarget he hp htarget
          have hinner (embedded : EmbeddedMark) :
              target.properties.map (memberFindings c' depth (s.nested p embedded target)) =
                target.properties.map (memberFindings c depth (s.nested p embedded target)) :=
            List.map_congr_left fun q hq => ih hreached hq _
          simp only [hinner]

theorem entityShape_congr : c'.entityShape e = c.entityShape e := by
  have hmembers (s : MemberScope) : e.properties.map (memberFindings c' c'.size s) =
      e.properties.map (memberFindings c c.size s) := by
    rw [size_congr hnames]
    exact List.map_congr_left fun p hp => memberFindings_congr hnames hagree he c.size hp s
  unfold entityShape shapeOf
  simp only [hmembers]

theorem foreignKey_congr (child : Entity) {mark : ForeignKeyMark} (hmark : mark ∈ e.foreignKeyMarks) :
    c'.foreignKey (.known c'.entityShape) child mark =
      c.foreignKey (.known c.entityShape) child mark := by
  have ht : mark.entity ∈ references e := List.mem_append_right _ (List.mem_map_of_mem hmark)
  unfold foreignKey
  rw [resolve?_congr hnames hagree he ht]
  cases htarget : (c.resolve? mark.entity).filter fun target =>
      Mark.has EntityMark target.annotations with
  | none => rfl
  | some target =>
      have hreached := he.step ht (Option.filter_eq_some_iff.mp htarget).1
      have hshape : Resolver.known c'.entityShape target = Resolver.known c.entityShape target := by
        rw [Resolver.known_apply, Resolver.known_apply, entityShape_congr hnames hagree hreached]
      rw [CheckedT.lift_some_bind, CheckedT.lift_some_bind, hshape]

theorem entityOf_congr : c'.entityOf e = c.entityOf e := by
  have hkeys (child : Entity) :
      e.foreignKeyMarks.map (c'.foreignKey (.known c'.entityShape) child) =
        e.foreignKeyMarks.map (c.foreignKey (.known c.entityShape) child) :=
    List.map_congr_left fun _ hmark => foreignKey_congr hnames hagree he child hmark
  unfold entityOf resolveEntity
  simp only [Resolver.known_apply, entityShape_congr hnames hagree he, hkeys]

end Congr

/-! ## the same structs -/

/-- The catalogs have the same declarations, but for the annotations and the functions of these. -/
structure SameStructs (c c' : Catalog) : Prop where
  size : c'.size = c.size
  resolve? : ∀ t, (c.resolve? t = none ∧ c'.resolve? t = none) ∨ ∃ d annotations functions,
    c.resolve? t = some d ∧ c'.resolve? t = some { d with annotations, functions }

namespace SameStructs

variable (h : c.SameStructs c')

include h

/-- The struct that a property embeds is the same. -/
theorem embeddedTarget_sameStructs (s : MemberScope) (p : Property) :
    (∃ error, embeddedTarget c s p = .error error ∧ embeddedTarget c' s p = .error error) ∨
      ∃ target annotations functions, embeddedTarget c s p = .ok target ∧
        embeddedTarget c' s p = .ok { target with annotations, functions } := by
  unfold embeddedTarget
  rcases h.resolve? p.type with ⟨hnone, hnone'⟩ | ⟨target, annotations, functions, hsome, hsome'⟩
  · rw [hnone, hnone']
    exact .inl ⟨_, rfl, rfl⟩
  rw [hsome, hsome']
  by_cases hseen : s.chain.contains target.qualifiedName = true
  · exact .inl ⟨_, if_pos hseen, if_pos hseen⟩
  by_cases htrait : target.isTrait = true
  · exact .inl ⟨_, (if_neg hseen).trans (if_pos htrait), (if_neg hseen).trans (if_pos htrait)⟩
  · exact .inr ⟨target, annotations, functions, (if_neg hseen).trans (if_neg htrait),
      (if_neg hseen).trans (if_neg htrait)⟩

theorem memberFindings_sameStructs (depth : Nat) (s : MemberScope) (p : Property) :
    memberFindings c' depth s p = memberFindings c depth s p := by
  induction depth generalizing s p with
  | zero =>
      unfold memberFindings
      rcases h.embeddedTarget_sameStructs s p with ⟨error, herror, herror'⟩ | ⟨target, _, _, hok, hok'⟩
      · rw [herror, herror']
      · rw [hok, hok']
  | succ depth ih =>
      unfold memberFindings
      rcases h.embeddedTarget_sameStructs s p with ⟨error, herror, herror'⟩ | ⟨target, _, _, hok, hok'⟩
      · rw [herror, herror']
      · have hinner : memberFindings c' depth = memberFindings c depth := funext₂ ih
        simp only [hok, hok', hinner]
        rfl

/-- An annotation that is read the same gives the same shape. -/
theorem shapeOf_sameStructs (d : Declaration) (annotations : List Mark) (functions : List Function)
    (record : EntityMark) :
    c'.shapeOf { d with annotations, functions } record = c.shapeOf d record := by
  have hmembers : memberFindings c' c'.size = memberFindings c c.size := by
    rw [h.size]
    exact funext₂ (h.memberFindings_sameStructs c.size)
  unfold shapeOf
  rw [hmembers]
  rfl

end SameStructs

end Catalog

namespace Call

/-- The reply for an entity is what the catalog alone says of the declaration that the name finds. -/
theorem fresh_entity (c : Catalog) (name : String) :
    (Call.entity name).fresh c = .entity (c.entity name) :=
  congrArg Reply.entity (yields_byName_of_follows (follows_entity c) name {} (Session.sound_empty c)).1

/-- **An entity is isolated** from what it does not reach. Two catalogs have the same names, in any
order, and what is reached in the one from the declaration of a name is in the other, too. Then a run of
each replies with the same entity, or with the same problems. -/
theorem entity_isolated {c c' : Catalog} {name : String} (hnames : c.names.Perm c'.names)
    (hagree : ∀ d, c.get? name = some d → ∀ e, c.Reaches d e → e ∈ c'.declarations) :
    (Call.entity name).fresh c' = (Call.entity name).fresh c := by
  rw [fresh_entity, fresh_entity, Catalog.entity, Catalog.entity, Catalog.lookup, Catalog.lookup,
    Catalog.get?_congr hnames fun d hd => hagree d hd d .refl]
  cases hget : c.get? name with
  | none => simp only [bind, Except.bind]
  | some d =>
      simp only [bind, Except.bind]
      rw [Catalog.entityOf_congr hnames (hagree d hget) .refl]

/-- Stops of a tour. A stop embeds a place, which only its last name tells, and a stop and its city refer
to each other. -/
def tour : List Declaration :=
  [{ qualifiedName := "geo::Place"
     properties :=
       [{ name := "latitude", type := .ofName "f64" }, { name := "longitude", type := .ofName "f64" }] },
    { qualifiedName := "app::City"
      annotations :=
        [{ name := "Entity"
           arguments := [("foreignKeys", .array [.nested "ForeignKey"
             [("entity", .type (.ofName "app::Stop")),
               ("parentColumns", .text "id"), ("childColumns", .text "station")]])] }]
      properties :=
        [{ name := "id", type := .ofName "i64", annotations := [{ name := "PrimaryKey" }] },
          { name := "station", type := .ofName "i64" }] },
    { qualifiedName := "app::Stop"
      annotations :=
        [{ name := "Entity"
           arguments := [("foreignKeys", .array [.nested "ForeignKey"
             [("entity", .type (.ofName "City")),
               ("parentColumns", .text "id"), ("childColumns", .text "city")]])] }]
      properties :=
        [{ name := "id", type := .ofName "i64", annotations := [{ name := "PrimaryKey" }] },
          { name := "city", type := .ofName "i64" },
          { name := "place", type := .ofName "Place", annotations := [{ name := "Embedded" }] }] }]

/-- The stops with an entity beside them. -/
def tourCatalog : Catalog where
  declarations := tour ++
    [{ qualifiedName := "app::Guide"
       annotations := [{ name := "Entity" }]
       properties :=
         [{ name := "id", type := .ofName "i64", annotations := [{ name := "PrimaryKey" }] }] }]
  nodup := by decide

/-- The stops the other way round, behind a trait that cannot be an entity. -/
def brokenTour : Catalog where
  declarations :=
    { qualifiedName := "app::Guide", kind := .trait, annotations := [{ name := "Entity" }] } ::
      tour.reverse
  nodup := by decide

/-- A stop resolves, and the broken trait does not change it. -/
theorem entity_isolated_stop :
    tourCatalog.names.Perm brokenTour.names ∧
      (∀ d, tourCatalog.get? "Stop" = some d →
        ∀ e, tourCatalog.Reaches d e → e ∈ brokenTour.declarations) ∧
      (∃ e, (Call.entity "Stop").fresh tourCatalog = .entity (.ok e)) ∧
      (∃ problems, (Call.entity "Guide").fresh brokenTour = .entity (.error problems)) ∧
      (Call.entity "Stop").fresh brokenTour = (Call.entity "Stop").fresh tourCatalog := by
  have hnames : tourCatalog.names.Perm brokenTour.names := by decide
  have hagree (d : Declaration) (hd : tourCatalog.get? "Stop" = some d) (e : Declaration)
      (h : tourCatalog.Reaches d e) : e ∈ brokenTour.declarations := by
    have hstop : ∀ d ∈ tourCatalog.get? "Stop", d ∈ tour := by decide +kernel
    have hclosed : ∀ e ∈ tour, ∀ t ∈ Catalog.references e, ∀ next ∈ tourCatalog.resolve? t,
        next ∈ tour := by decide +kernel
    exact List.mem_cons_of_mem _ (List.mem_reverse.mpr (h.mem_of_closed (hstop d hd) hclosed))
  have hresolves : (tourCatalog.entity "Stop").toBool = true := by decide +kernel
  have hbroken : (brokenTour.entity "Guide").toBool = false := by decide +kernel
  refine ⟨hnames, hagree, ?_, ?_, entity_isolated hnames hagree⟩
  · rw [fresh_entity]
    cases h : tourCatalog.entity "Stop" with
    | ok e => exact ⟨e, rfl⟩
    | error problems => simp [h, Except.toBool] at hresolves
  · rw [fresh_entity]
    cases h : brokenTour.entity "Guide" with
    | ok e => simp [h, Except.toBool] at hbroken
    | error problems => exact ⟨problems, rfl⟩

end Call

end DaoForge
