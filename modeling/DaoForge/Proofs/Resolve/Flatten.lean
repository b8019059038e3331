import DaoForge.Proofs.Resolve.Embedding

/-!
# DaoForge.Proofs.Resolve.Flatten

The columns of an entity, read off its declarations.

1. `Property.Reaches`: embeddings lead from a property down to another one. The place of a property
   counts, struct by struct, the properties before it on the way; `Declaration.LeafAt` are the ends of
   the ways, where a property is left out or takes in no struct;
2. `Column.ComesFrom`: what a column has from the property that it is made of and from the properties
   around it;
3. `Member.placed`: the columns of a member with their places. They are listed in the order of their
   places, depth first (`Member.ordered_placedFrom`);
4. `flattens_of_comesTo`: a property without a problem comes to one member, with a column for each leaf;
5. `Call.entity_flattened`: so the columns of every entity are those of the leaves of its declaration.
-/

namespace DaoForge

/-! ## leaves of a declaration -/

namespace Property

/-- The property has no column in the table: it is annotated so, or it is one of the entity's own that
are listed. -/
def LeftOut (listed : List String) (outer : List Property) (p : Property) : Prop :=
  Mark.has IgnoreMark p.annotations = true ∨ outer = [] ∧ p.name ∈ listed

/-- The properties of its own struct stand for the property: it is embedded, and not left out. -/
def Unfolds (listed : List String) (outer : List Property) (p : Property) : Prop :=
  ¬ p.LeftOut listed outer ∧ Mark.has EmbeddedMark p.annotations = true

/-- What the annotation of an embedded property puts in front of the names of its columns. -/
def embeddedPrefix (p : Property) : String :=
  match Mark.find EmbeddedMark p.annotations with
  | .ok (some embedded) => embedded.columnPrefix
  | _ => ""

/-- The name of the property's column, without the prefixes of the properties around it. -/
def columnName (p : Property) : String :=
  match Mark.find ColumnInfoMark p.annotations with
  | .ok (some info) => if info.name.isEmpty then p.name else info.name
  | _ => p.name

/-- Embeddings lead from the property to `last`: at this place, and with these properties around it,
those around the property first. -/
inductive Reaches (c : Catalog) (listed : List String) :
    List Property → Property → List Nat → List Property → Property → Prop where
  | here {outer : List Property} {p : Property} : Reaches c listed outer p [] outer p
  | inside {outer path : List Property} {p q last : Property} {target : Declaration} {i : Nat}
      {place : List Nat} (h : p.Unfolds listed outer) (htarget : c.resolve? p.type = some target)
      (hq : target.properties[i]? = some q)
      (rest : Reaches c listed (outer ++ [p]) q place path last) :
      Reaches c listed outer p (i :: place) path last

/-- Embeddings lead from the property to `last`, and no further. -/
def LeafAt (c : Catalog) (listed : List String) (outer : List Property) (p : Property)
    (place : List Nat) (path : List Property) (last : Property) : Prop :=
  p.Reaches c listed outer place path last ∧ ¬ last.Unfolds listed path

end Property

/-- Embeddings lead from a property of the struct to `last`. -/
def Declaration.Reaches (c : Catalog) (listed : List String) (outer : List Property) (d : Declaration)
    (place : List Nat) (path : List Property) (last : Property) : Prop :=
  ∃ i rest p, place = i :: rest ∧ d.properties[i]? = some p ∧ p.Reaches c listed outer rest path last

/-- Embeddings lead from a property of the struct to `last`, and no further. -/
def Declaration.LeafAt (c : Catalog) (listed : List String) (outer : List Property) (d : Declaration)
    (place : List Nat) (path : List Property) (last : Property) : Prop :=
  d.Reaches c listed outer place path last ∧ ¬ last.Unfolds listed path

section Leaves

variable {c : Catalog} {listed : List String} {outer path : List Property} {p last : Property}
  {d target : Declaration} {place : List Nat}

theorem Declaration.leafAt_iff :
    d.LeafAt c listed outer place path last ↔ ∃ i rest p, place = i :: rest ∧
      d.properties[i]? = some p ∧ p.LeafAt c listed outer rest path last := by
  simp only [Declaration.LeafAt, Declaration.Reaches, Property.LeafAt]
  grind

namespace Property

theorem reaches_iff_of_not_unfolds (h : ¬ p.Unfolds listed outer) :
    p.Reaches c listed outer place path last ↔ place = [] ∧ path = outer ∧ last = p := by
  constructor
  · intro hreaches
    cases hreaches with
    | here => exact ⟨rfl, rfl, rfl⟩
    | inside hunfolds => exact absurd hunfolds h
  · rintro ⟨rfl, rfl, rfl⟩
    exact .here

theorem reaches_iff_of_unfolds (h : p.Unfolds listed outer) (htarget : c.resolve? p.type = some target) :
    p.Reaches c listed outer place path last ↔ (place = [] ∧ path = outer ∧ last = p) ∨
      target.Reaches c listed (outer ++ [p]) place path last := by
  constructor
  · intro hreaches
    cases hreaches with
    | here => exact .inl ⟨rfl, rfl, rfl⟩
    | @inside _ _ _ q _ found i rest _ hfound hq hrest =>
        obtain rfl : found = target := Option.some.inj (hfound.symm.trans htarget)
        exact .inr ⟨i, rest, q, rfl, hq, hrest⟩
  · rintro (⟨rfl, rfl, rfl⟩ | ⟨i, rest, q, rfl, hq, hrest⟩)
    · exact .here
    · exact .inside h htarget hq hrest

theorem leafAt_iff_of_not_unfolds (h : ¬ p.Unfolds listed outer) :
    p.LeafAt c listed outer place path last ↔ place = [] ∧ path = outer ∧ last = p := by
  rw [LeafAt, reaches_iff_of_not_unfolds h]
  constructor
  · exact And.left
  · rintro ⟨rfl, rfl, rfl⟩
    exact ⟨⟨rfl, rfl, rfl⟩, h⟩

theorem leafAt_iff_of_unfolds (h : p.Unfolds listed outer) (htarget : c.resolve? p.type = some target) :
    p.LeafAt c listed outer place path last ↔
      target.LeafAt c listed (outer ++ [p]) place path last := by
  rw [LeafAt, Declaration.LeafAt, reaches_iff_of_unfolds h htarget]
  constructor
  · rintro ⟨⟨rfl, rfl, rfl⟩ | hreaches, hlast⟩
    · exact absurd h hlast
    · exact ⟨hreaches, hlast⟩
  · exact fun ⟨hreaches, hlast⟩ => ⟨.inr hreaches, hlast⟩

end Property

end Leaves

/-! ## columns -/

/-- The names of the properties around a column, joined by dots; none at the top. -/
def dottedPath (path : List Property) : Option String :=
  if path = [] then none else some (".".intercalate (path.map Property.name))

/-- What a column has from its property and from the properties around it. -/
structure Column.ComesFrom (listed : List String) (path : List Property) (p : Property)
    (column : Column) : Prop where
  property : column.property = p.name
  type : column.type = p.type
  name : column.name = String.join (path.map Property.embeddedPrefix) ++ p.columnName
  nullable : column.isNullable = true ↔ ∃ q ∈ path ++ [p], q.type.nullable = true
  embeddedIn : column.embeddedIn = dottedPath path
  leftOut : column.isStored = false ↔ p.LeftOut listed path

/-- Flagging a column leaves what it has from its property. -/
theorem Column.ComesFrom.flagged {listed : List String} {path : List Property} {p : Property}
    {column : Column} (h : column.ComesFrom listed path p) (names : List String) :
    (column.flagged names).ComesFrom listed path p := by
  unfold Column.flagged
  split
  · exact ⟨h.property, h.type, h.name, h.nullable, h.embeddedIn, h.leftOut⟩
  · exact h

/-! ## places -/

namespace Member

mutual

/-- The columns of a member with their places: the positions of the members on the way down. -/
def placed : Member → List (List Nat × Column)
  | .column c => [([], c)]
  | .embedded _ members => placedFrom 0 members

/-- The columns of several members with their places; the first member has position `i`. -/
def placedFrom : Nat → List Member → List (List Nat × Column)
  | _, [] => []
  | i, m :: rest => (placed m).map (Prod.map (List.cons i) id) ++ placedFrom (i + 1) rest

end

mutual

theorem map_snd_placed (m : Member) : m.placed.map Prod.snd = m.columns := by
  cases m with
  | column c => rfl
  | embedded e members => exact map_snd_placedFrom 0 members

theorem map_snd_placedFrom (i : Nat) (members : List Member) :
    (placedFrom i members).map Prod.snd = columnsOf members := by
  cases members with
  | nil => rfl
  | cons m rest =>
      have hsnd : Prod.snd ∘ Prod.map (List.cons i) id = (Prod.snd : List Nat × Column → Column) := rfl
      rw [placedFrom, columnsOf, List.map_append, List.map_map, hsnd, map_snd_placed m,
        map_snd_placedFrom (i + 1) rest]

end

theorem mem_placedFrom {i : Nat} {members : List Member} {place : List Nat} {column : Column} :
    (place, column) ∈ placedFrom i members ↔ ∃ j rest m, place = (i + j) :: rest ∧
      members[j]? = some m ∧ (rest, column) ∈ m.placed := by
  induction members generalizing i with
  | nil => simp [placedFrom]
  | cons m members ih =>
      rw [placedFrom, List.mem_append, ih]
      constructor
      · rintro (hfirst | ⟨j, rest, m', rfl, hm', hcolumn⟩)
        · obtain ⟨⟨rest, _⟩, hcolumn, ⟨⟩⟩ := List.mem_map.mp hfirst
          exact ⟨0, rest, m, rfl, rfl, hcolumn⟩
        · exact ⟨j + 1, rest, m', by rw [Nat.add_right_comm, Nat.add_assoc], hm', hcolumn⟩
      · rintro ⟨j, rest, m', rfl, hm', hcolumn⟩
        cases j with
        | zero =>
            obtain rfl : m = m' := by simpa using hm'
            exact .inl (List.mem_map.mpr ⟨(rest, column), hcolumn, rfl⟩)
        | succ j =>
            exact .inr ⟨j, rest, m', by rw [Nat.add_right_comm, Nat.add_assoc], by simpa using hm', hcolumn⟩

mutual

/-- The columns of a member stand in the order of their places. -/
theorem ordered_placed (m : Member) : (m.placed.map Prod.fst).Pairwise (· < ·) := by
  cases m with
  | column c => exact List.pairwise_singleton _ _
  | embedded e members => exact ordered_placedFrom 0 members

theorem ordered_placedFrom (i : Nat) (members : List Member) :
    ((placedFrom i members).map Prod.fst).Pairwise (· < ·) := by
  cases members with
  | nil => exact List.Pairwise.nil
  | cons m rest =>
      rw [placedFrom, List.map_append, List.map_map, List.pairwise_append]
      refine ⟨?_, ordered_placedFrom (i + 1) rest, ?_⟩
      · have hfirst := ordered_placed m
        rw [List.pairwise_map] at hfirst ⊢
        exact hfirst.imp fun h => List.cons_lt_cons_iff.mpr (.inr ⟨rfl, h⟩)
      · intro place hplace place' hplace'
        obtain ⟨x, -, rfl⟩ := List.mem_map.mp hplace
        obtain ⟨⟨_, column⟩, hcolumn, rfl⟩ := List.mem_map.mp hplace'
        obtain ⟨j, rest', m', rfl, -, -⟩ := mem_placedFrom.mp hcolumn
        exact List.cons_lt_cons_iff.mpr (.inl (by omega))

end

end Member

/-- The columns of an entity with their places. -/
def Entity.placedColumns (e : Entity) : List (List Nat × Column) := Member.placedFrom 0 e.members

/-! ## the walk -/

/-- There is one column at the place of each leaf, with what the leaf gives it, and no other. -/
structure Flattens (listed : List String) (leafAt : List Nat → List Property → Property → Prop)
    (placed : List (List Nat × Column)) : Prop where
  places : ∀ place, (∃ column, (place, column) ∈ placed) ↔ ∃ path p, leafAt place path p
  columns : ∀ place column path p, (place, column) ∈ placed → leafAt place path p →
    column.ComesFrom listed path p

/-- The scope is that of properties with these around them. -/
structure MemberScope.Under (listed : List String) (outer : List Property) (s : MemberScope) : Prop where
  columnPrefix : s.columnPrefix = String.join (outer.map Property.embeddedPrefix)
  nullable : s.nullable = true ↔ ∃ q ∈ outer, q.type.nullable = true
  path : s.path = dottedPath outer
  ignored : outer = [] → s.ignored = listed

section Walk

variable {c : Catalog} {listed : List String} {outer : List Property} {s : MemberScope} {p : Property}
  {marks : PropertyMarks}

theorem embeds_iff_of_marks {anchor : String} (h : p.marks anchor = .ok marks) :
    Mark.has EmbeddedMark p.annotations = true ↔ marks.embedded.isSome = true := by
  obtain ⟨-, -, hembedded⟩ := find_of_marks h
  exact Mark.isPresent_iff_of_find hembedded

/-- The name of a property's column is the one its marks give it. -/
theorem columnName_of_marks {anchor : String} (h : p.marks anchor = .ok marks) :
    p.columnName = if marks.info.name.isEmpty then p.name else marks.info.name := by
  obtain ⟨⟨info, hinfo⟩, hkey, hembedded⟩ := find_of_marks h
  have hmarks := h.symm.trans (marks_of_find anchor hinfo hkey hembedded)
  rw [Except.ok.inj hmarks, Property.columnName, hinfo]
  cases info <;> rfl

theorem dottedPath_concat (outer : List Property) (p : Property) :
    dottedPath (outer ++ [p]) = some (match dottedPath outer with
      | some parent => parent ++ "." ++ p.name
      | none => p.name) := by
  unfold dottedPath
  by_cases houter : outer = []
  · simp [houter]
  · have hnames : outer.map Property.name ≠ [] := by simpa using houter
    rw [if_neg houter, if_neg (by simp), List.map_append,
      String.intercalate_append_of_ne_nil hnames (by simp)]
    simp

namespace MemberScope.Under

variable (hs : s.Under listed outer)

include hs

theorem ignoreReason?_eq_none_iff : s.ignoreReason? p = none ↔ ¬ p.LeftOut listed outer := by
  have hlisted : p.name ∈ s.listed ↔ outer = [] ∧ p.name ∈ listed := by
    rw [MemberScope.listed, hs.path]
    by_cases houter : outer = []
    · simp [dottedPath, houter, hs.ignored houter]
    · simp [dottedPath, houter]
  rw [DaoForge.ignoreReason?_eq_none_iff, hlisted, Property.LeftOut, not_or, Bool.not_eq_true]

/-- The walk goes into a property iff the properties of its struct stand for it. -/
theorem unfolds_iff (hmarks : p.marks (s.anchorOf p) = .ok marks) :
    p.Unfolds listed outer ↔ s.ignoreReason? p = none ∧ marks.embedded.isSome = true := by
  rw [Property.Unfolds, hs.ignoreReason?_eq_none_iff, embeds_iff_of_marks hmarks]

/-- Inside an embedded property there is one property more around. -/
theorem nested {embedded : EmbeddedMark} (target : Declaration)
    (hembedded : Mark.find EmbeddedMark p.annotations = .ok (some embedded)) :
    (s.nested p embedded target).Under listed (outer ++ [p]) where
  columnPrefix := by
    have hprefix : p.embeddedPrefix = embedded.columnPrefix := by
      rw [Property.embeddedPrefix, hembedded]
    simp [MemberScope.nested, hs.columnPrefix, hprefix]
  nullable := by
    simp [MemberScope.nested, hs.nullable, or_and_right, exists_or]
  path := by
    rw [dottedPath_concat, ← hs.path]
    rfl
  ignored := by simp

theorem columnName_eq (hmarks : p.marks (s.anchorOf p) = .ok marks) :
    s.columnName p marks.info = String.join (outer.map Property.embeddedPrefix) ++ p.columnName := by
  rw [MemberScope.columnName, hs.columnPrefix, columnName_of_marks hmarks]

theorem nullable_iff :
    (p.type.nullable || s.nullable) = true ↔ ∃ q ∈ outer ++ [p], q.type.nullable = true := by
  simp [hs.nullable, or_and_right, exists_or, or_comm]

theorem ignoredColumn_comesFrom (hmarks : p.marks (s.anchorOf p) = .ok marks) {reason : IgnoreReason}
    (hreason : s.ignoreReason? p = some reason) :
    (s.ignoredColumn p marks.info reason).ComesFrom listed outer p where
  property := rfl
  type := rfl
  name := hs.columnName_eq hmarks
  nullable := hs.nullable_iff
  embeddedIn := hs.path
  leftOut := by
    have hleft : ¬ ¬ p.LeftOut listed outer := by simp [← hs.ignoreReason?_eq_none_iff, hreason]
    simpa [MemberScope.ignoredColumn, Column.isStored] using hleft

theorem storedColumn_comesFrom (hmarks : p.marks (s.anchorOf p) = .ok marks)
    (hreason : s.ignoreReason? p = none) (mapping : Mapping) :
    (s.storedColumn p marks.info mapping).ComesFrom listed outer p where
  property := rfl
  type := rfl
  name := hs.columnName_eq hmarks
  nullable := hs.nullable_iff
  embeddedIn := hs.path
  leftOut := by
    have hkept := hs.ignoreReason?_eq_none_iff.mp hreason
    simpa [MemberScope.storedColumn, Column.isStored] using hkept

end MemberScope.Under

/-- A property that is a leaf has one column. -/
theorem flattens_of_leaf {column : Column} (hleaf : ¬ p.Unfolds listed outer)
    (hcolumn : column.ComesFrom listed outer p) :
    Flattens listed (p.LeafAt c listed outer) (Member.column column).placed where
  places place := by
    simp only [Property.leafAt_iff_of_not_unfolds hleaf]
    simp [Member.placed]
  columns place column' path last hmem hlast := by
    obtain ⟨-, rfl⟩ : place = [] ∧ column' = column := by simpa [Member.placed] using hmem
    obtain ⟨-, rfl, rfl⟩ := (Property.leafAt_iff_of_not_unfolds hleaf).mp hlast
    exact hcolumn

/-- A struct has the columns of its properties, member by member. -/
theorem flattens_of_members {d : Declaration} {members : List Member}
    (h : List.Forall₂ (fun q (m : Member) => Flattens listed (q.LeafAt c listed outer) m.placed)
      d.properties members) :
    Flattens listed (d.LeafAt c listed outer) (Member.placedFrom 0 members) where
  places place := by
    simp only [Member.mem_placedFrom, Declaration.leafAt_iff, Nat.zero_add]
    constructor
    · rintro ⟨column, i, rest, m, rfl, hm, hcolumn⟩
      obtain ⟨q, hq, hflat⟩ := (getElem?_of_forall₂ h).1 m hm
      obtain ⟨path, last, hlast⟩ := (hflat.places rest).mp ⟨column, hcolumn⟩
      exact ⟨path, last, i, rest, q, rfl, hq, hlast⟩
    · rintro ⟨path, last, i, rest, q, rfl, hq, hlast⟩
      obtain ⟨m, hm, hflat⟩ := (getElem?_of_forall₂ h).2 q hq
      obtain ⟨column, hcolumn⟩ := (hflat.places rest).mpr ⟨path, last, hlast⟩
      exact ⟨column, i, rest, m, rfl, hm, hcolumn⟩
  columns place column path last hmem hlast := by
    obtain ⟨i, rest, m, rfl, hm, hcolumn⟩ := Member.mem_placedFrom.mp hmem
    obtain ⟨j, rest', q, hplace, hq, hlast⟩ := Declaration.leafAt_iff.mp hlast
    obtain ⟨rfl, rfl⟩ : i = j ∧ rest = rest' := by simpa using hplace
    obtain ⟨m', hm', hflat⟩ := (getElem?_of_forall₂ h).2 q hq
    obtain rfl : m = m' := by simpa [hm'] using hm.symm
    exact hflat.columns rest column path last hcolumn hlast

/-- The findings of properties that each come to one member. -/
theorem forall₂_of_concat {P : Property → Member → Prop} {f : Property → MemberFindings}
    {ps : List Property} (h : ∀ p ∈ ps, ∃ m, (f p).members = [m] ∧ P p m) :
    List.Forall₂ P ps (MemberFindings.concat (ps.map f)).members := by
  induction ps with
  | nil => exact .nil
  | cons p ps ih =>
      obtain ⟨⟨m, hmember, hm⟩, hrest⟩ := List.forall_mem_cons.mp h
      have hsplit : (MemberFindings.concat ((p :: ps).map f)).members =
          m :: (MemberFindings.concat (ps.map f)).members := by
        rw [MemberFindings.concat, List.map_cons, List.flatMap_cons, hmember]
        rfl
      rw [hsplit]
      exact .cons hm (ih hrest)

/-- A property without a problem comes to one member, with a column for each of its leaves. The
induction is on the walk: the properties around grow by the embedded one. -/
theorem flattens_of_comesTo {f : MemberFindings} (h : ComesTo c s p f) (hs : s.Under listed outer)
    (hclean : f.diagnostics = []) :
    ∃ m, f.members = [m] ∧ Flattens listed (p.LeafAt c listed outer) m.placed := by
  induction h generalizing outer with
  | malformed hmarks => exact absurd hclean (ne_nil_of_marks hmarks)
  | @ignored s p marks reason hmarks hreason =>
      have hleaf : ¬ p.Unfolds listed outer := by simp [hs.unfolds_iff hmarks, hreason]
      unfold ignoredMember at hclean ⊢
      split at hclean
      · contradiction
      · next hkey =>
        rw [if_neg hkey]
        exact ⟨_, rfl, flattens_of_leaf hleaf (hs.ignoredColumn_comesFrom hmarks hreason)⟩
  | @column s p marks hmarks hreason hembedded =>
      have hleaf : ¬ p.Unfolds listed outer := by simp [hs.unfolds_iff hmarks, hembedded]
      unfold columnMember at hclean ⊢
      split at hclean
      · contradiction
      · next mapping _ =>
        exact ⟨_, rfl, flattens_of_leaf hleaf (hs.storedColumn_comesFrom hmarks hreason mapping)⟩
  | untargeted => contradiction
  | @embedded s p marks embedded target inner hmarks hreason hembedded htarget hinner ih =>
      have hunfolds : p.Unfolds listed outer := by simp [hs.unfolds_iff hmarks, hreason, hembedded]
      obtain ⟨hresolves, -⟩ := resolves_of_embeddedTarget htarget
      obtain ⟨-, -, hfind⟩ := find_of_marks hmarks
      rw [hembedded] at hfind
      have hclean := clean_of_concat (List.append_eq_nil_iff.mp hclean).1
      have hmembers := forall₂_of_concat fun q hq => ih q hq (hs.nested target hfind) (hclean q hq)
      have hleaves : p.LeafAt c listed outer = target.LeafAt c listed (outer ++ [p]) := by
        funext place path last
        exact propext (Property.leafAt_iff_of_unfolds hunfolds hresolves)
      rw [hleaves]
      exact ⟨_, rfl, flattens_of_members hmembers⟩

end Walk

/-! ## entities -/

/-- The columns of an entity are those of the leaves of its declaration, each at its place and in the
order of the places. -/
structure Entity.Flattened (c : Catalog) (d : Declaration) (listed : List String) (e : Entity) : Prop
    extends Flattens listed (d.LeafAt c listed []) e.placedColumns where
  listed : e.columns = e.placedColumns.map Prod.snd
  ordered : (e.placedColumns.map Prod.fst).Pairwise (· < ·)

section Entities

variable {c : Catalog} {d : Declaration} {record : EntityMark} {e : Entity}

mutual

/-- Flagging columns leaves them at their places. -/
theorem Member.placed_markKey (names : List String) (m : Member) :
    (m.markKey names).placed = m.placed.map (Prod.map id (Column.flagged names)) := by
  cases m with
  | column column => rfl
  | embedded e members =>
      rw [Member.markKey, Member.placed, Member.placed]
      exact Member.placedFrom_markKeyAll names 0 members

theorem Member.placedFrom_markKeyAll (names : List String) (i : Nat) (members : List Member) :
    Member.placedFrom i (Member.markKeyAll names members) =
      (Member.placedFrom i members).map (Prod.map id (Column.flagged names)) := by
  cases members with
  | nil => rfl
  | cons m rest =>
      rw [Member.markKeyAll, Member.placedFrom, Member.placedFrom, List.map_append,
        Member.placed_markKey names m, Member.placedFrom_markKeyAll names (i + 1) rest]
      simp [Function.comp_def]

end

theorem Flattens.flagged {listed : List String}
    {leafAt : List Nat → List Property → Property → Prop} {placed : List (List Nat × Column)}
    (h : Flattens listed leafAt placed) (names : List String) :
    Flattens listed leafAt (placed.map (Prod.map id (Column.flagged names))) where
  places place := by
    rw [← h.places place]
    simp
  columns place column path p hmem hleaf := by
    obtain ⟨⟨place, plain⟩, hplain, ⟨⟩⟩ := List.mem_map.mp hmem
    exact (h.columns place plain path p hplain hleaf).flagged names

/-- The scope of an entity's own properties. -/
theorem MemberScope.under_entity (d : Declaration) (record : EntityMark) :
    MemberScope.Under record.ignoredColumns []
      { entity := d.qualifiedName, ignored := record.ignoredColumns, chain := [d.qualifiedName] } where
  columnPrefix := rfl
  nullable := by simp
  path := rfl
  ignored _ := rfl

theorem Entity.ShapedBy.flattens (h : e.ShapedBy c d record) (hd : d ∈ c.declarations) :
    Flattens record.ignoredColumns (d.LeafAt c record.ignoredColumns []) e.placedColumns := by
  have hwalk : ∀ p ∈ d.properties, ∃ m, (memberFindings c c.size _ p).members = [m] ∧
      Flattens record.ignoredColumns (p.LeafAt c record.ignoredColumns []) m.placed :=
    fun p hp => flattens_of_comesTo (comesTo_memberFindings (MemberScope.fits_entity hd record))
      (MemberScope.under_entity d record) (clean_of_concat h.clean p hp)
  rw [Entity.placedColumns, h.members, Member.placedFrom_markKeyAll]
  exact (flattens_of_members (forall₂_of_concat hwalk)).flagged _

/-- **The columns of an entity** that resolves are the leaves of its declaration. -/
theorem flattened_of_entityOf (hd : d ∈ c.declarations) (h : c.entityOf d = .ok e) :
    ∃ record, Mark.find EntityMark d.annotations = .ok (some record) ∧
      e.Flattened c d record.ignoredColumns := by
  obtain ⟨shape, foreignKeys, hshape, rfl, -⟩ := shape_of_entityOf h
  obtain ⟨-, record, hrecord, hshaped⟩ := shapedBy_of_entityShape hshape
  have hflat := hshaped.flattens hd
  refine ⟨record, hrecord, ⟨hflat.places, hflat.columns⟩, ?_, ?_⟩
  · exact (Member.map_snd_placedFrom 0 shape.members).symm
  · exact Member.ordered_placedFrom 0 shape.members

end Entities

/-! ## runs -/

namespace Call

/-- **Flattening is exact**: every entity that a run replies with is of a declaration, and its columns
are those of the declaration's leaves. -/
theorem entity_flattened {c : Catalog} {calls : List Call} {e : Entity}
    (h : .entity (.ok e) ∈ ((calls.mapM (Call.answer c)).run {}).run.1) :
    ∃ d ∈ c.declarations, d.qualifiedName = e.declaration ∧
      ∃ record, Mark.find EntityMark d.annotations = .ok (some record) ∧
        e.Flattened c d record.ignoredColumns := by
  obtain ⟨d, hd, hentity⟩ := entityOf_of_reply h
  exact ⟨d, hd, (declaration_of_entityOf hentity).symm, flattened_of_entityOf hd hentity⟩

/-- Shops at an optional address, with prefixes of two embeddings, a renamed column, and a listed name
that an embedded property has too. -/
def shopCatalog : Catalog where
  declarations :=
    [{ qualifiedName := "app::Point"
       properties :=
         [{ name := "x", type := .ofName "i64" },
          { name := "y"
            type := .ofName "i64"
            annotations := [{ name := "ColumnInfo", arguments := [("name", .text "north")] }] }] },
      { qualifiedName := "app::Address"
        properties :=
          [{ name := "at"
             type := .ofName "app::Point"
             annotations := [{ name := "Embedded", arguments := [("prefix", .text "at_")] }] },
            { name := "note", type := .ofName "String", annotations := [{ name := "Ignore" }] },
            { name := "cache", type := .ofName "String" }] },
      { qualifiedName := "app::Shop"
        annotations := [{ name := "Entity", arguments := [("ignoredColumns", .text "cache")] }]
        properties :=
          [{ name := "id", type := .ofName "i64", annotations := [{ name := "PrimaryKey" }] },
            { name := "home"
              type := { name := "app::Address", nullable := true }
              annotations := [{ name := "Embedded", arguments := [("prefix", .text "home_")] }] },
            { name := "cache", type := .ofName "app::Point" }] }]
  nodup := by decide

/-- The columns of a shop: name, whether it is optional and stored, and the properties around it. -/
theorem entity_flattened_shop :
    ∃ e, .entity (.ok e) ∈ (([.entity "app::Shop"].mapM (Call.answer shopCatalog)).run {}).run.1 ∧
      e.columns.map (fun column =>
          (column.name, column.isNullable, column.isStored, column.embeddedIn)) =
        [("id", false, true, none), ("home_at_x", true, true, some "home.at"),
          ("home_at_north", true, true, some "home.at"), ("home_note", true, false, some "home"),
          ("home_cache", true, true, some "home"), ("cache", false, false, none)] ∧
      ∃ d ∈ shopCatalog.declarations, d.qualifiedName = e.declaration ∧
        ∃ record, Mark.find EntityMark d.annotations = .ok (some record) ∧
          e.Flattened shopCatalog d record.ignoredColumns := by
  have hrun : ((shopCatalog.byName (Session.entity shopCatalog) "app::Shop").run
        {}).run.1.toOption.map (fun e => e.columns.map fun column =>
          (column.name, column.isNullable, column.isStored, column.embeddedIn)) =
      some [("id", false, true, none), ("home_at_x", true, true, some "home.at"),
        ("home_at_north", true, true, some "home.at"), ("home_note", true, false, some "home"),
        ("home_cache", true, true, some "home"), ("cache", false, false, none)] := by
    decide +kernel
  obtain ⟨e, he, hcolumns⟩ := Option.map_eq_some_iff.mp hrun
  have hreply := mem_replies_of_run he
  exact ⟨e, hreply, hcolumns, entity_flattened hreply⟩

end Call

end DaoForge
