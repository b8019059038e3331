import DaoForge.Proofs.Resolve.Checked
import DaoForge.Resolve.Entity
import Mathlib.Data.List.Nodup

/-!
# DaoForge.Proofs.Resolve.Entity

What holds of every entity that resolves.

1. `memberFindings_induction`: what holds of a property if it holds of the properties of the struct
   that it embeds;
2. `MemberFindings.Sound`: a candidate for the key stands for columns of the table;
3. `Entity.ShapedBy`: what an entity comes from that was resolved without a problem;
4. `Entity.WellKeyed`: the names of the table's columns are distinct, the key's columns are among
   them, and a column is flagged iff the key names it; `wellKeyed_of_entityOf`.
-/

namespace DaoForge

/-! ## members -/

namespace Member

/-- Names of the columns that are in the table. -/
def storedNames (members : List Member) : List String :=
  ((columnsOf members).filter Column.isStored).map Column.name

theorem columnsOf_append (members members' : List Member) :
    columnsOf (members ++ members') = columnsOf members ++ columnsOf members' := by
  rw [columnsOf_eq_flatMap, List.flatMap_append, ← columnsOf_eq_flatMap, ← columnsOf_eq_flatMap]

theorem storedNames_append (members members' : List Member) :
    storedNames (members ++ members') = storedNames members ++ storedNames members' := by
  rw [storedNames, columnsOf_append, List.filter_append, List.map_append]
  rfl

end Member

namespace MemberFindings

/-- A candidate stands for columns of the table, and no column is flagged yet. -/
structure Sound (f : MemberFindings) : Prop where
  keys : ∀ key ∈ f.keys, ∀ name ∈ key.columns, name ∈ Member.storedNames f.members
  unflagged : ∀ column ∈ Member.columnsOf f.members, column.isPrimaryKey = false

theorem sound_of_nil {f : MemberFindings} (hmembers : f.members = []) (hkeys : f.keys = []) :
    f.Sound where
  keys := by simp [hkeys]
  unflagged := by simp [hmembers, Member.columnsOf]

theorem sound_concat {findings : List MemberFindings} (h : ∀ f ∈ findings, f.Sound) :
    (concat findings).Sound := by
  induction findings with
  | nil => exact sound_of_nil rfl rfl
  | cons f findings ih =>
      obtain ⟨hf, hfindings⟩ := List.forall_mem_cons.mp h
      have hrest := ih hfindings
      have hmembers : (concat (f :: findings)).members = f.members ++ (concat findings).members := rfl
      have hkeys : (concat (f :: findings)).keys = f.keys ++ (concat findings).keys := rfl
      constructor
      · rw [hkeys, hmembers, Member.storedNames_append]
        intro key hkey name hname
        rcases List.mem_append.mp hkey with hkey | hkey
        · exact List.mem_append_left _ (hf.keys key hkey name hname)
        · exact List.mem_append_right _ (hrest.keys key hkey name hname)
      · rw [hmembers, Member.columnsOf_append]
        exact List.forall_mem_append.mpr ⟨hf.unflagged, hrest.unflagged⟩

theorem mem_columnsOf_concat {findings : List MemberFindings} {column : Column} :
    column ∈ Member.columnsOf (concat findings).members ↔
      ∃ f ∈ findings, column ∈ Member.columnsOf f.members := by
  simp only [Member.columnsOf_eq_flatMap, concat, List.mem_flatMap]
  grind

theorem sound_problem (anchor : String) (error : SpecError) : (problem anchor error).Sound :=
  sound_of_nil rfl rfl

end MemberFindings

section Members

variable (s : MemberScope) (p : Property) (marks : PropertyMarks)

theorem sound_ignoredMember (reason : IgnoreReason) : (ignoredMember s p marks reason).Sound := by
  unfold ignoredMember
  split
  · exact MemberFindings.sound_problem _ _
  · refine ⟨by simp, ?_⟩
    intro column hcolumn
    obtain rfl := List.mem_singleton.mp hcolumn
    rfl

theorem sound_columnMember : (columnMember s p marks).Sound := by
  unfold columnMember
  split
  · exact MemberFindings.sound_problem _ _
  · next mapping _ =>
    constructor
    · intro key hkey name hname
      obtain ⟨record, -, rfl⟩ := List.mem_map.mp hkey
      exact hname
    · intro column hcolumn
      obtain rfl := List.mem_singleton.mp hcolumn
      rfl

/-- An embedded property has the columns of its struct. -/
theorem columnsOf_embeddedMember (embedded : EmbeddedMark) (target : Declaration)
    (inner : MemberFindings) :
    Member.columnsOf (embeddedMember s p marks embedded target inner).members =
      Member.columnsOf inner.members := by
  simp [embeddedMember, Member.columnsOf, Member.columns]

theorem sound_embeddedMember (embedded : EmbeddedMark) (target : Declaration)
    {inner : MemberFindings} (h : inner.Sound) :
    (embeddedMember s p marks embedded target inner).Sound := by
  have hcolumns := columnsOf_embeddedMember s p marks embedded target inner
  have hnames : Member.storedNames (embeddedMember s p marks embedded target inner).members =
      Member.storedNames inner.members := by
    rw [Member.storedNames, hcolumns]
    rfl
  constructor
  · rw [hnames]
    intro key hkey name hname
    rcases List.mem_append.mp hkey with hkey | hkey
    · exact h.keys key hkey name hname
    · obtain ⟨record, -, rfl⟩ := List.mem_map.mp hkey
      exact hname
  · rw [hcolumns]
    exact h.unflagged

end Members

/-- Induction along the embeddings: what holds of a property in each way that it can end, and of an
embedded one if it holds of the properties of its struct, holds of every property. -/
theorem memberFindings_induction {c : Catalog}
    {motive : Nat → MemberScope → Property → MemberFindings → Prop}
    (malformed : ∀ depth s p faults, p.marks (s.anchorOf p) = .error faults →
      motive depth s p { diagnostics := faults })
    (ignored : ∀ depth s p marks reason, p.marks (s.anchorOf p) = .ok marks →
      motive depth s p (ignoredMember s p marks reason))
    (column : ∀ depth s p marks, p.marks (s.anchorOf p) = .ok marks →
      motive depth s p (columnMember s p marks))
    (untargeted : ∀ depth s p error, embeddedTarget c s p = .error error →
      motive depth s p (.problem (s.anchorOf p) error))
    (exhausted : ∀ s p target, embeddedTarget c s p = .ok target → motive 0 s p {})
    (embedded : ∀ depth s p marks embedded target, embeddedTarget c s p = .ok target →
      (∀ q ∈ target.properties, motive depth (s.nested p embedded target) q
        (memberFindings c depth (s.nested p embedded target) q)) →
      motive (depth + 1) s p (embeddedMember s p marks embedded target <|
        .concat (target.properties.map (memberFindings c depth (s.nested p embedded target)))))
    (depth : Nat) (s : MemberScope) (p : Property) :
    motive depth s p (memberFindings c depth s p) := by
  induction depth using Nat.strongRecOn generalizing s p with
  | ind depth ih =>
      fun_cases memberFindings c depth s p with
      | case1 _ s p _ faults hmarks => exact malformed depth s p faults hmarks
      | case2 _ s p _ marks hmarks reason => exact ignored depth s p marks reason hmarks
      | case3 _ s p _ marks hmarks => exact column depth s p marks hmarks
      | case4 _ s p _ _ _ _ _ _ error htarget => exact untargeted depth s p error htarget
      | case5 s p _ _ _ _ _ _ target htarget => exact exhausted s p target htarget
      | case6 s p _ marks _ _ mark _ target htarget depth =>
          refine embedded depth s p marks mark target htarget fun q _ => ?_
          exact ih depth (Nat.lt_succ_self depth) _ q

/-- Properties are sound however deep they embed structs. -/
theorem sound_memberFindings (c : Catalog) (depth : Nat) (s : MemberScope) (p : Property) :
    (memberFindings c depth s p).Sound := by
  induction depth, s, p using memberFindings_induction (c := c) with
  | malformed => exact MemberFindings.sound_of_nil rfl rfl
  | ignored _ s p marks reason => exact sound_ignoredMember s p marks reason
  | column _ s p marks => exact sound_columnMember s p marks
  | untargeted => exact MemberFindings.sound_problem _ _
  | exhausted => exact MemberFindings.sound_of_nil rfl rfl
  | embedded depth s p marks embedded target _ ih =>
      refine sound_embeddedMember s p marks embedded target ?_
      refine MemberFindings.sound_concat fun f hf => ?_
      obtain ⟨q, hq, rfl⟩ := List.mem_map.mp hf
      exact ih q hq

/-! ## keys -/

/-- What a key is of a table with the given columns: it names columns of the table, and if it is
generated, one column only. -/
structure PrimaryKey.Fits (key : PrimaryKey) (columns : List String) : Prop where
  columns : ∀ name ∈ key.columns, name ∈ columns
  generated : key.autoGenerate = true → ∃ name, key.columns = [name]

theorem isSome_column?_iff {e : Entity} {name : String} :
    (e.column? name).isSome = true ↔ name ∈ Member.storedNames e.members := by
  rw [Entity.column?, List.find?_isSome]
  constructor
  · rintro ⟨column, hcolumn, hname⟩
    obtain rfl : column.name = name := by simpa using hname
    exact List.mem_map_of_mem hcolumn
  · intro hname
    obtain ⟨column, hcolumn, rfl⟩ := List.mem_map.mp hname
    exact ⟨column, hcolumn, by simp⟩

/-- Names none of which is missing are those of columns of the table. -/
theorem mem_storedNames_of_filter {e : Entity} {names : List String}
    (h : (names.filter fun name => (e.column? name).isNone) = []) {name : String}
    (hname : name ∈ names) : name ∈ Member.storedNames e.members := by
  have hcolumn := List.filter_eq_nil_iff.mp h name hname
  rw [← isSome_column?_iff, Option.isSome_iff_ne_none]
  simpa using hcolumn

theorem fits_of_resolvePrimaryKey {e : Entity} {record : EntityMark} {keys : List KeyCandidate}
    {key : PrimaryKey}
    (hkeys : ∀ key ∈ keys, ∀ name ∈ key.columns, name ∈ Member.storedNames e.members)
    (hvalue : (resolvePrimaryKey e record keys).value? = some key) :
    key.Fits (Member.storedNames e.members) := by
  revert hvalue
  fun_cases resolvePrimaryKey e record keys with
  | case1 owner first rest =>
      intro hvalue
      rw [Checked.value?_bind, Option.bind_eq_some_iff] at hvalue
      obtain ⟨_, hdemand, hkey⟩ := hvalue
      cases hkey
      refine ⟨fun name hname => ?_, by simp⟩
      have hnone := List.map_eq_nil_iff.mp (Checked.eq_nil_of_demand hdemand)
      exact mem_storedNames_of_filter hnone hname
  | case2 => exact fun hvalue => nomatch hvalue
  | case3 candidate _ isInteger hinteger =>
      intro hvalue
      cases hvalue
      refine ⟨hkeys candidate (List.mem_singleton_self _), fun hgenerated => ?_⟩
      have himp : candidate.record.autoGenerate = true → isInteger = true := by simpa using hinteger
      have hone := himp hgenerated
      unfold isInteger at hone
      split at hone
      · next name hname => exact ⟨name, hname⟩
      · contradiction
  | case4 => exact fun hvalue => nomatch hvalue

theorem decides_resolvePrimaryKey (e : Entity) (record : EntityMark) (keys : List KeyCandidate) :
    (resolvePrimaryKey e record keys).Decides := by
  fun_cases resolvePrimaryKey e record keys with
  | case1 =>
      exact Checked.decides_bind (Checked.decides_demand _) fun _ => Checked.decides_pure _
  | case2 => exact Checked.decides_fail (List.cons_ne_nil _ _)
  | case3 => exact Checked.decides_pure _
  | case4 => exact Checked.decides_fail (List.cons_ne_nil _ _)

/-! ## flags -/

/-- The column, flagged if it is in the table and has one of the names. -/
def Column.flagged (names : List String) (c : Column) : Column :=
  if c.isStored && names.contains c.name then { c with isPrimaryKey := true } else c

namespace Column

variable (names : List String) (c : Column)

theorem flagged_name : (c.flagged names).name = c.name := by
  unfold flagged
  split <;> rfl

theorem flagged_isStored : (c.flagged names).isStored = c.isStored := by
  unfold flagged
  split <;> rfl

theorem flagged_isPrimaryKey_iff (h : c.isPrimaryKey = false) (hstored : c.isStored = true) :
    (c.flagged names).isPrimaryKey = true ↔ c.name ∈ names := by
  unfold flagged
  split <;> simp_all

end Column

mutual

theorem Member.columns_markKey (names : List String) (m : Member) :
    (m.markKey names).columns = m.columns.map (Column.flagged names) := by
  cases m with
  | column c => rfl
  | embedded e members =>
      rw [Member.markKey, Member.columns, Member.columns]
      exact Member.columnsOf_markKeyAll names members

theorem Member.columnsOf_markKeyAll (names : List String) (members : List Member) :
    Member.columnsOf (Member.markKeyAll names members) =
      (Member.columnsOf members).map (Column.flagged names) := by
  cases members with
  | nil => rfl
  | cons m rest =>
      rw [Member.markKeyAll, Member.columnsOf, Member.columnsOf, List.map_append,
        Member.columns_markKey names m, Member.columnsOf_markKeyAll names rest]

end

/-- The columns of the table after flagging. -/
theorem filter_isStored_flagged (names : List String) (columns : List Column) :
    (columns.map (Column.flagged names)).filter Column.isStored =
      (columns.filter Column.isStored).map (Column.flagged names) := by
  rw [List.filter_map]
  have hsame : Column.isStored ∘ Column.flagged names = Column.isStored :=
    funext (Column.flagged_isStored names)
  rw [hsame]

/-! ## entities -/

/-- The key of an entity agrees with its columns. -/
structure Entity.WellKeyed (e : Entity) : Prop where
  nodup : (e.storedColumns.map Column.name).Nodup
  fits : e.primaryKey.Fits (e.storedColumns.map Column.name)
  flagged : ∀ column ∈ e.storedColumns,
    column.isPrimaryKey = true ↔ column.name ∈ e.primaryKey.columns

theorem repeated_eq_nil_iff {seen names : List String} :
    repeated seen names = [] ↔ names.Nodup ∧ ∀ name ∈ names, name ∉ seen := by
  induction names generalizing seen with
  | nil => simp [repeated]
  | cons name names ih =>
      rw [repeated]
      by_cases hseen : name ∈ seen
      · simp [hseen]
      · rw [if_neg (by simpa using hseen), ih]
        simp only [List.nodup_cons, List.mem_cons, not_or]
        grind

/-- With a key, its columns are flagged. -/
theorem wellKeyed_markKeyAll {e : Entity} {key : PrimaryKey}
    (hnodup : (e.storedColumns.map Column.name).Nodup)
    (hunflagged : ∀ column ∈ Member.columnsOf e.members, column.isPrimaryKey = false)
    (hkey : key.Fits (Member.storedNames e.members)) :
    Entity.WellKeyed { e with
      members := Member.markKeyAll key.columns e.members
      primaryKey := key } := by
  have hstored : ((Member.columnsOf (Member.markKeyAll key.columns e.members)).filter
      Column.isStored) = e.storedColumns.map (Column.flagged key.columns) := by
    rw [Member.columnsOf_markKeyAll, filter_isStored_flagged]
    rfl
  have hnames : (e.storedColumns.map (Column.flagged key.columns)).map Column.name =
      e.storedColumns.map Column.name := by
    rw [List.map_map]
    exact List.map_congr_left fun column _ => Column.flagged_name key.columns column
  constructor
  · rw [Entity.storedColumns, Entity.columns, hstored, hnames]
    exact hnodup
  · rw [Entity.storedColumns, Entity.columns, hstored, hnames]
    exact hkey
  · rw [Entity.storedColumns, Entity.columns, hstored]
    intro column hcolumn
    obtain ⟨plain, hplain, rfl⟩ := List.mem_map.mp hcolumn
    obtain ⟨hmem, his⟩ := List.mem_filter.mp hplain
    rw [Column.flagged_name]
    exact Column.flagged_isPrimaryKey_iff key.columns plain (hunflagged plain hmem) his

/-- What the properties of an entity come to. -/
def Catalog.findings (c : Catalog) (d : Declaration) (record : EntityMark) : MemberFindings :=
  .concat <| d.properties.map <| memberFindings c c.size
    { entity := d.qualifiedName, ignored := record.ignoredColumns, chain := [d.qualifiedName] }

theorem sound_findings (c : Catalog) (d : Declaration) (record : EntityMark) :
    (c.findings d record).Sound := by
  refine MemberFindings.sound_concat fun f hf => ?_
  obtain ⟨p, -, rfl⟩ := List.mem_map.mp hf
  exact sound_memberFindings c c.size _ p

/-- What a shape comes from: findings without a problem, columns of distinct names, and a construction,
a key and indices without a problem. -/
structure Entity.ShapedBy (c : Catalog) (d : Declaration) (record : EntityMark) (e : Entity) :
    Prop where
  declaration : e.declaration = d.qualifiedName
  clean : (c.findings d record).diagnostics = []
  members : e.members = Member.markKeyAll e.primaryKey.columns (c.findings d record).members
  nodup : (Member.storedNames (c.findings d record).members).Nodup
  construction : d.construction
    (((c.findings d record).members.filter Member.isStored).map Member.property) d.qualifiedName =
      (e.construction, [])
  key : e.primaryKey.Fits (Member.storedNames (c.findings d record).members)
  indices : resolveIndices { e with indices := [] } record = (e.indices, [])

theorem shapedBy_of_shapeOf {c : Catalog} {d : Declaration} {record : EntityMark} {e : Entity}
    (h : c.shapeOf d record = .ok e) : e.ShapedBy c d record := by
  unfold Catalog.shapeOf at h
  extract_lets owner unknown scope findings stored at h
  split at h
  next construction constructionFaults hconstruction =>
  extract_lets entity duplicates key keyed at h
  split at h
  next indices indexFaults hindices =>
  split at h
  · next hnone =>
    cases h
    simp only [List.append_eq_nil_iff] at hnone
    obtain ⟨⟨⟨⟨⟨-, hclean⟩, hbuilt⟩, hduplicates⟩, hkeyFound⟩, hindexFaults⟩ := hnone
    obtain ⟨primaryKey, hkey⟩ := decides_resolvePrimaryKey _ _ _ hkeyFound
    have hkeyed : keyed = { entity with
        members := Member.markKeyAll primaryKey.columns entity.members
        primaryKey } := by
      unfold keyed
      rw [show key.value? = some primaryKey from hkey]
    rw [hkeyed] at hindices ⊢
    exact {
      declaration := rfl
      clean := hclean
      members := rfl
      nodup := (repeated_eq_nil_iff.mp (List.map_eq_nil_iff.mp hduplicates)).1
      construction := hbuilt ▸ hconstruction
      key := fits_of_resolvePrimaryKey (sound_findings c d record).keys hkey
      indices := hindexFaults ▸ hindices }
  · contradiction

theorem shapeOf_of_entityShape {c : Catalog} {d : Declaration} {e : Entity}
    (h : c.entityShape d = .ok e) :
    d.isTrait = false ∧ ∃ record, Mark.find EntityMark d.annotations = .ok (some record) ∧
      c.shapeOf d record = .ok e := by
  unfold Catalog.entityShape at h
  split at h
  · contradiction
  next htrait =>
  split at h
  · next record hrecord => exact ⟨Bool.eq_false_iff.mpr htrait, record, hrecord, h⟩
  · contradiction
  · contradiction

theorem shapedBy_of_entityShape {c : Catalog} {d : Declaration} {e : Entity}
    (h : c.entityShape d = .ok e) :
    d.isTrait = false ∧ ∃ record, Mark.find EntityMark d.annotations = .ok (some record) ∧
      e.ShapedBy c d record := by
  obtain ⟨hstruct, record, hrecord, hshape⟩ := shapeOf_of_entityShape h
  exact ⟨hstruct, record, hrecord, shapedBy_of_shapeOf hshape⟩

theorem wellKeyed_of_entityShape {c : Catalog} {d : Declaration} {e : Entity}
    (h : c.entityShape d = .ok e) : e.WellKeyed := by
  obtain ⟨-, record, -, hshaped⟩ := shapedBy_of_entityShape h
  have hkeyed := wellKeyed_markKeyAll (e := { e with members := (c.findings d record).members })
    hshaped.nodup (sound_findings c d record).unflagged hshaped.key
  rw [← hshaped.members] at hkeyed
  exact hkeyed

/-- An entity is its shape with foreign keys, each of one that it lists. -/
theorem shape_of_entityOf {c : Catalog} {d : Declaration} {e : Entity} (h : c.entityOf d = .ok e) :
    ∃ shape foreignKeys, c.entityShape d = .ok shape ∧ e = { shape with foreignKeys } ∧
      ∀ key ∈ foreignKeys, ∃ mark ∈ d.foreignKeyMarks,
        (c.foreignKey (.known c.entityShape) shape mark).run.run.Builds key := by
  unfold Catalog.entityOf Catalog.resolveEntity at h
  rw [Resolver.known_apply, pure_bind] at h
  cases hshape : c.entityShape d with
  | error faults =>
      rw [hshape] at h
      contradiction
  | ok shape =>
      rw [hshape] at h
      have hmap : Except.map (fun foreignKeys => { shape with foreignKeys }) (Checked.toExcept _) =
          .ok e := h
      cases hkeys : Checked.toExcept _ with
      | error faults =>
          rw [hkeys] at hmap
          contradiction
      | ok foreignKeys =>
          rw [hkeys] at hmap
          cases hmap
          refine ⟨shape, foreignKeys, rfl, rfl, fun key hkey => ?_⟩
          exact CheckedT.builds_all (Checked.builds_of_toExcept hkeys) hkey

/-- **The key of an entity** names columns of the table, all of them and only them flagged. -/
theorem wellKeyed_of_entityOf {c : Catalog} {d : Declaration} {e : Entity}
    (h : c.entityOf d = .ok e) : e.WellKeyed := by
  obtain ⟨shape, foreignKeys, hshape, rfl, -⟩ := shape_of_entityOf h
  have hkeyed := wellKeyed_of_entityShape hshape
  exact ⟨hkeyed.nodup, hkeyed.fits, hkeyed.flagged⟩

theorem Entity.mem_storedColumns_of_mem_keyColumns {e : Entity} {column : Column}
    (hcolumn : column ∈ e.keyColumns) : column ∈ e.storedColumns := by
  obtain ⟨name, -, hfound⟩ := List.mem_filterMap.mp hcolumn
  exact List.mem_of_find?_eq_some hfound

namespace Entity.WellKeyed

variable {e : Entity} (h : e.WellKeyed)

include h

/-- The key's columns are found, in key order. -/
theorem keyColumns_names : e.keyColumns.map Column.name = e.primaryKey.columns := by
  have hcolumns : ∀ name ∈ e.primaryKey.columns, (e.column? name).isSome = true :=
    fun name hname => isSome_column?_iff.mpr (h.fits.columns name hname)
  unfold Entity.keyColumns
  generalize e.primaryKey.columns = names at hcolumns
  induction names with
  | nil => rfl
  | cons name names ih =>
      obtain ⟨hfirst, hrest⟩ := List.forall_mem_cons.mp hcolumns
      obtain ⟨column, hcolumn⟩ := Option.isSome_iff_exists.mp hfirst
      have hname : column.name = name := by simpa using List.find?_some hcolumn
      rw [List.filterMap_cons_some hcolumn, List.map_cons, hname, ih hrest]

/-- The columns that are flagged are those of the key, each once. -/
theorem flagged_names (hnodup : e.primaryKey.columns.Nodup) :
    ((e.storedColumns.filter Column.isPrimaryKey).map Column.name).Perm e.primaryKey.columns := by
  have hflags : e.storedColumns.filter Column.isPrimaryKey =
      e.storedColumns.filter ((fun name => decide (name ∈ e.primaryKey.columns)) ∘ Column.name) :=
    List.filter_congr fun column hcolumn => by
      rw [Bool.eq_iff_iff, h.flagged column hcolumn, Function.comp_apply, decide_eq_true_iff]
  rw [hflags, ← List.filter_map, List.perm_ext_iff_of_nodup (h.nodup.filter _) hnodup]
  intro name
  have hcolumn := h.fits.columns name
  simp only [List.mem_filter, decide_eq_true_eq]
  exact ⟨And.right, fun hname => ⟨hcolumn hname, hname⟩⟩

/-- A generated key is the one column that is flagged. -/
theorem isGenerated_iff {column : Column} (hcolumn : column ∈ e.storedColumns) :
    (column.isPrimaryKey && e.primaryKey.autoGenerate) = true ↔
      e.primaryKey.autoGenerate = true ∧ e.primaryKey.columns = [column.name] := by
  rw [Bool.and_eq_true, and_comm, h.flagged column hcolumn]
  refine and_congr_right fun hgenerated => ?_
  obtain ⟨name, hname⟩ := h.fits.generated hgenerated
  rw [hname, List.mem_singleton, List.singleton_inj, eq_comm]

end Entity.WellKeyed

end DaoForge
