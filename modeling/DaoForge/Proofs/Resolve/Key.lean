import DaoForge.Proofs.Resolve.Flatten

/-!
# DaoForge.Proofs.Resolve.Key

Where the key of an entity comes from, and when it is one.

1. `Declaration.KeyAt`: the places at which a property is marked as the key;
2. `Keyed`: the walk collects one candidate for each of these places, with the columns of the table at
   the place or under it; `keyed_of_comesTo`;
3. `Entity.KeyFrom`: the key is the columns that the entity lists, or stands for the only marked
   property; `keyFrom_of_entityOf`;
4. `Call.key_real_iff`: a key names columns, and each once, iff no name is listed twice and the marked
   property has a column in the table. Neither is checked.
-/

namespace DaoForge

/-! ## marked properties -/

/-- The property is marked as the key, and not left out. -/
def Property.IsKey (listed : List String) (outer : List Property) (p : Property)
    (mark : PrimaryKeyMark) : Prop :=
  ¬ p.LeftOut listed outer ∧ Mark.find PrimaryKeyMark p.annotations = .ok (some mark)

/-- Embeddings lead from the property to one that is marked as the key. -/
def Property.KeyAt (c : Catalog) (listed : List String) (outer : List Property) (p : Property)
    (place : List Nat) (mark : PrimaryKeyMark) : Prop :=
  ∃ path last, p.Reaches c listed outer place path last ∧ last.IsKey listed path mark

/-- Embeddings lead from a property of the struct to one that is marked as the key. -/
def Declaration.KeyAt (c : Catalog) (listed : List String) (outer : List Property) (d : Declaration)
    (place : List Nat) (mark : PrimaryKeyMark) : Prop :=
  ∃ path last, d.Reaches c listed outer place path last ∧ last.IsKey listed path mark

section Marked

variable {c : Catalog} {listed : List String} {outer : List Property} {p : Property}
  {d target : Declaration} {place : List Nat} {mark : PrimaryKeyMark}

theorem Declaration.keyAt_iff :
    d.KeyAt c listed outer place mark ↔ ∃ i rest p, place = i :: rest ∧ d.properties[i]? = some p ∧
      p.KeyAt c listed outer rest mark := by
  simp only [Declaration.KeyAt, Declaration.Reaches, Property.KeyAt]
  grind

theorem Property.keyAt_iff_of_not_unfolds (h : ¬ p.Unfolds listed outer) :
    p.KeyAt c listed outer place mark ↔ place = [] ∧ p.IsKey listed outer mark := by
  simp only [Property.KeyAt, Property.reaches_iff_of_not_unfolds h]
  grind

theorem Property.keyAt_iff_of_unfolds (h : p.Unfolds listed outer)
    (htarget : c.resolve? p.type = some target) :
    p.KeyAt c listed outer place mark ↔
      target.KeyAt c listed (outer ++ [p]) place mark ∨ place = [] ∧ p.IsKey listed outer mark := by
  simp only [Property.KeyAt, Declaration.KeyAt, Property.reaches_iff_of_unfolds h htarget]
  grind

end Marked

/-! ## columns under a place -/

/-- The names of the table's columns at the place or under it. -/
def columnsUnder (place : List Nat) (placed : List (List Nat × Column)) : List String :=
  (placed.filter fun x => place.isPrefixOf x.1 && x.2.isStored).map fun x => x.2.name

section Under

variable {place : List Nat} {placed placed' : List (List Nat × Column)}

theorem columnsUnder_append :
    columnsUnder place (placed ++ placed') = columnsUnder place placed ++ columnsUnder place placed' := by
  simp [columnsUnder]

theorem columnsUnder_cons (i j : Nat) :
    columnsUnder (i :: place) (placed.map (Prod.map (List.cons j) id)) =
      if i = j then columnsUnder place placed else [] := by
  by_cases hij : i = j
  · simp [columnsUnder, List.filter_map, Function.comp_def, hij]
  · simp [columnsUnder, List.filter_map, Function.comp_def, hij]

theorem columnsUnder_placedFrom_of_lt {i k : Nat} (h : i < k) (members : List Member) :
    columnsUnder (i :: place) (Member.placedFrom k members) = [] := by
  induction members generalizing k with
  | nil => rfl
  | cons m members ih =>
      rw [Member.placedFrom, columnsUnder_append, columnsUnder_cons, if_neg (Nat.ne_of_lt h),
        ih (Nat.lt_succ_of_lt h), List.append_nil]

/-- All columns of the table are under the empty place. -/
theorem columnsUnder_nil (i : Nat) (members : List Member) :
    columnsUnder [] (Member.placedFrom i members) = Member.storedNames members := by
  rw [Member.storedNames, ← Member.map_snd_placedFrom i]
  simp [columnsUnder, List.filter_map, Function.comp_def]

theorem columnsUnder_sublist : (columnsUnder place placed).Sublist (columnsUnder [] placed) := by
  refine List.Sublist.map _ (List.monotone_filter_right placed fun x hx => ?_)
  rw [Bool.and_eq_true] at hx
  simp [hx.2]

theorem columnsUnder_flagged (names : List String) :
    columnsUnder place (placed.map (Prod.map id (Column.flagged names))) = columnsUnder place placed := by
  simp [columnsUnder, List.filter_map, Function.comp_def, Column.flagged_isStored, Column.flagged_name]

end Under

/-! ## candidates -/

/-- The candidates stand one by one for places of the key, and there are no other such places. -/
structure Keyed (keyAt : List Nat → PrimaryKeyMark → Prop) (placed : List (List Nat × Column))
    (places : List (List Nat)) (keys : List KeyCandidate) : Prop where
  nodup : places.Nodup
  candidates : List.Forall₂ (fun place key => keyAt place key.record ∧
    key.columns = columnsUnder place placed) places keys
  complete : ∀ place mark, keyAt place mark → place ∈ places

/-- At the place a property of the list is marked, or one that embeddings lead to from it; the first
property of the list has position `k`. -/
def KeyAmong (keyAt : Property → List Nat → PrimaryKeyMark → Prop) (k : Nat) (ps : List Property)
    (place : List Nat) (mark : PrimaryKeyMark) : Prop :=
  ∃ i rest p, place = (k + i) :: rest ∧ ps[i]? = some p ∧ keyAt p rest mark

theorem keyAmong_cons {keyAt : Property → List Nat → PrimaryKeyMark → Prop} {k : Nat} {p : Property}
    {ps : List Property} {place : List Nat} {mark : PrimaryKeyMark} :
    KeyAmong keyAt k (p :: ps) place mark ↔
      (∃ rest, place = k :: rest ∧ keyAt p rest mark) ∨ KeyAmong keyAt (k + 1) ps place mark := by
  constructor
  · rintro ⟨i, rest, q, rfl, hq, hkey⟩
    cases i with
    | zero =>
        obtain rfl : p = q := by simpa using hq
        exact .inl ⟨rest, rfl, hkey⟩
    | succ i =>
        exact .inr ⟨i, rest, q, by rw [Nat.add_right_comm, Nat.add_assoc], by simpa using hq, hkey⟩
  · rintro (⟨rest, rfl, hkey⟩ | ⟨i, rest, q, rfl, hq, hkey⟩)
    · exact ⟨0, rest, p, rfl, rfl, hkey⟩
    · exact ⟨i + 1, rest, q, by rw [Nat.add_right_comm, Nat.add_assoc], by simpa using hq, hkey⟩

namespace Keyed

variable {keyAt keyAt' : List Nat → PrimaryKeyMark → Prop} {placed : List (List Nat × Column)}
  {places : List (List Nat)} {keys : List KeyCandidate}

theorem nil (h : ∀ place mark, ¬ keyAt place mark) : Keyed keyAt placed [] [] where
  nodup := List.nodup_nil
  candidates := .nil
  complete place mark hkey := absurd hkey (h place mark)

theorem exists_of_mem (h : Keyed keyAt placed places keys) {place : List Nat}
    (hplace : place ∈ places) : ∃ mark, keyAt place mark := by
  obtain ⟨key, -, hkey, -⟩ := exists_of_forall₂ h.candidates.flip hplace
  exact ⟨key.record, hkey⟩

/-- With the mark of the property itself, which is collected last. -/
theorem own (h : Keyed keyAt placed places keys) (hbelow : ∀ mark, ¬ keyAt [] mark)
    {mark? : Option PrimaryKeyMark} (anchor : String)
    (hiff : ∀ place mark, keyAt' place mark ↔ keyAt place mark ∨ place = [] ∧ mark? = some mark) :
    ∃ places', Keyed keyAt' placed places'
      (keys ++ mark?.toList.map fun mark => ⟨anchor, columnsUnder [] placed, mark⟩) := by
  have hcandidates := h.candidates.imp fun place key hkey =>
    And.intro ((hiff place key.record).mpr (.inl hkey.1)) hkey.2
  cases mark? with
  | none =>
      refine ⟨places, h.nodup, by simpa using hcandidates, fun place mark hkey => ?_⟩
      have hinner : keyAt place mark := by simpa [hiff] using hkey
      exact h.complete place mark hinner
  | some own =>
      have hnew : [] ∉ places := fun hmem => by
        obtain ⟨mark, hkey⟩ := h.exists_of_mem hmem
        exact hbelow mark hkey
      refine ⟨places ++ [[]], ?_, ?_, fun place mark hkey => ?_⟩
      · exact h.nodup.append (List.nodup_singleton _) (by simpa using hnew)
      · have hown : keyAt' [] own := (hiff [] own).mpr (.inr ⟨rfl, rfl⟩)
        exact List.rel_append hcandidates (.cons ⟨hown, rfl⟩ .nil)
      · rcases (hiff place mark).mp hkey with hinner | ⟨rfl, -⟩
        · exact List.mem_append_left _ (h.complete place mark hinner)
        · exact List.mem_append_right _ (List.mem_singleton_self _)

/-- With the candidates of the properties that follow. -/
theorem cons {keyAt : Property → List Nat → PrimaryKeyMark → Prop} {p : Property} {ps : List Property}
    {m : Member} {members : List Member} {k : Nat} {places' : List (List Nat)}
    {keys' : List KeyCandidate} (h : Keyed (keyAt p) m.placed places keys)
    (hrest : Keyed (KeyAmong keyAt (k + 1) ps) (Member.placedFrom (k + 1) members) places' keys') :
    Keyed (KeyAmong keyAt k (p :: ps)) (Member.placedFrom k (m :: members))
      (places.map (List.cons k) ++ places') (keys ++ keys') where
  nodup := by
    refine (h.nodup.map List.cons_injective).append hrest.nodup ?_
    intro place hplace hplace'
    obtain ⟨first, -, rfl⟩ := List.mem_map.mp hplace
    obtain ⟨mark, i, rest, q, hsame, -⟩ := hrest.exists_of_mem hplace'
    have hhead : k = k + 1 + i := (List.cons.inj hsame).1
    omega
  candidates := by
    refine List.rel_append ?_ (hrest.candidates.imp fun place key hkey => ?_)
    · rw [List.forall₂_map_left_iff]
      refine h.candidates.imp fun place key hkey => ⟨keyAmong_cons.mpr (.inl ⟨place, rfl, hkey.1⟩), ?_⟩
      rw [Member.placedFrom, columnsUnder_append, columnsUnder_cons, if_pos rfl,
        columnsUnder_placedFrom_of_lt (Nat.lt_succ_self k), List.append_nil]
      exact hkey.2
    · refine ⟨keyAmong_cons.mpr (.inr hkey.1), ?_⟩
      obtain ⟨i, rest, q, rfl, -⟩ := hkey.1
      rw [Member.placedFrom, columnsUnder_append, columnsUnder_cons, if_neg (by omega), List.nil_append]
      exact hkey.2
  complete place mark hkey := by
    rcases keyAmong_cons.mp hkey with ⟨rest, rfl, hfirst⟩ | hlater
    · exact List.mem_append_left _ (List.mem_map_of_mem (h.complete rest mark hfirst))
    · exact List.mem_append_right _ (hrest.complete place mark hlater)

end Keyed

/-- The candidates of properties that each come to one member. -/
theorem keyed_concat {keyAt : Property → List Nat → PrimaryKeyMark → Prop}
    {f : Property → MemberFindings} {ps : List Property} (k : Nat)
    (h : ∀ p ∈ ps, ∃ m places, (f p).members = [m] ∧ Keyed (keyAt p) m.placed places (f p).keys) :
    ∃ places, Keyed (KeyAmong keyAt k ps)
      (Member.placedFrom k (MemberFindings.concat (ps.map f)).members) places
      (MemberFindings.concat (ps.map f)).keys := by
  induction ps generalizing k with
  | nil => exact ⟨[], .nil fun place mark ⟨i, rest, p, _, hp, _⟩ => by simp at hp⟩
  | cons p ps ih =>
      obtain ⟨⟨m, places, hmember, hkeyed⟩, hrest⟩ := List.forall_mem_cons.mp h
      obtain ⟨places', hkeyed'⟩ := ih (k + 1) hrest
      have hmembers : (MemberFindings.concat ((p :: ps).map f)).members =
          m :: (MemberFindings.concat (ps.map f)).members := by
        rw [MemberFindings.concat, List.map_cons, List.flatMap_cons, hmember]
        rfl
      rw [hmembers]
      exact ⟨_, hkeyed.cons hkeyed'⟩

section Walk

variable {c : Catalog} {listed : List String} {outer : List Property} {s : MemberScope} {p : Property}

/-- A property without a problem comes to one member, and its candidates are those of the places of the
key. -/
theorem keyed_of_comesTo {f : MemberFindings} (h : ComesTo c s p f) (hs : s.Under listed outer)
    (hclean : f.diagnostics = []) :
    ∃ m places, f.members = [m] ∧ Keyed (p.KeyAt c listed outer) m.placed places f.keys := by
  induction h generalizing outer with
  | malformed hmarks => exact absurd hclean (ne_nil_of_marks hmarks)
  | @ignored s p marks reason hmarks hreason =>
      have hleaf : ¬ p.Unfolds listed outer := by simp [hs.unfolds_iff hmarks, hreason]
      have hnone : ∀ place mark, ¬ p.KeyAt c listed outer place mark := by
        intro place mark hkey
        rw [Property.keyAt_iff_of_not_unfolds hleaf] at hkey
        exact hkey.2.1 ((hs.ignoredColumn_comesFrom hmarks hreason).leftOut.mp rfl)
      unfold ignoredMember at hclean ⊢
      split at hclean
      · contradiction
      · next hkey =>
        rw [if_neg hkey]
        exact ⟨_, [], rfl, .nil hnone⟩
  | @column s p marks hmarks hreason hembedded =>
      have hkept := hs.ignoreReason?_eq_none_iff.mp hreason
      obtain ⟨-, hkey, -⟩ := find_of_marks hmarks
      have hleaf : ¬ p.Unfolds listed outer := by simp [hs.unfolds_iff hmarks, hembedded]
      have hiff : ∀ place mark, p.KeyAt c listed outer place mark ↔
          False ∨ place = [] ∧ marks.key = some mark := by
        simp [Property.keyAt_iff_of_not_unfolds hleaf, Property.IsKey, hkept, hkey]
      unfold columnMember at hclean ⊢
      split at hclean
      · contradiction
      · next mapping _ =>
        have hbelow : Keyed (fun _ _ => False)
            (Member.column (s.storedColumn p marks.info mapping)).placed [] [] :=
          .nil fun _ _ => id
        obtain ⟨places, hkeyed⟩ := hbelow.own (fun _ => id) (s.anchorOf p) hiff
        exact ⟨_, places, rfl, hkeyed⟩
  | untargeted => contradiction
  | @embedded s p marks embedded target inner hmarks hreason hembedded htarget hinner ih =>
      have hkept := hs.ignoreReason?_eq_none_iff.mp hreason
      have hunfolds : p.Unfolds listed outer := by simp [hs.unfolds_iff hmarks, hreason, hembedded]
      obtain ⟨hresolves, -⟩ := resolves_of_embeddedTarget htarget
      obtain ⟨-, hkey, hfind⟩ := find_of_marks hmarks
      rw [hembedded] at hfind
      have hclean := clean_of_concat (List.append_eq_nil_iff.mp hclean).1
      obtain ⟨places, hbelow⟩ := keyed_concat 0 fun q hq => ih q hq (hs.nested target hfind) (hclean q hq)
      have hiff : ∀ place mark, p.KeyAt c listed outer place mark ↔
          KeyAmong (Property.KeyAt c listed (outer ++ [p])) 0 target.properties place mark ∨
            place = [] ∧ marks.key = some mark := by
        intro place mark
        rw [Property.keyAt_iff_of_unfolds hunfolds hresolves, Declaration.keyAt_iff]
        simp [KeyAmong, Property.IsKey, hkept, hkey]
      have hown : ∀ mark,
          ¬ KeyAmong (Property.KeyAt c listed (outer ++ [p])) 0 target.properties [] mark := by
        rintro mark ⟨_, _, _, hplace, _⟩
        cases hplace
      obtain ⟨places', hkeyed⟩ := hbelow.own hown (s.anchorOf p) hiff
      rw [columnsUnder_nil] at hkeyed
      exact ⟨_, places', rfl, hkeyed⟩

end Walk

/-! ## entities -/

/-- Where the key of an entity comes from. -/
inductive Entity.KeyFrom (c : Catalog) (d : Declaration) (record : EntityMark) (e : Entity) : Prop where
  /-- The entity lists columns, and no property is marked. -/
  | listed (hlisted : record.primaryKeys ≠ [])
      (hnone : ∀ place mark, ¬ d.KeyAt c record.ignoredColumns [] place mark)
      (hkey : e.primaryKey = ⟨record.primaryKeys, false, .abort⟩)
  /-- The entity lists no columns, and one property is marked: it stands for its columns. -/
  | marked (place : List Nat) (mark : PrimaryKeyMark) (hlisted : record.primaryKeys = [])
      (hplace : d.KeyAt c record.ignoredColumns [] place mark)
      (honly : ∀ place' mark', d.KeyAt c record.ignoredColumns [] place' mark' → place' = place)
      (hkey : e.primaryKey =
        ⟨columnsUnder place e.placedColumns, mark.autoGenerate, mark.onConflict⟩)

/-- The key names columns, each once, and as many columns of the table are flagged. -/
structure Entity.RealKey (e : Entity) : Prop where
  nonempty : e.primaryKey.columns ≠ []
  nodup : e.primaryKey.columns.Nodup
  flagged : e.storedColumns.countP Column.isPrimaryKey = e.primaryKey.columns.length

/-- A property at the place, or that embeddings lead to from there, has a column in the table. -/
def Declaration.StoresUnder (c : Catalog) (listed : List String) (d : Declaration)
    (place : List Nat) : Prop :=
  ∃ rest path last, d.LeafAt c listed [] (place ++ rest) path last ∧ ¬ last.LeftOut listed path

section Entities

variable {c : Catalog} {d : Declaration} {record : EntityMark} {e : Entity}

/-- What a key that resolves comes from. -/
theorem resolvePrimaryKey_cases {keys : List KeyCandidate} {key : PrimaryKey}
    (h : (resolvePrimaryKey e record keys).value? = some key) :
    (keys = [] ∧ record.primaryKeys ≠ [] ∧ key = ⟨record.primaryKeys, false, .abort⟩) ∨
      ∃ candidate, keys = [candidate] ∧ record.primaryKeys = [] ∧
        key = ⟨candidate.columns, candidate.record.autoGenerate, candidate.record.onConflict⟩ := by
  revert h
  fun_cases resolvePrimaryKey e record keys with
  | case1 owner first rest hlisted =>
      intro h
      rw [Checked.value?_bind, Option.bind_eq_some_iff] at h
      obtain ⟨_, -, hkey⟩ := h
      cases hkey
      exact .inl ⟨rfl, by simp [hlisted], by simp [hlisted]⟩
  | case2 =>
      intro h
      cases h
  | case3 candidate hlisted =>
      intro h
      cases h
      exact .inr ⟨candidate, rfl, hlisted, rfl⟩
  | case4 =>
      intro h
      cases h

/-- The key of a shape was resolved from the candidates of its properties. -/
theorem resolvePrimaryKey_of_shapeOf (h : c.shapeOf d record = .ok e) :
    ∃ unkeyed, (resolvePrimaryKey unkeyed record (c.findings d record).keys).value? =
      some e.primaryKey := by
  unfold Catalog.shapeOf at h
  extract_lets owner unknown scope findings stored at h
  split at h
  next construction constructionFaults hconstruction =>
  extract_lets entity duplicates key keyed at h
  split at h
  next indices indexFaults hindices =>
  split at h
  · next hnone =>
    cases h
    simp only [List.append_eq_nil_iff] at hnone
    obtain ⟨primaryKey, hkey⟩ := decides_resolvePrimaryKey _ _ _ hnone.1.2
    have hvalue : key.value? = some primaryKey := hkey
    have hkeyed : keyed.primaryKey = primaryKey := by
      unfold keyed
      rw [hvalue]
    exact ⟨entity, hkeyed ▸ hvalue⟩
  · contradiction

theorem keyAmong_declaration {listed : List String} {outer : List Property} {place : List Nat}
    {mark : PrimaryKeyMark} :
    KeyAmong (Property.KeyAt c listed outer) 0 d.properties place mark ↔
      d.KeyAt c listed outer place mark := by
  simp only [KeyAmong, Declaration.keyAt_iff, Nat.zero_add]

/-- The key is what is listed, or the only candidate. -/
theorem Entity.ShapedBy.keyFrom (h : e.ShapedBy c d record) (hd : d ∈ c.declarations)
    (hshape : c.shapeOf d record = .ok e) : e.KeyFrom c d record := by
  have hwalk : ∀ p ∈ d.properties, ∃ m places, (memberFindings c c.size _ p).members = [m] ∧
      Keyed (p.KeyAt c record.ignoredColumns []) m.placed places (memberFindings c c.size _ p).keys :=
    fun p hp => keyed_of_comesTo (comesTo_memberFindings (MemberScope.fits_entity hd record))
      (MemberScope.under_entity d record) (clean_of_concat h.clean p hp)
  obtain ⟨places, hkeyed⟩ := keyed_concat 0 hwalk
  have hcomplete : ∀ place mark, d.KeyAt c record.ignoredColumns [] place mark → place ∈ places :=
    fun place mark hkey => hkeyed.complete place mark (keyAmong_declaration.mpr hkey)
  have hcandidates := hkeyed.candidates
  obtain ⟨unkeyed, hvalue⟩ := resolvePrimaryKey_of_shapeOf hshape
  obtain ⟨hnone, hlisted, hkey⟩ | ⟨candidate, hone, hlisted, hkey⟩ := resolvePrimaryKey_cases hvalue
  · have hempty : (MemberFindings.concat (d.properties.map (memberFindings c c.size _))).keys = [] :=
      hnone
    rw [hempty, List.forall₂_nil_right_iff] at hcandidates
    rw [hcandidates] at hcomplete
    exact .listed hlisted (fun place mark hplace => nomatch hcomplete place mark hplace) hkey
  · have hsingle : (MemberFindings.concat (d.properties.map (memberFindings c c.size _))).keys =
        [candidate] := hone
    rw [hsingle, List.forall₂_cons_right_iff] at hcandidates
    obtain ⟨place, _, ⟨hplace, hcolumns⟩, hnil, rfl⟩ := hcandidates
    rw [List.forall₂_nil_right_iff.mp hnil] at hcomplete
    refine .marked place candidate.record hlisted (keyAmong_declaration.mp hplace) ?_ ?_
    · exact fun place' mark' hplace' => List.mem_singleton.mp (hcomplete place' mark' hplace')
    · rw [hkey, hcolumns, Entity.placedColumns, h.members, Member.placedFrom_markKeyAll,
        columnsUnder_flagged]
      rfl

/-- **The key of an entity** that resolves is what it lists, or stands for its only marked property. -/
theorem keyFrom_of_entityOf (hd : d ∈ c.declarations) (h : c.entityOf d = .ok e) :
    ∃ record, Mark.find EntityMark d.annotations = .ok (some record) ∧ e.KeyFrom c d record := by
  obtain ⟨shape, foreignKeys, hshape, rfl, -⟩ := shape_of_entityOf h
  obtain ⟨-, record, hrecord, hshape⟩ := shapeOf_of_entityShape hshape
  refine ⟨record, hrecord, ?_⟩
  cases (shapedBy_of_shapeOf hshape).keyFrom hd hshape with
  | listed hlisted hnone hkey => exact .listed hlisted hnone hkey
  | marked place mark hlisted hplace honly hkey =>
      exact .marked place mark hlisted hplace honly hkey

/-! ## real keys -/

theorem Entity.storedColumns_names (e : Entity) :
    e.storedColumns.map Column.name = columnsUnder [] e.placedColumns :=
  (columnsUnder_nil 0 e.members).symm

/-- As the key's columns and only they are flagged, only their names can be wrong. -/
theorem Entity.WellKeyed.realKey_iff (h : e.WellKeyed) :
    e.RealKey ↔ e.primaryKey.columns ≠ [] ∧ e.primaryKey.columns.Nodup := by
  constructor
  · exact fun hreal => ⟨hreal.nonempty, hreal.nodup⟩
  · rintro ⟨hnonempty, hnodup⟩
    have hlength := (h.flagged_names hnodup).length_eq
    rw [List.length_map, ← List.countP_eq_length_filter] at hlength
    exact ⟨hnonempty, hnodup, hlength⟩

/-- There are columns under a place iff a leaf is there that is not left out. -/
theorem Entity.Flattened.columnsUnder_ne_nil_iff {listed : List String} (h : e.Flattened c d listed)
    {place : List Nat} :
    columnsUnder place e.placedColumns ≠ [] ↔ d.StoresUnder c listed place := by
  have hcolumns : columnsUnder place e.placedColumns ≠ [] ↔
      ∃ x ∈ e.placedColumns, place <+: x.1 ∧ x.2.isStored = true := by
    simp [columnsUnder, List.filter_eq_nil_iff]
  rw [hcolumns]
  constructor
  · rintro ⟨⟨_, column⟩, hmem, ⟨rest, rfl⟩, hstored⟩
    obtain ⟨path, last, hleaf⟩ := (h.places _).mp ⟨column, hmem⟩
    have hleft := (h.columns _ column path last hmem hleaf).leftOut
    exact ⟨rest, path, last, hleaf, by simp [← hleft, hstored]⟩
  · rintro ⟨rest, path, last, hleaf, hkept⟩
    obtain ⟨column, hmem⟩ := (h.places _).mpr ⟨path, last, hleaf⟩
    have hleft := (h.columns _ column path last hmem hleaf).leftOut
    exact ⟨_, hmem, List.prefix_append place rest, by simpa [← hleft] using hkept⟩

theorem Entity.KeyFrom.realKey_iff (h : e.KeyFrom c d record) (hkeyed : e.WellKeyed)
    (hflat : e.Flattened c d record.ignoredColumns) :
    e.RealKey ↔ record.primaryKeys.Nodup ∧ ∀ place mark,
      d.KeyAt c record.ignoredColumns [] place mark → d.StoresUnder c record.ignoredColumns place := by
  rw [hkeyed.realKey_iff]
  cases h with
  | listed hlisted hnone hkey =>
      rw [hkey]
      constructor
      · exact fun hreal => ⟨hreal.2, fun place mark hplace => absurd hplace (hnone place mark)⟩
      · exact fun hreal => ⟨hlisted, hreal.1⟩
  | marked place mark hlisted hplace honly hkey =>
      have hnodup : (columnsUnder place e.placedColumns).Nodup := by
        have hall := hkeyed.nodup
        rw [e.storedColumns_names] at hall
        exact hall.sublist columnsUnder_sublist
      rw [hkey, hflat.columnsUnder_ne_nil_iff, hlisted]
      constructor
      · rintro ⟨hstores, -⟩
        refine ⟨List.nodup_nil, fun place' mark' hplace' => ?_⟩
        rw [honly place' mark' hplace']
        exact hstores
      · exact fun hreal => ⟨hreal.2 place mark hplace, hnodup⟩

end Entities

/-! ## runs -/

namespace Call

/-- **The key is a real one** of an entity that a run replies with iff no column is listed twice, and
the property that is marked has a column in the table. -/
theorem key_real_iff {c : Catalog} {calls : List Call} {e : Entity}
    (h : .entity (.ok e) ∈ ((calls.mapM (Call.answer c)).run {}).run.1) :
    ∃ d ∈ c.declarations, d.qualifiedName = e.declaration ∧
      ∃ record, Mark.find EntityMark d.annotations = .ok (some record) ∧ e.KeyFrom c d record ∧
        (e.RealKey ↔ record.primaryKeys.Nodup ∧ ∀ place mark,
          d.KeyAt c record.ignoredColumns [] place mark →
            d.StoresUnder c record.ignoredColumns place) := by
  obtain ⟨d, hd, hentity⟩ := entityOf_of_reply h
  obtain ⟨record, hrecord, hflat⟩ := flattened_of_entityOf hd hentity
  obtain ⟨record', hrecord', hkey⟩ := keyFrom_of_entityOf hd hentity
  obtain rfl : record = record' := by simpa [hrecord] using hrecord'
  exact ⟨d, hd, (declaration_of_entityOf hentity).symm, record, hrecord, hkey,
    hkey.realKey_iff (wellKeyed_of_entityOf hentity) hflat⟩

/-- Drafts whose key is embedded and has no column, and tags that list a column twice. -/
def draftCatalog : Catalog where
  declarations :=
    [{ qualifiedName := "app::Stamp"
       properties := [{ name := "serial", type := .ofName "i64", annotations := [{ name := "Ignore" }] }] },
      { qualifiedName := "app::Draft"
        annotations := [{ name := "Entity" }]
        properties :=
          [{ name := "stamp"
             type := .ofName "app::Stamp"
             annotations := [{ name := "Embedded" }, { name := "PrimaryKey" }] },
            { name := "body", type := .ofName "String" }] },
      { qualifiedName := "app::Tag"
        annotations :=
          [{ name := "Entity", arguments := [("primaryKeys", .array [.text "id", .text "id"])] }]
        properties := [{ name := "id", type := .ofName "i64" }] }]
  nodup := by decide

/-- Neither has a real key: that of a draft has no column, as the marked property has none, and that of
a tag has a column twice. -/
theorem key_unreal_draft :
    ∃ draft tag,
      .entity (.ok draft) ∈ (([.entity "app::Draft"].mapM (Call.answer draftCatalog)).run {}).run.1 ∧
      .entity (.ok tag) ∈ (([.entity "app::Tag"].mapM (Call.answer draftCatalog)).run {}).run.1 ∧
      draft.primaryKey = ⟨[], false, .abort⟩ ∧ ¬ draft.RealKey ∧
      tag.primaryKey = ⟨["id", "id"], false, .abort⟩ ∧ ¬ tag.RealKey ∧
      ∃ d ∈ draftCatalog.declarations, ∃ record place mark,
        Mark.find EntityMark d.annotations = .ok (some record) ∧ draft.KeyFrom draftCatalog d record ∧
        d.KeyAt draftCatalog record.ignoredColumns [] place mark ∧
        ¬ d.StoresUnder draftCatalog record.ignoredColumns place := by
  have hdraftRun : ((draftCatalog.byName (Session.entity draftCatalog) "app::Draft").run
      {}).run.1.toOption.map Entity.primaryKey = some ⟨[], false, .abort⟩ := by
    decide +kernel
  have htagRun : ((draftCatalog.byName (Session.entity draftCatalog) "app::Tag").run
      {}).run.1.toOption.map Entity.primaryKey = some ⟨["id", "id"], false, .abort⟩ := by
    decide +kernel
  obtain ⟨draft, hdraft, hdraftKey⟩ := Option.map_eq_some_iff.mp hdraftRun
  obtain ⟨tag, htag, htagKey⟩ := Option.map_eq_some_iff.mp htagRun
  have hdraftReply := mem_replies_of_run hdraft
  have htagReply := mem_replies_of_run htag
  have hdraftUnreal : ¬ draft.RealKey := fun hreal => hreal.nonempty (by rw [hdraftKey])
  have htagUnreal : ¬ tag.RealKey := fun hreal => by
    have hnodup := hreal.nodup
    simp [htagKey] at hnodup
  obtain ⟨d, hd, -, record, hrecord, hfrom, hiff⟩ := key_real_iff hdraftReply
  have hlisted : record.primaryKeys.Nodup := by
    cases hfrom with
    | listed hlisted _ hkey =>
        have hnone : [] = record.primaryKeys := congrArg PrimaryKey.columns (hdraftKey.symm.trans hkey)
        exact absurd hnone.symm hlisted
    | marked _ _ hlisted => simp [hlisted]
  have hunstored := mt hiff.mpr hdraftUnreal
  simp only [hlisted, true_and, not_forall] at hunstored
  obtain ⟨place, mark, hplace, hnone⟩ := hunstored
  exact ⟨draft, tag, hdraftReply, htagReply, hdraftKey, hdraftUnreal, htagKey, htagUnreal, d, hd,
    record, place, mark, hrecord, hfrom, hplace, hnone⟩

end Call

end DaoForge
