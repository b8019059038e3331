import DaoForge.Proofs.Resolve.Schema

/-!
# DaoForge.Proofs.Resolve.Converters

Which converters serve the adapters of a database.

1. `Declaration.Converts`: what a converter is, and `Declaration.Serves`: which adapters it is for;
2. `Listing`: what holds of the converters that a database lists, each of which is taken in by a
   step (`Listing.add`);
3. `Provision`: what holds of the adapters that it needs, each of which is provided by a step
   (`Provision.provide`);
4. `Call.converters_sound_iff`: the entries of a database are sound iff each adapter is built in or
   served by a listed converter. The search for a converter finds entries of adapters that were
   provided before, and nothing that is checked keeps it from going from one type to another by them.
-/

namespace DaoForge

/-! ## converters -/

mutual

theorem TypeExpr.same_refl : ∀ t : TypeExpr, t.same t = true
  | ⟨name, nullable, arguments⟩ => by simp [TypeExpr.same, TypeExpr.sameAll_refl arguments]

theorem TypeExpr.sameAll_refl : ∀ ts : List TypeExpr, TypeExpr.sameAll ts ts = true
  | [] => rfl
  | t :: ts => by simp [TypeExpr.sameAll, TypeExpr.same_refl t, TypeExpr.sameAll_refl ts]

end

namespace Declaration

/-- A struct that implements `ColumnAdapter<T, S>`: `source` is `T`, without an `Option`, and values of
`S` are stored natively with the affinity. -/
structure Converts (d : Declaration) (source : TypeExpr) (affinity : Affinity) : Prop where
  isStruct : d.isTrait = false
  signature : ∃ adapter converted stored, d.adapterSupertype? = some adapter ∧
    adapter.arguments = [converted, stored] ∧ source = converted.nonNull ∧
    Affinity.ofNative? stored = some affinity

/-- The declaration converts the type of the adapter, up to spelling, to its affinity. -/
def Serves (d : Declaration) (key : AdapterKey) : Prop :=
  ∃ source, d.Converts source key.affinity ∧ source.same key.sourceType = true

variable {d : Declaration} {source : TypeExpr} {affinity : Affinity}

theorem converts_iff :
    d.Converts source affinity ↔ d.isTrait = false ∧ d.converts? = some (source, affinity) := by
  constructor
  · rintro ⟨hstruct, adapter, converted, stored, hadapter, harguments, rfl, hstored⟩
    refine ⟨hstruct, ?_⟩
    simp [converts?, hadapter, harguments, hstored]
  · rintro ⟨hstruct, hconverts⟩
    obtain ⟨adapter, hadapter, hrest⟩ := Option.bind_eq_some_iff.mp hconverts
    split at hrest
    · next converted stored harguments =>
      obtain ⟨native, hnative, hpair⟩ := Option.bind_eq_some_iff.mp hrest
      cases hpair
      exact ⟨hstruct, adapter, converted, stored, hadapter, harguments, rfl, hnative⟩
    · contradiction

theorem Converts.source_eq {other : TypeExpr} {affinity' : Affinity}
    (h : d.Converts source affinity) (h' : d.Converts other affinity') : source = other := by
  have hpair := (converts_iff.mp h).2.symm.trans (converts_iff.mp h').2
  exact (Prod.mk.inj (Option.some.inj hpair)).1

theorem Converts.key_eq (h : d.Converts source affinity) :
    AdapterKey.of source affinity = ⟨source, affinity⟩ := by
  obtain ⟨-, _, converted, _, -, -, rfl, -⟩ := h
  rfl

end Declaration

/-- The entry is right: its converter is a declared struct that serves its adapter. -/
def Converter.Sound (c : Catalog) (entry : Converter) : Prop :=
  ∃ d ∈ c.declarations, entry.converter = d.type ∧ d.Serves entry.reference

/-- The declarations that the annotation of a database lists as converters. -/
def Catalog.listedConverters (c : Catalog) (d : Declaration) : List Declaration :=
  ((readMark TypeConvertersMark d.qualifiedName d.annotations).1.getD {}).value.filterMap c.resolve?

/-- The entries of the listed converters. -/
def Catalog.listing (c : Catalog) (d : Declaration) : List Converter :=
  (((readMark TypeConvertersMark d.qualifiedName d.annotations).1.getD {}).value.map
    (c.listedConverter d.qualifiedName)).foldl (Catalog.addConverter d.qualifiedName) ([], []) |>.1

/-! ## listed converters -/

/-- Steps in a row: what each of them extends by its item holds of all items. -/
theorem foldl_extends {α β : Type} {f : β → α → β} {P : List α → β → Prop} {xs : List α} {b : β}
    (hstep : ∀ before x b, P before b → P (before ++ [x]) (f b x)) (h : P [] b) :
    P xs (xs.foldl f b) := by
  have key : ∀ after before b, P before b → P (before ++ after) (after.foldl f b) := by
    intro after
    induction after with
    | nil =>
        intro before b hb
        rw [List.append_nil]
        exact hb
    | cons x after ih =>
        intro before b hb
        rw [List.append_cons]
        exact ih _ _ (hstep before x b hb)
  exact key xs [] b h

section Listed

variable {c : Catalog} {owner : String}

/-- What a listed converter is taken in as. -/
theorem value?_listedConverter {t : TypeExpr} {entry : Converter} :
    (c.listedConverter owner t).value? = some entry ↔
      ∃ l source affinity, c.resolve? t = some l ∧ l.Converts source affinity ∧
        entry = ⟨l.type, source, affinity⟩ := by
  unfold Catalog.listedConverter
  rw [Checked.value?_bind, Checked.value?_ofOption, Option.bind_eq_some_iff]
  refine exists_congr fun l => ?_
  extract_lets invalid
  constructor
  · rintro ⟨hl, h⟩
    split at h
    · contradiction
    next htrait =>
    split at h
    · contradiction
    split at h
    · contradiction
    · next source affinity hconverts =>
      have hl' : l.Converts source affinity :=
        Declaration.converts_iff.mpr ⟨Bool.eq_false_iff.mpr htrait, hconverts⟩
      refine ⟨source, affinity, hl, hl', ?_⟩
      rw [← hl'.key_eq]
      exact (Option.some.inj h).symm
  · rintro ⟨source, affinity, hl, hl', rfl⟩
    refine ⟨hl, ?_⟩
    obtain ⟨hstruct, hconverts⟩ := Declaration.converts_iff.mp hl'
    have hadapter : l.adapterSupertype?.isNone = false := by
      obtain ⟨adapter, _, _, hadapter, -⟩ := hl'.signature
      rw [hadapter]
      rfl
    rw [hstruct, hadapter, hconverts]
    exact congrArg (fun key => some (⟨l.type, key⟩ : Converter)) hl'.key_eq

/-- The converters that were taken in are candidates, and there is one for the adapter of each. -/
structure Listing (candidates : List (Checked Diagnostic Converter))
    (taken : List Converter × List Diagnostic) : Prop where
  listed : ∀ entry ∈ taken.1, ∃ candidate ∈ candidates, candidate.value? = some entry
  provided : ∀ candidate ∈ candidates, ∀ entry, candidate.value? = some entry →
    ∃ existing ∈ taken.1, existing.reference = entry.reference

/-- Everything that taking in a candidate can do: nothing, as it is no converter or there is one for
its adapter, or add it. -/
theorem addConverter_cases (taken : List Converter × List Diagnostic)
    (candidate : Checked Diagnostic Converter) :
    (Catalog.addConverter owner taken candidate).1 = taken.1 ∧
        (∀ entry, candidate.value? = some entry →
          ∃ existing ∈ taken.1, existing.reference = entry.reference) ∨
      ∃ entry, candidate.value? = some entry ∧
        (Catalog.addConverter owner taken candidate).1 = taken.1 ++ [entry] := by
  unfold Catalog.addConverter
  cases candidate.value? with
  | none => exact .inl ⟨rfl, fun _ h => nomatch h⟩
  | some entry =>
      simp only
      split
      · exact .inr ⟨entry, rfl, rfl⟩
      · next existing hfound =>
        refine .inl ⟨rfl, ?_⟩
        rintro _ ⟨⟩
        exact ⟨existing, List.mem_of_find?_eq_some hfound, by simpa using List.find?_some hfound⟩

theorem Listing.add {before : List (Checked Diagnostic Converter)}
    {taken : List Converter × List Diagnostic} (h : Listing before taken)
    (candidate : Checked Diagnostic Converter) :
    Listing (before ++ [candidate]) (Catalog.addConverter owner taken candidate) := by
  have hmore : ∀ entry ∈ taken.1,
      ∃ candidate' ∈ before ++ [candidate], candidate'.value? = some entry := by
    intro entry hentry
    obtain ⟨candidate', hmem, hvalue⟩ := h.listed entry hentry
    exact ⟨candidate', List.mem_append_left _ hmem, hvalue⟩
  obtain ⟨hsame, hexisting⟩ | ⟨entry, hvalue, hadded⟩ := addConverter_cases taken candidate
  · constructor
    · rw [hsame]
      exact hmore
    · rw [hsame, List.forall_mem_append, List.forall_mem_singleton]
      exact ⟨h.provided, hexisting⟩
  · constructor
    · rw [hadded, List.forall_mem_append, List.forall_mem_singleton]
      exact ⟨hmore, candidate, by simp, hvalue⟩
    · rw [hadded, List.forall_mem_append, List.forall_mem_singleton]
      constructor
      · intro candidate' hmem entry' hvalue'
        obtain ⟨existing, hexisting, hreference⟩ := h.provided candidate' hmem entry' hvalue'
        exact ⟨existing, List.mem_append_left _ hexisting, hreference⟩
      · intro entry' hvalue'
        rw [hvalue] at hvalue'
        exact ⟨entry, by simp, congrArg Converter.reference (Option.some.inj hvalue')⟩

theorem listing_foldl (candidates : List (Checked Diagnostic Converter)) :
    Listing candidates (candidates.foldl (Catalog.addConverter owner) ([], [])) :=
  foldl_extends (fun _ candidate _ h => h.add candidate)
    ⟨fun _ h => absurd h List.not_mem_nil, fun _ h => absurd h List.not_mem_nil⟩

end Listed

/-! ## required adapters -/

/-- The entry is one that a search for a converter of the adapter stops at. -/
def Converter.fits (entry : Converter) (key : AdapterKey) : Bool :=
  entry.reference.affinity == key.affinity && entry.reference.sourceType.same key.sourceType

theorem Converter.fits_self (entry : Converter) : entry.fits entry.reference = true := by
  simp [fits, TypeExpr.same_refl]

/-- After these adapters were provided: the entries are those of the listed converters and, for
adapters that are not built in, further ones of the same converters. -/
structure Provision (listed : List Converter) (keys : List AdapterKey)
    (taken : List Converter × List Diagnostic) : Prop where
  /-- A search comes to the listed converters first. -/
  first : listed <+: taken.1
  origin : ∀ entry ∈ taken.1, entry ∈ listed ∨
    entry.reference ∈ keys ∧ entry.reference.builtin?.isSome = false
  /-- Every entry is of a listed converter with its affinity. -/
  stored : ∀ entry ∈ taken.1, ∃ l ∈ listed,
    l.converter = entry.converter ∧ l.reference.affinity = entry.reference.affinity
  /-- An adapter that a listed converter fits is served by one. -/
  direct : ∀ entry ∈ taken.1, (∃ l ∈ listed, l.fits entry.reference = true) →
    ∃ l ∈ listed, l.converter = entry.converter ∧ l.fits entry.reference = true
  complete : taken.2 = [] → ∀ key ∈ keys, key.builtin?.isSome = true ∨
    ∃ entry ∈ taken.1, entry.reference = key

section Provided

variable {owner : String} {listed : List Converter} {keys : List AdapterKey}
  {taken : List Converter × List Diagnostic}

theorem provision_nil (listed : List Converter) : Provision listed [] (listed, []) where
  first := List.prefix_rfl
  origin _ h := .inl h
  stored entry h := ⟨entry, h, rfl, rfl⟩
  direct entry h _ := ⟨entry, h, rfl, entry.fits_self⟩
  complete _ _ h := absurd h List.not_mem_nil

/-- Everything that providing an adapter can do: nothing, as there is one; report that there is none;
or add an entry with the first converter that fits. -/
theorem provideAdapter_cases (owner : String) (taken : List Converter × List Diagnostic)
    (key : AdapterKey) :
    (Catalog.provideAdapter owner taken key = taken ∧
        (key.builtin?.isSome = true ∨ ∃ entry ∈ taken.1, entry.reference = key)) ∨
      (∃ fault, Catalog.provideAdapter owner taken key = (taken.1, taken.2 ++ [fault])) ∨
      ∃ found, taken.1.find? (fun entry => entry.fits key) = some found ∧
        key.builtin?.isSome = false ∧ Catalog.provideAdapter owner taken key =
          (taken.1 ++ [⟨found.converter, key⟩], taken.2) := by
  by_cases hdone : (key.builtin?.isSome || taken.1.any fun entry => entry.reference == key) = true
  · exact .inl ⟨if_pos hdone, by simpa using hdone⟩
  have hbuiltin : key.builtin?.isSome = false := by
    simp only [Bool.or_eq_true, not_or] at hdone
    exact Bool.eq_false_iff.mpr hdone.1
  cases hsearch : taken.1.find? fun entry => entry.fits key with
  | none =>
      refine .inr (.inl ?_)
      unfold Converter.fits at hsearch
      simp only [Catalog.provideAdapter, if_neg hdone, hsearch]
      exact ⟨_, rfl⟩
  | some found =>
      refine .inr (.inr ⟨found, rfl, hbuiltin, ?_⟩)
      unfold Converter.fits at hsearch
      simp only [Catalog.provideAdapter, if_neg hdone, hsearch]

/-- A search comes to a listed converter if one fits. -/
theorem Provision.mem_of_find? {key : AdapterKey} {found l : Converter}
    (h : Provision listed keys taken)
    (hfound : taken.1.find? (fun entry => entry.fits key) = some found) (hl : l ∈ listed)
    (hfits : l.fits key = true) : found ∈ listed := by
  obtain ⟨added, hsplit⟩ := h.first
  rw [← hsplit, List.find?_append] at hfound
  cases hearly : listed.find? fun entry => entry.fits key with
  | none => exact absurd hfits (List.find?_eq_none.mp hearly l hl)
  | some early =>
      rw [hearly, Option.some_or] at hfound
      rw [← Option.some.inj hfound]
      exact List.mem_of_find?_eq_some hearly

theorem Provision.origin_concat (h : Provision listed keys taken) (key : AdapterKey) :
    ∀ entry ∈ taken.1, entry ∈ listed ∨
      entry.reference ∈ keys ++ [key] ∧ entry.reference.builtin?.isSome = false :=
  fun entry hentry => (h.origin entry hentry).imp_right (And.imp_left (List.mem_append_left _))

/-- The entry that is added for an adapter. -/
theorem Provision.append {key : AdapterKey} {found : Converter} (h : Provision listed keys taken)
    (hfound : taken.1.find? (fun entry => entry.fits key) = some found)
    (hbuiltin : key.builtin?.isSome = false) :
    Provision listed (keys ++ [key]) (taken.1 ++ [⟨found.converter, key⟩], taken.2) := by
  have hfits : found.fits key = true := by simpa using List.find?_some hfound
  have haffinity : found.reference.affinity = key.affinity := by
    simp only [Converter.fits, Bool.and_eq_true, beq_iff_eq] at hfits
    exact hfits.1
  constructor
  · exact h.first.trans (List.prefix_append _ _)
  · rw [List.forall_mem_append, List.forall_mem_singleton]
    exact ⟨h.origin_concat key, .inr ⟨by simp, hbuiltin⟩⟩
  · rw [List.forall_mem_append, List.forall_mem_singleton]
    refine ⟨h.stored, ?_⟩
    obtain ⟨l, hl, hconverter, hl'⟩ := h.stored found (List.mem_of_find?_eq_some hfound)
    exact ⟨l, hl, hconverter, hl'.trans haffinity⟩
  · rw [List.forall_mem_append, List.forall_mem_singleton]
    refine ⟨h.direct, ?_⟩
    rintro ⟨l, hl, hfits'⟩
    exact ⟨found, h.mem_of_find? hfound hl hfits', rfl, hfits⟩
  · intro hclean
    rw [List.forall_mem_append, List.forall_mem_singleton]
    refine ⟨fun key' hkey' => ?_, .inr ⟨⟨found.converter, key⟩, by simp, rfl⟩⟩
    refine (h.complete hclean key' hkey').imp_right ?_
    rintro ⟨entry, hentry, hreference⟩
    exact ⟨entry, List.mem_append_left _ hentry, hreference⟩

theorem Provision.provide (h : Provision listed keys taken) (key : AdapterKey) :
    Provision listed (keys ++ [key]) (Catalog.provideAdapter owner taken key) := by
  obtain ⟨hsame, hdone⟩ | ⟨fault, hreport⟩ | ⟨found, hfound, hbuiltin, hadded⟩ :=
    provideAdapter_cases owner taken key
  · rw [hsame]
    refine { h with origin := h.origin_concat key, complete := fun hclean => ?_ }
    rw [List.forall_mem_append, List.forall_mem_singleton]
    exact ⟨h.complete hclean, hdone⟩
  · rw [hreport]
    refine { h with origin := h.origin_concat key, complete := fun hclean => ?_ }
    exact absurd hclean (List.append_ne_nil_of_right_ne_nil _ (List.cons_ne_nil _ _))
  · rw [hadded]
    exact h.append hfound hbuiltin

theorem provision_foldl (owner : String) (listed : List Converter) (keys : List AdapterKey) :
    Provision listed keys (keys.foldl (Catalog.provideAdapter owner) (listed, [])) :=
  foldl_extends (fun _ key _ h => h.provide key) (provision_nil listed)

end Provided

/-! ## databases -/

section Databases

variable {c : Catalog} {d : Declaration} {database : Database}

/-- The entries of a database begin with those of its listed converters, and each adapter that it needs
is provided. -/
theorem foldl_provideAdapter_of_database? (h : c.database? d = some database) :
    database.adapters.foldl (Catalog.provideAdapter d.qualifiedName) (c.listing d, []) =
      (database.converters, []) := by
  obtain ⟨record, hvalue, hfound⟩ := assembled_of_database? h
  simp only [Catalog.assembleDatabase, List.append_eq_nil_iff] at hfound
  cases hvalue
  exact Prod.ext rfl hfound.2

theorem provision_of_database? (h : c.database? d = some database) :
    Provision (c.listing d) database.adapters (database.converters, []) := by
  have hprovided := provision_foldl d.qualifiedName (c.listing d) database.adapters
  rwa [foldl_provideAdapter_of_database? h] at hprovided

/-- The entries of the listed converters. -/
theorem mem_listing {entry : Converter} (h : entry ∈ c.listing d) :
    ∃ l ∈ c.listedConverters d, ∃ source affinity, l.Converts source affinity ∧
      entry = ⟨l.type, source, affinity⟩ := by
  obtain ⟨candidate, hcandidate, hvalue⟩ := (listing_foldl _).listed entry h
  obtain ⟨t, ht, rfl⟩ := List.mem_map.mp hcandidate
  obtain ⟨l, source, affinity, hresolve, hconverts, rfl⟩ := value?_listedConverter.mp hvalue
  exact ⟨l, List.mem_filterMap.mpr ⟨t, ht, hresolve⟩, source, affinity, hconverts, rfl⟩

/-- An adapter that a listed converter serves is one that some entry of the listed converters fits. -/
theorem exists_fits_of_serves {l : Declaration} (hl : l ∈ c.listedConverters d) {key : AdapterKey}
    (h : l.Serves key) : ∃ entry ∈ c.listing d, entry.fits key = true := by
  obtain ⟨source, hconverts, hsame⟩ := h
  obtain ⟨t, ht, hresolve⟩ := List.mem_filterMap.mp hl
  have hvalue : (c.listedConverter d.qualifiedName t).value? = some ⟨l.type, source, key.affinity⟩ :=
    value?_listedConverter.mpr ⟨l, source, key.affinity, hresolve, hconverts, rfl⟩
  obtain ⟨entry, hentry, hreference⟩ :=
    (listing_foldl _).provided _ (List.mem_map_of_mem ht) _ hvalue
  refine ⟨entry, hentry, ?_⟩
  simp [Converter.fits, hreference, hsame]

/-- The entry of a listed converter fits what the converter serves. -/
theorem serves_of_fits {entry : Converter} (h : entry ∈ c.listing d) {key : AdapterKey}
    (hfits : entry.fits key = true) :
    ∃ l ∈ c.listedConverters d, entry.converter = l.type ∧ l.Serves key := by
  obtain ⟨l, hl, source, affinity, hconverts, rfl⟩ := mem_listing h
  simp only [Converter.fits, Bool.and_eq_true, beq_iff_eq] at hfits
  obtain ⟨rfl, hsame⟩ := hfits
  exact ⟨l, hl, rfl, source, hconverts, hsame⟩

theorem mem_declarations_of_listed {l : Declaration} (h : l ∈ c.listedConverters d) :
    l ∈ c.declarations := by
  obtain ⟨t, -, hresolve⟩ := List.mem_filterMap.mp h
  exact Catalog.mem_of_resolve? hresolve

/-- An entry is sound iff it is of a listed converter that fits its adapter by itself. -/
theorem Converter.sound_iff_fits {keys : List AdapterKey} {taken : List Converter × List Diagnostic}
    (h : Provision (c.listing d) keys taken) {entry : Converter} (hentry : entry ∈ taken.1) :
    entry.Sound c ↔
      ∃ l ∈ c.listing d, l.converter = entry.converter ∧ l.fits entry.reference = true := by
  constructor
  · rintro ⟨l, hl, htype, source, hconverts, hsame⟩
    obtain ⟨first, hfirst, hconverter, haffinity⟩ := h.stored entry hentry
    obtain ⟨l', hl', source', affinity, hconverts', rfl⟩ := mem_listing hfirst
    -- a type of a declaration is named for it, so both converters are one declaration
    have hname : l'.qualifiedName = l.qualifiedName :=
      congrArg TypeExpr.name (hconverter.trans htype)
    obtain rfl := Catalog.eq_of_qualifiedName_eq (mem_declarations_of_listed hl') hl hname
    obtain rfl := hconverts.source_eq hconverts'
    refine ⟨_, hfirst, hconverter, ?_⟩
    simp only at haffinity
    simp [Converter.fits, haffinity, hsame]
  · rintro ⟨first, hfirst, hconverter, hfits⟩
    obtain ⟨l, hl, htype, hserves⟩ := serves_of_fits hfirst hfits
    exact ⟨l, mem_declarations_of_listed hl, hconverter.symm.trans htype, hserves⟩

/-- Every entry is of a listed converter, and has its affinity; whether it has its type is decided by
the adapters that are needed. -/
theorem database?_sound_iff (h : c.database? d = some database) :
    (∀ entry ∈ database.converters, ∃ l ∈ c.listedConverters d, entry.converter = l.type ∧
      ∃ source, l.Converts source entry.reference.affinity) ∧
    ((∀ entry ∈ database.converters, entry.Sound c) ↔
      ∀ key ∈ database.adapters, key.builtin?.isSome = true ∨
        ∃ l ∈ c.listedConverters d, l.Serves key) := by
  have hprovision := provision_of_database? h
  refine ⟨fun entry hentry => ?_, fun hsound key hkey => ?_, fun hserved entry hentry => ?_⟩
  · obtain ⟨first, hfirst, hconverter, haffinity⟩ := hprovision.stored entry hentry
    obtain ⟨l, hl, source, affinity, hconverts, rfl⟩ := mem_listing hfirst
    refine ⟨l, hl, hconverter.symm, source, ?_⟩
    rw [← haffinity]
    exact hconverts
  · refine (hprovision.complete rfl key hkey).imp_right ?_
    rintro ⟨entry, hentry, rfl⟩
    obtain ⟨first, hfirst, -, hfits⟩ :=
      (Converter.sound_iff_fits hprovision hentry).mp (hsound entry hentry)
    obtain ⟨l, hl, -, hserves⟩ := serves_of_fits hfirst hfits
    exact ⟨l, hl, hserves⟩
  · rw [Converter.sound_iff_fits hprovision hentry]
    refine hprovision.direct entry hentry ?_
    rcases hprovision.origin entry hentry with hlisted | ⟨hkey, hbuiltin⟩
    · exact ⟨entry, hlisted, entry.fits_self⟩
    · obtain hsome | ⟨l, hl, hserves⟩ := hserved entry.reference hkey
      · rw [hbuiltin] at hsome
        contradiction
      · exact exists_fits_of_serves hl hserves

end Databases

/-! ## runs -/

namespace Call

variable {c : Catalog}

/-- **The converters of a database**: every entry is of a listed converter, a declared struct, and has
the affinity of its storage. All entries have its type, too, iff every adapter of the database is built
in or one that a listed converter serves; nothing that is checked makes that so. -/
theorem converters_sound_iff (calls : List Call) {database : Database}
    (h : .database (.ok database) ∈ ((calls.mapM (Call.answer c)).run {}).run.1) :
    ∃ d ∈ c.declarations, d.qualifiedName = database.declaration ∧
      c.listedConverters d ⊆ c.declarations ∧
      (∀ entry ∈ database.converters, ∃ l ∈ c.listedConverters d, entry.converter = l.type ∧
        ∃ source, l.Converts source entry.reference.affinity) ∧
      ((∀ entry ∈ database.converters, entry.Sound c) ↔
        ∀ key ∈ database.adapters, key.builtin?.isSome = true ∨
          ∃ l ∈ c.listedConverters d, l.Serves key) := by
  obtain ⟨d, hd, hdatabase⟩ := database?_of_reply h
  obtain ⟨_, -, -, hname, -, -⟩ := database?_eq_some hdatabase
  exact ⟨d, hd, hname.symm, fun _ hl => mem_declarations_of_listed hl, database?_sound_iff hdatabase⟩

/-- A run of one call. -/
theorem replies_singleton (c : Catalog) (name : String) :
    (([Call.database name].mapM (Call.answer c)).run {}).run.1 =
      [.database ((c.database name).run {}).run.1] := rfl

/-- A converter of `a::Uuid`, and a database with a column of `Uuid` before one of `b::Uuid`. -/
def uuidCatalog : Catalog where
  declarations :=
    [{ qualifiedName := "app::UuidConverter"
       supertypes :=
        [{ name := "ColumnAdapter", arguments := [.ofName "a::Uuid", .ofName "String"] }] },
      { qualifiedName := "app::Note"
        annotations := [{ name := "Entity" }]
        properties :=
          [{ name := "id", type := .ofName "i64", annotations := [{ name := "PrimaryKey" }] },
            { name := "first"
              type := .ofName "Uuid"
              annotations :=
                [{ name := "ColumnInfo", arguments := [("typeAffinity", .constant "TEXT")] }] },
            { name := "second"
              type := .ofName "b::Uuid"
              annotations :=
                [{ name := "ColumnInfo", arguments := [("typeAffinity", .constant "TEXT")] }] }] },
      { qualifiedName := "app::Db"
        kind := .trait
        annotations :=
          [{ name := "Database"
             arguments :=
              [("entities", .array [.type (.ofName "app::Note")]), ("version", .integer 1)] },
            { name := "TypeConverters"
              arguments := [("value", .array [.type (.ofName "app::UuidConverter")])] }] }]
  nodup := by decide

/-- The database resolves, and `b::Uuid` is converted by the converter of `a::Uuid`. -/
theorem converters_unsound_uuid :
    ∃ database, .database (.ok database) ∈
        (([.database "app::Db"].mapM (Call.answer uuidCatalog)).run {}).run.1 ∧
      ∃ entry ∈ database.converters, ¬ entry.Sound uuidCatalog := by
  have hrun : ((uuidCatalog.database "app::Db").run {}).run.1.toOption.map Database.adapters =
      some [⟨.ofName "Uuid", .text⟩, ⟨.ofName "b::Uuid", .text⟩] := by
    decide +kernel
  obtain ⟨database, hdatabase, hadapters⟩ := Option.map_eq_some_iff.mp hrun
  have hreply : Reply.database (.ok database) ∈
      (([Call.database "app::Db"].mapM (Call.answer uuidCatalog)).run {}).run.1 := by
    rw [replies_singleton, eq_ok_of_toOption hdatabase]
    exact List.mem_singleton_self _
  refine ⟨database, hreply, ?_⟩
  by_contra hsound
  push Not at hsound
  obtain ⟨d, -, -, hsubset, -, hiff⟩ := converters_sound_iff _ hreply
  have hkey : (⟨.ofName "b::Uuid", .text⟩ : AdapterKey) ∈ database.adapters := by
    rw [hadapters]
    decide
  obtain hbuiltin | ⟨l, hl, source, hconverts, hsame⟩ := hiff.mp hsound _ hkey
  · exact absurd hbuiltin (by decide)
  · have hnone : ∀ l ∈ uuidCatalog.declarations,
        l.converts?.all (fun converts => !converts.1.same (.ofName "b::Uuid")) = true := by
      decide +kernel
    have hother := hnone l (hsubset hl)
    rw [(Declaration.converts_iff.mp hconverts).2, Option.all_some, hsame] at hother
    exact Bool.false_ne_true hother

end Call

end DaoForge
