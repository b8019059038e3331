import DaoForge.Proofs.Resolve.Buildable
import DaoForge.Proofs.Unit.Adapter
import DaoForge.Proofs.Unit.Write

/-!
# DaoForge.Proofs.Unit.Columns

Where a mapper reads a column, and where a statement takes its value from.

1. `Build.Reads b slots read`: inside the expression `b`, at these slots, a value of the row is read;
2. `Construction.Route`: the slots of a column along the embeddings that lead to it, with a test for an
   absent struct at the optional ones;
3. `Member.Composed`: every stored member has its slot, so that there is a route to every stored column
   (`exists_route`). A mapper reads the stored columns at their routes (`reads_of_entity_route`), and nothing
   else (`route_of_reads`);
4. `Member.leads_unique`: one way only leads to a stored column, and the code of the argument for the column
   follows it (`follows_of_columnArgument`);
5. `Call.columns_agree`: what statements bind and what the mapper reads are the same columns, in the same
   places, through the same adapters.
-/

namespace DaoForge

/-! ## reading -/

/-- A step into an expression that builds a value. -/
inductive Slot where
  /-- The argument of a constructor function. -/
  | argument (index : Nat)
  /-- The field of a literal. -/
  | field (name : String)
  /-- What is built unless all the columns are NULL. -/
  | unlessNull (columns : List String)
  deriving DecidableEq, Repr

/-- `b.Reads slots read`: the expression reads a value of the row at the end of the slots. -/
inductive Build.Reads : Build → List Slot → Read → Prop
  | read {read : Read} : Reads (.read read) [] read
  | argument {owner : Code} {function : Ident} {arguments : List Build} {i : Nat} {value : Build}
      {slots : List Slot} {read : Read} (h : arguments[i]? = some value)
      (hvalue : Reads value slots read) :
      Reads (.call owner function arguments) (.argument i :: slots) read
  | field {owner : Code} {fields : List (Ident × Build)} {name : Ident} {value : Build}
      {slots : List Slot} {read : Read} (h : (name, value) ∈ fields)
      (hvalue : Reads value slots read) : Reads (.literal owner fields) (.field name.name :: slots) read
  | unlessNull {columns : List String} {value : Build} {slots : List Slot} {read : Read}
      (hvalue : Reads value slots read) :
      Reads (.unlessNull columns value) (.unlessNull columns :: slots) read

/-- Where the value is in the row. -/
def Read.source : Read → RowSource
  | .native source _ => source
  | .adapted source _ _ _ => source

/-- The adapter that decodes the value, if it needs one. -/
def Read.adapter? : Read → Option Ident
  | .native _ _ => none
  | .adapted _ adapter _ _ => some adapter

/-- The value of a column as it is read from the row. -/
def Column.ReadBy (c : Column) (read : Read) : Prop :=
  ∃ mapping, c.mapping = some mapping ∧ Read.of (.column c.name) c.type mapping = .ok read

/-! ## routes -/

/-- The slot is one that the construction has for a property. -/
def Construction.Puts (c : Construction) (slot : Slot) (property : String) : Prop :=
  match c.function with
  | some _ => ∃ i, slot = .argument i ∧ c.parameters[i]? = some property
  | none => slot = .field property ∧ property ∈ c.parameters

/-- The test around the value of an embedded struct: only an optional one is absent if all its stored
columns are NULL. -/
def Embedding.guard (e : Embedding) (members : List Member) : List Slot :=
  if e.isNullable then [.unlessNull (Member.storedNames members)] else []

/-- The slots, in the value of a member, of the column that the path leads to. -/
inductive Member.Route : Member → List Embedding → Column → List Slot → Prop
  | column {c : Column} : Route (.column c) [] c []
  | embedded {e : Embedding} {members : List Member} {m : Member} {path : List Embedding} {c : Column}
      {slot : Slot} {slots : List Slot} (hm : m ∈ members) (hslot : e.construction.Puts slot m.property)
      (h : Route m path c slots) :
      Route (.embedded e members) (e :: path) c (e.guard members ++ slot :: slots)

/-- The slots, in the value of a struct of these members, of the column that the path leads to. -/
def Construction.Route (construction : Construction) (members : List Member) (path : List Embedding)
    (c : Column) (slots : List Slot) : Prop :=
  ∃ m ∈ members, ∃ slot rest, slots = slot :: rest ∧ construction.Puts slot m.property ∧
    m.Route path c rest

theorem Member.Route.embedded_iff {e : Embedding} {members : List Member} {path : List Embedding}
    {c : Column} {slots : List Slot} :
    (Member.embedded e members).Route path c slots ↔ ∃ rest inner, path = e :: inner ∧
      slots = e.guard members ++ rest ∧ e.construction.Route members inner c rest := by
  constructor
  · intro h
    cases h with
    | @embedded e members m inner c slot slots hm hslot h =>
        exact ⟨slot :: slots, inner, rfl, rfl, m, hm, slot, slots, rfl, hslot, h⟩
  · rintro ⟨_, inner, rfl, rfl, m, hm, slot, rest, rfl, hslot, h⟩
    exact .embedded hm hslot h

/-! ## what a construction reads -/

theorem not_reads_default {slots : List Slot} {read : Read} : ¬ Build.default.Reads slots read :=
  fun h => nomatch h

section Constructions

variable {owner : String} {construction : Construction} {members : List Member} {b : Build}
  {slots : List Slot} {read : Read}

/-- What a struct is built as: a call with the values of its parameters, or a literal of its properties,
where what has no value is a default. -/
theorem Construction.build_cases {argument : String → Except GenerationError (Option Build)}
    (h : construction.build owner argument = .ok b) :
    (∃ path function name values, construction.function = some function ∧ b = .call path name values ∧
        List.Forall₂ (fun parameter value => argument parameter = .ok (some value))
          construction.parameters values) ∨
      (construction.function = none ∧ ∃ path fields, b = .literal path fields ∧
        List.Forall₂ (fun parameter (field : Ident × Build) => field.1.name = parameter ∧
          ∃ value, argument parameter = .ok value ∧ field.2 = value.getD .default)
          construction.parameters fields) := by
  unfold Construction.build at h
  obtain ⟨path, -, h⟩ := bind_eq_ok h
  split at h
  · next function hfunction =>
    obtain ⟨name, -, h⟩ := bind_eq_ok h
    obtain ⟨values, hvalues, h⟩ := bind_eq_ok h
    cases h
    refine .inl ⟨path, function, name, values, hfunction, rfl, (forall₂_of_mapM hvalues).imp ?_⟩
    intro parameter value hvalue
    obtain ⟨found, hfound, hvalue⟩ := bind_eq_ok hvalue
    cases found with
    | none => contradiction
    | some found =>
        cases hvalue
        exact hfound
  · next hfunction =>
    obtain ⟨fields, hfields, h⟩ := bind_eq_ok h
    cases h
    refine .inr ⟨hfunction, path, fields, rfl, (forall₂_of_mapM hfields).imp ?_⟩
    intro parameter field hfield
    obtain ⟨name, hname, hfield⟩ := bind_eq_ok hfield
    obtain ⟨value, hvalue, hfield⟩ := bind_eq_ok hfield
    cases hfield
    exact ⟨Ident.name_of hname, value, hvalue, rfl⟩

/-- What a struct reads is read at the slot of one of its members. -/
theorem member_of_reads
    (h : construction.build owner (argumentNamed owner (Member.arguments members)) = .ok b)
    (hreads : b.Reads slots read) :
    ∃ m ∈ members, ∃ slot rest value, slots = slot :: rest ∧ construction.Puts slot m.property ∧
      m.argument = .ok (some value) ∧ value.Reads rest read := by
  obtain ⟨path, function, name, values, hfunction, rfl, hvalues⟩ |
      ⟨hfunction, path, fields, rfl, hfields⟩ :=
    Construction.build_cases h
  · cases hreads with
    | @argument _ _ _ i value rest read hi hreads =>
        obtain ⟨parameter, hparameter, hvalue⟩ := (getElem?_of_forall₂ hvalues).1 value hi
        obtain ⟨m, hm, rfl, hmember⟩ := Member.exists_of_argumentNamed hvalue
        refine ⟨m, hm, _, rest, value, rfl, ?_, hmember, hreads⟩
        simp only [Construction.Puts, hfunction]
        exact ⟨i, rfl, hparameter⟩
  · cases hreads with
    | @field _ _ name value rest read hfield hreads =>
        obtain ⟨parameter, hparameter, hname, found, hfound, rfl⟩ := exists_of_forall₂ hfields hfield
        obtain ⟨m, hm, rfl, hvalue⟩ := Member.exists_of_argumentNamed hfound
        cases found with
        | none => exact absurd hreads not_reads_default
        | some value =>
            refine ⟨m, hm, _, rest, value, rfl, ?_, hvalue, hreads⟩
            simp only [Construction.Puts, hfunction]
            exact ⟨congrArg Slot.field hname, hparameter⟩

/-- Of members with distinct properties, each is read at its slot. -/
theorem reads_of_member (hnodup : (members.map Member.property).Nodup)
    (h : construction.build owner (argumentNamed owner (Member.arguments members)) = .ok b)
    {m : Member} (hm : m ∈ members) {slot : Slot} (hslot : construction.Puts slot m.property) :
    ∃ found, m.argument = .ok found ∧
      ∀ value rest read, found = some value → value.Reads rest read → b.Reads (slot :: rest) read := by
  have hargument : argumentNamed owner (Member.arguments members) m.property = m.argument :=
    Member.argumentNamed_arguments (Member.find?_property hnodup hm)
  obtain ⟨path, function, name, values, hfunction, rfl, hvalues⟩ |
      ⟨hfunction, path, fields, rfl, hfields⟩ :=
    Construction.build_cases h
  · simp only [Construction.Puts, hfunction] at hslot
    obtain ⟨i, rfl, hi⟩ := hslot
    obtain ⟨found, hfound, hvalue⟩ := (getElem?_of_forall₂ hvalues).2 m.property hi
    refine ⟨some found, hargument ▸ hvalue, ?_⟩
    rintro value rest read ⟨⟩ hreads
    exact .argument hfound hreads
  · simp only [Construction.Puts, hfunction] at hslot
    obtain ⟨rfl, hparameter⟩ := hslot
    obtain ⟨⟨name, built⟩, hfield, hname, found, hvalue, hbuilt⟩ :=
      exists_of_forall₂ hfields.flip hparameter
    refine ⟨found, hargument ▸ hvalue, ?_⟩
    rintro value rest read rfl hreads
    obtain rfl : built = value := hbuilt
    rw [← hname]
    exact .field hfield hreads

end Constructions

/-! ## every stored member has its slot -/

/-- The members have distinct properties, and the stored ones are all taken. -/
structure Construction.Composes (c : Construction) (members : List Member) : Prop where
  nodup : (members.map Member.property).Nodup
  takes : ∀ m ∈ members, m.isStored = true → m.property ∈ c.parameters

/-- Every stored member has its slot, at every depth of embedding. -/
inductive Member.Composed : Member → Prop
  | column {c : Column} : Composed (.column c)
  | embedded {e : Embedding} {members : List Member} (composes : e.construction.Composes members)
      (inner : ∀ m ∈ members, Composed m) : Composed (.embedded e members)

theorem Construction.exists_puts {construction : Construction} {property : String}
    (h : property ∈ construction.parameters) : ∃ slot, construction.Puts slot property := by
  unfold Construction.Puts
  split
  · obtain ⟨i, hi⟩ := List.mem_iff_getElem?.mp h
    exact ⟨.argument i, i, rfl, hi⟩
  · exact ⟨.field property, rfl, h⟩

/-- There is a route to every stored column. -/
theorem exists_route {construction : Construction} {members : List Member} {path : List Embedding}
    {c : Column} (h : Member.Leads members path c) (hstored : c.isStored = true)
    (hcomposes : construction.Composes members) (hmembers : ∀ m ∈ members, m.Composed) :
    ∃ slots, construction.Route members path c slots := by
  induction h generalizing construction with
  | @column members c hm =>
      obtain ⟨slot, hslot⟩ := Construction.exists_puts (hcomposes.takes _ hm hstored)
      exact ⟨[slot], _, hm, slot, [], rfl, hslot, .column⟩
  | @embedded members inner e path c hm _ ih =>
      obtain ⟨slot, hslot⟩ := Construction.exists_puts (hcomposes.takes _ hm rfl)
      cases hmembers _ hm with
      | embedded hinner hcomposed =>
          obtain ⟨rest, hrest⟩ := ih hstored hinner hcomposed
          refine ⟨slot :: (e.guard inner ++ rest), _, hm, slot, _, rfl, hslot, ?_⟩
          exact Member.Route.embedded_iff.mpr ⟨rest, path, rfl, rfl, hrest⟩

section Composed

variable {c : Catalog} {depth : Nat} {s : MemberScope} {p : Property}

theorem Construction.Composes.markKeyAll {construction : Construction} {members : List Member}
    (h : construction.Composes members) (names : List String) :
    construction.Composes (Member.markKeyAll names members) := by
  rw [Member.markKeyAll_eq_map]
  constructor
  · have hsame : Member.property ∘ Member.markKey names = Member.property :=
      funext (Member.property_markKey names)
    rw [List.map_map, hsame]
    exact h.nodup
  · rw [List.forall_mem_map]
    intro m hm hstored
    rw [Member.isStored_markKey] at hstored
    rw [Member.property_markKey]
    exact h.takes m hm hstored

theorem Member.Composed.markKey {m : Member} (h : m.Composed) (names : List String) :
    (m.markKey names).Composed := by
  induction h with
  | column => exact .column
  | @embedded e members composes _ ih =>
      refine .embedded (composes.markKeyAll names) ?_
      rw [Member.markKeyAll_eq_map, List.forall_mem_map]
      exact ih

/-- A construction that nothing is wrong with takes what its struct stores. -/
theorem composes_of_construction {d : Declaration} {members : List Member} {anchor : String}
    {construction : Construction}
    (h : d.construction ((members.filter Member.isStored).map Member.property) anchor =
      (construction, []))
    (hmembers : members.map Member.property = d.properties.map Property.name)
    (hnodup : (d.properties.map Property.name).Nodup) : construction.Composes members := by
  refine ⟨hmembers ▸ hnodup, fun m hm hstored => ?_⟩
  obtain ⟨-, hparameters⟩ | ⟨-, hrequired⟩ := construction_cases h
  · rw [hparameters, ← hmembers]
    exact List.mem_map_of_mem hm
  · exact (hrequired m.property).mpr (List.mem_map_of_mem (List.mem_filter.mpr ⟨hm, hstored⟩))

/-- What a property without a problem comes to, however deep it embeds. -/
theorem composed_of_memberFindings (hnames : c.PropertiesDistinct) (depth : Nat) (s : MemberScope)
    (p : Property) : (memberFindings c depth s p).diagnostics = [] → s.Fits c depth →
      ∀ m ∈ (memberFindings c depth s p).members, m.Composed := by
  induction depth, s, p using memberFindings_induction (c := c) with
  | malformed => simp
  | ignored _ s p marks reason =>
      unfold ignoredMember
      split
      · simp [MemberFindings.problem]
      · exact fun _ _ => List.forall_mem_singleton.mpr .column
  | column _ s p marks =>
      unfold columnMember
      split
      · simp [MemberFindings.problem]
      · exact fun _ _ => List.forall_mem_singleton.mpr .column
  | untargeted => simp [MemberFindings.problem]
  | exhausted => simp
  | embedded depth s p marks embedded target htarget ih =>
      intro hclean hs
      obtain ⟨hmem, htrait, -⟩ := of_embeddedTarget htarget
      obtain ⟨hconcat, hfaults⟩ := List.append_eq_nil_iff.mp hclean
      have hinner := clean_of_concat hconcat
      have hnested := hs.nested htarget embedded
      obtain ⟨hproperties, -⟩ := members_of_concat fun q hq =>
        one_of_memberFindings hnames depth _ q (hinner q hq) hnested
      refine List.forall_mem_singleton.mpr (.embedded ?_ ?_)
      · exact composes_of_construction (Prod.ext rfl hfaults) hproperties (hnames target hmem htrait)
      · intro m hm
        obtain ⟨f, hf, hm⟩ := List.mem_flatMap.mp hm
        obtain ⟨q, hq, rfl⟩ := List.mem_map.mp hf
        exact ih q hq (hinner q hq) hnested m hm

/-- Every stored member of an entity has its slot. -/
structure Entity.Composed (e : Entity) : Prop where
  composes : e.construction.Composes e.members
  members : ∀ m ∈ e.members, m.Composed

theorem composed_of_entityOf (hnames : c.PropertiesDistinct) {d : Declaration}
    (hd : d ∈ c.declarations) {e : Entity} (h : c.entityOf d = .ok e) : e.Composed := by
  obtain ⟨shape, foreignKeys, hshape, rfl, -⟩ := shape_of_entityOf h
  obtain ⟨htrait, record, -, hshaped⟩ := shapedBy_of_entityShape hshape
  have hfits := MemberScope.fits_entity hd record
  have hclean := clean_of_concat hshaped.clean
  obtain ⟨hproperties, -⟩ := members_of_concat fun p hp =>
    one_of_memberFindings hnames c.size _ p (hclean p hp) hfits
  have hcomposes := composes_of_construction hshaped.construction hproperties (hnames d hd htrait)
  constructor
  · rw [hshaped.members]
    exact hcomposes.markKeyAll shape.primaryKey.columns
  · rw [hshaped.members, Member.markKeyAll_eq_map, List.forall_mem_map]
    intro m hm
    obtain ⟨f, hf, hm⟩ := List.mem_flatMap.mp hm
    obtain ⟨p, hp, rfl⟩ := List.mem_map.mp hf
    exact (composed_of_memberFindings hnames c.size _ p (hclean p hp) hfits m hm).markKey _

end Composed

/-! ## what a mapper reads -/

section Reading

variable {slots : List Slot} {read : Read}

/-- The value of a column is read, unless the column is left out. -/
theorem readBy_of_argument {c : Column} {found : Option Build}
    (h : (Member.column c).argument = .ok found) :
    (∀ value, found = some value → c.isStored = true ∧ ∃ read, c.ReadBy read ∧ value = .read read) ∧
      (c.isStored = true → c.mapping.isSome = true → found.isSome = true) := by
  rw [Member.argument] at h
  split at h
  · next mapping hmapping =>
    split at h
    · next hstored =>
      cases hread : Read.of (.column c.name) c.type mapping with
      | error e =>
          rw [hread] at h
          contradiction
      | ok read =>
          rw [hread] at h
          cases h
          refine ⟨?_, fun _ _ => rfl⟩
          rintro value ⟨⟩
          exact ⟨hstored, read, ⟨mapping, hmapping, hread⟩, rfl⟩
    · next hstored =>
      cases h
      refine ⟨?_, fun hstored' => absurd hstored' hstored⟩
      rintro value ⟨⟩
  · next hmapping =>
    cases h
    constructor
    · rintro value ⟨⟩
    · intro _ hsome
      rw [hmapping] at hsome
      contradiction

/-- An embedded struct is built, inside the test for an absent one. -/
theorem build_of_argument {e : Embedding} {members : List Member} {found : Option Build}
    (h : (Member.embedded e members).argument = .ok found) :
    ∃ b value, e.construction.build e.type.name
        (argumentNamed e.type.name (Member.arguments members)) = .ok b ∧ found = some value ∧
      ∀ slots read, value.Reads slots read ↔
        ∃ rest, slots = e.guard members ++ rest ∧ b.Reads rest read := by
  rw [Member.argument] at h
  obtain ⟨b, hb, h⟩ := bind_eq_ok h
  unfold Embedding.guard
  split at h
  · next hnullable =>
    cases h
    refine ⟨b, _, hb, rfl, fun slots read => ?_⟩
    rw [if_pos hnullable]
    constructor
    · intro hreads
      cases hreads with
      | unlessNull hreads => exact ⟨_, rfl, hreads⟩
    · rintro ⟨rest, rfl, hreads⟩
      exact .unlessNull hreads
  · next hnullable =>
    cases h
    refine ⟨b, b, hb, rfl, fun slots read => ?_⟩
    rw [if_neg hnullable]
    constructor
    · exact fun hreads => ⟨slots, rfl, hreads⟩
    · rintro ⟨rest, rfl, hreads⟩
      exact hreads

/-- A struct reads at the routes of the stored columns only, if its members do. -/
theorem route_of_build {owner : String} {construction : Construction} {members : List Member}
    {b : Build}
    (hmembers : ∀ m ∈ members, ∀ value slots, m.argument = .ok (some value) → value.Reads slots read →
      ∃ path c, c.isStored = true ∧ m.Route path c slots ∧ c.ReadBy read)
    (h : construction.build owner (argumentNamed owner (Member.arguments members)) = .ok b)
    (hreads : b.Reads slots read) :
    ∃ path c, c.isStored = true ∧ construction.Route members path c slots ∧ c.ReadBy read := by
  obtain ⟨m, hm, slot, rest, value, rfl, hslot, hvalue, hrest⟩ := member_of_reads h hreads
  obtain ⟨path, c, hstored, hroute, hread⟩ := hmembers m hm value rest hvalue hrest
  exact ⟨path, c, hstored, ⟨m, hm, slot, rest, rfl, hslot, hroute⟩, hread⟩

theorem route_of_argument (m : Member) {value : Build} {slots : List Slot}
    (hvalue : m.argument = .ok (some value)) (hreads : value.Reads slots read) :
    ∃ path c, c.isStored = true ∧ m.Route path c slots ∧ c.ReadBy read := by
  match m with
  | .column c =>
      obtain ⟨hstored, read', hread, rfl⟩ := (readBy_of_argument hvalue).1 value rfl
      cases hreads
      exact ⟨[], c, hstored, .column, hread⟩
  | .embedded e members =>
      obtain ⟨b, value, hb, ⟨⟩, hguard⟩ := build_of_argument hvalue
      obtain ⟨rest, rfl, hrest⟩ := (hguard slots read).mp hreads
      have hmembers : ∀ m ∈ members, ∀ value slots, m.argument = .ok (some value) →
          value.Reads slots read → ∃ path c, c.isStored = true ∧ m.Route path c slots ∧ c.ReadBy read :=
        fun m _ _ _ hvalue hreads => route_of_argument m hvalue hreads
      obtain ⟨path, c, hstored, hroute, hread⟩ := route_of_build hmembers hb hrest
      exact ⟨_, c, hstored, Member.Route.embedded_iff.mpr ⟨rest, path, rfl, rfl, hroute⟩, hread⟩
termination_by sizeOf m
decreasing_by
  have hsmaller : sizeOf ‹Member› < sizeOf members := List.sizeOf_lt_of_mem ‹_›
  simp only [Member.embedded.sizeOf_spec]
  omega

/-- Whatever a mapper reads is a stored column, at one of its routes. -/
theorem route_of_reads {e : Entity} {b : Build} (hb : e.build = .ok b) (h : b.Reads slots read) :
    ∃ path c, c.isStored = true ∧ e.construction.Route e.members path c slots ∧ c.ReadBy read :=
  route_of_build (fun m _ _ _ hvalue hreads => route_of_argument m hvalue hreads) hb h

/-- At the end of the route of a stored column the column is read. -/
theorem reads_of_route {m : Member} {path : List Embedding} {c : Column} (h : m.Route path c slots)
    (hcomposed : m.Composed) (hstored : c.isStored = true) (hmapped : c.mapping.isSome = true)
    {found : Option Build} (hfound : m.argument = .ok found) :
    ∃ value read, found = some value ∧ c.ReadBy read ∧ value.Reads slots read := by
  induction h generalizing found with
  | @column c =>
      obtain ⟨hvalue, hsome⟩ := readBy_of_argument hfound
      obtain ⟨value, rfl⟩ := Option.isSome_iff_exists.mp (hsome hstored hmapped)
      obtain ⟨-, read, hread, rfl⟩ := hvalue value rfl
      exact ⟨_, read, rfl, hread, .read⟩
  | @embedded e members m path c slot slots hm hslot _ ih =>
      cases hcomposed with
      | embedded hcomposes hinner =>
          obtain ⟨b, value, hb, rfl, hguard⟩ := build_of_argument hfound
          obtain ⟨inner, hinnerValue, hput⟩ := reads_of_member hcomposes.nodup hb hm hslot
          obtain ⟨innerValue, read, rfl, hread, hreads⟩ := ih (hinner m hm) hstored hmapped hinnerValue
          have hslotted := hput innerValue slots read rfl hreads
          exact ⟨value, read, rfl, hread, (hguard _ read).mpr ⟨slot :: slots, rfl, hslotted⟩⟩

/-- At the end of each of its routes a mapper reads a stored column. -/
theorem reads_of_entity_route {e : Entity} (h : e.Composed) {b : Build} (hb : e.build = .ok b)
    {path : List Embedding} {c : Column} (hroute : e.construction.Route e.members path c slots)
    (hstored : c.isStored = true) (hmapped : c.mapping.isSome = true) :
    ∃ read, c.ReadBy read ∧ b.Reads slots read := by
  obtain ⟨m, hm, slot, rest, rfl, hslot, hroute⟩ := hroute
  obtain ⟨found, hfound, hput⟩ := reads_of_member h.composes.nodup hb hm hslot
  obtain ⟨value, read, rfl, hread, hreads⟩ :=
    reads_of_route hroute (h.members m hm) hstored hmapped hfound
  exact ⟨read, hread, hput value rest read rfl hreads⟩

end Reading

/-! ## one way only -/

section Ways

variable {construction : Construction} {members : List Member} {path : List Embedding} {c : Column}

/-- A route to a column takes a way that leads to it. -/
theorem Member.Route.leads {m : Member} {slots : List Slot} (h : m.Route path c slots) :
    Member.Leads [m] path c := by
  induction h with
  | column => exact .column (List.mem_singleton_self _)
  | embedded hm _ _ ih =>
      refine .embedded (List.mem_singleton_self _) (ih.mono ?_)
      exact List.cons_subset.mpr ⟨hm, List.nil_subset _⟩

theorem Construction.Route.leads {slots : List Slot} (h : construction.Route members path c slots) :
    Member.Leads members path c := by
  obtain ⟨m, hm, _, _, -, -, hroute⟩ := h
  exact hroute.leads.mono (List.cons_subset.mpr ⟨hm, List.nil_subset _⟩)

namespace Member

theorem storedNames_eq_flatMap (members : List Member) :
    storedNames members = members.flatMap fun m => storedNames [m] := by
  induction members with
  | nil => rfl
  | cons m rest ih => rw [← List.singleton_append, storedNames_append, ih]; rfl

theorem storedNames_embedded (e : Embedding) (inner : List Member) :
    storedNames [.embedded e inner] = storedNames inner := by
  simp [storedNames, columnsOf, columns]

/-- A member on the way to a stored column has its name. -/
theorem Leads.mem_storedNames (h : Leads members path c) (hstored : c.isStored = true) :
    c.name ∈ storedNames members :=
  List.mem_map_of_mem (List.mem_filter.mpr ⟨mem_columnsOf_of_leads h, hstored⟩)

/-- If the stored columns have distinct names, one member has the column. -/
theorem eq_of_mem_storedNames (hnodup : (storedNames members).Nodup) {m m' : Member}
    (hm : m ∈ members) (hm' : m' ∈ members) {name : String} (h : name ∈ storedNames [m])
    (h' : name ∈ storedNames [m']) : m = m' := by
  rw [storedNames_eq_flatMap, List.nodup_flatMap] at hnodup
  have : Std.Symm (Function.onFun List.Disjoint fun m => storedNames [m]) :=
    ⟨fun _ _ hd _ hleft hright => hd hright hleft⟩
  by_contra hne
  exact hnodup.2.forall hm hm' hne h h'

/-- One way only leads to a stored column. -/
theorem leads_unique (hnodup : (storedNames members).Nodup) (hstored : c.isStored = true)
    {path' : List Embedding} (h : Leads members path c) (h' : Leads members path' c) :
    path = path' := by
  have hcolumn : c.name ∈ storedNames [.column c] :=
    (Leads.column (List.mem_singleton_self _)).mem_storedNames hstored
  have hembedded {e : Embedding} {inner : List Member} {rest : List Embedding}
      (hinner : Leads inner rest c) : c.name ∈ storedNames [.embedded e inner] := by
    rw [storedNames_embedded]
    exact hinner.mem_storedNames hstored
  induction h generalizing path' with
  | column hm =>
      cases h' with
      | column => rfl
      | embedded hm' hinner' =>
          exact nomatch eq_of_mem_storedNames hnodup hm hm' hcolumn (hembedded hinner')
  | @embedded members inner e path c hm hinner ih =>
      cases h' with
      | column hm' => exact nomatch eq_of_mem_storedNames hnodup hm hm' (hembedded hinner) hcolumn
      | embedded hm' hinner' =>
          obtain ⟨rfl, rfl⟩ := Member.embedded.inj
            (eq_of_mem_storedNames hnodup hm hm' (hembedded hinner) (hembedded hinner'))
          have hnames : (storedNames inner).Nodup := by
            rw [storedNames_eq_flatMap, List.nodup_flatMap] at hnodup
            rw [← storedNames_embedded e]
            exact hnodup.1 _ hm
          rw [ih hnames hstored hinner' hcolumn hembedded]

end Member

/-- The embeddings around a column of the table, from the entity inward. -/
def Entity.wayTo (e : Entity) (c : Column) : List Embedding :=
  (Member.pathIn? c.name e.members).getD []

theorem Entity.WellKeyed.leads_iff {e : Entity} (h : e.WellKeyed) (hc : c ∈ e.storedColumns) :
    Member.Leads e.members path c ↔ path = e.wayTo c := by
  obtain ⟨way, hway, hleads⟩ := h.pathIn?_eq hc
  rw [wayTo, hway, Option.getD_some]
  constructor
  · exact fun hpath => Member.leads_unique h.nodup (List.mem_filter.mp hc).2 hpath hleads
  · rintro rfl
    exact hleads

end Ways

/-! ## writing and reading -/

/-- The argument for a column follows the path: its code reaches the struct that owns the column, through an
option iff one of the embeddings is optional, and binds the column's property there. -/
structure ColumnArgument.Follows (a : ColumnArgument) (path : List Embedding) (c : Column) : Prop where
  owner : Code.Reaches (Embedding.steps path) a.owner.isOption a.owner.code
  isOption : a.owner.isOption = true ↔ ∃ embedding ∈ path, embedding.isNullable = true
  code : ∀ n, c.BoundBy n path a.adapter (a.code n)

section Arguments

variable {e : Entity} {c : Column} {a : ColumnArgument}

/-- Both sides take the adapter from the mapping. -/
theorem field?_of_read {source : RowSource} {type : TypeExpr} {mapping : Mapping} {read : Read}
    (h : Read.of source type mapping = .ok read) :
    read.source = source ∧ mapping.field? = .ok read.adapter? := by
  cases mapping with
  | native affinity =>
      obtain ⟨code, -, h⟩ := bind_eq_ok h
      cases h
      exact ⟨rfl, rfl⟩
  | adapted key =>
      obtain ⟨field, hfield, h⟩ := bind_eq_ok h
      obtain ⟨storage, -, h⟩ := bind_eq_ok h
      cases h
      refine ⟨rfl, ?_⟩
      rw [Mapping.field?, hfield]
      rfl

theorem field?_of_columnArgument (h : ColumnArgument.of e c = .ok a) :
    a.isNullable = c.type.nullable ∧ ∃ mapping, c.mapping = some mapping ∧
      mapping.field? = .ok a.adapter := by
  unfold ColumnArgument.of at h
  split at h
  · contradiction
  · next mapping hmapping =>
    obtain ⟨embeddings, -, h⟩ := bind_eq_ok h
    obtain ⟨property, -, h⟩ := bind_eq_ok h
    obtain ⟨adapter, hadapter, h⟩ := bind_eq_ok h
    cases h
    exact ⟨rfl, mapping, hmapping, hadapter⟩

/-- A column is read through the adapter that it is bound through. -/
theorem adapter_eq (h : ColumnArgument.of e c = .ok a) {read : Read} (hread : c.ReadBy read) :
    read.adapter? = a.adapter := by
  obtain ⟨-, mapping, hmapping, ha⟩ := field?_of_columnArgument h
  obtain ⟨mapping', hmapping', hof⟩ := hread
  obtain rfl : mapping = mapping' := Option.some.inj (hmapping.symm.trans hmapping')
  exact Except.ok.inj ((field?_of_read hof).2.symm.trans ha)

theorem follows_of_columnArgument (hkeyed : e.WellKeyed) (hc : c ∈ e.storedColumns)
    (ha : ColumnArgument.of e c = .ok a) : a.Follows (e.wayTo c) c := by
  obtain ⟨path, hpath, -⟩ := hkeyed.pathIn?_eq hc
  obtain ⟨howner, hcode⟩ := ColumnArgument.boundBy_of ha hpath
  have hway : e.wayTo c = path := by rw [Entity.wayTo, hpath, Option.getD_some]
  rw [hway]
  exact ⟨howner, howner.isOption_iff_of_steps, hcode⟩

end Arguments

/-- A mapper gives the value that it builds. -/
theorem MapperUnit.occurs_value (n : Naming) (u : MapperUnit) :
    (Code.word "Ok" ++ Code.parens (u.value.code n)).Occurs (u.code n) := by
  unfold MapperUnit.code
  extract_lets fields
  exact (Code.Occurs.here.braces.after _).braces.after _

/-- What a mapper reads and what a statement binds are the same columns, in the same places of the
struct. -/
structure Entity.ColumnsAgree (e : Entity) (b : Build) : Prop where
  /-- One way leads to a stored column. -/
  leads : ∀ c ∈ e.storedColumns, ∀ path, Member.Leads e.members path c ↔ path = e.wayTo c
  /-- There are slots for it along the way, with a test at the optional embeddings. -/
  routed : ∀ c ∈ e.storedColumns, ∃ slots, e.construction.Route e.members (e.wayTo c) c slots
  /-- It is read there and nowhere else. -/
  reads : ∀ c ∈ e.storedColumns, ∀ slots, (∃ read, b.Reads slots read ∧ read.source = .column c.name) ↔
    e.construction.Route e.members (e.wayTo c) c slots
  /-- Nothing else is read. -/
  stored : ∀ slots read, b.Reads slots read → ∃ c ∈ e.storedColumns, read.source = .column c.name
  /-- The code of the mapper says so. -/
  code : ∀ n, b.Spelled n (b.code n) ∧ ∀ u, MapperUnit.of n e = .ok u →
    (Code.word "Ok" ++ Code.parens (b.code n)).Occurs (u.code n)
  /-- It is bound from the same place. -/
  follows : ∀ c ∈ e.storedColumns, ∀ a, ColumnArgument.of e c = .ok a → a.Follows (e.wayTo c) c
  /-- It is bound through the adapter that it is read through. -/
  adapters : ∀ c ∈ e.storedColumns, ∀ a, ColumnArgument.of e c = .ok a → ∀ slots read,
    b.Reads slots read → read.source = .column c.name → read.adapter? = a.adapter

section Agreement

variable {e : Entity} {b : Build} {slots : List Slot} {read : Read}

/-- What is read is a stored column, at its route. -/
theorem column_of_reads (hkeyed : e.WellKeyed) (hb : e.build = .ok b) (h : b.Reads slots read) :
    ∃ c ∈ e.storedColumns, read.source = .column c.name ∧ c.ReadBy read ∧
      e.construction.Route e.members (e.wayTo c) c slots := by
  obtain ⟨path, c, hstored, hroute, hread⟩ := route_of_reads hb h
  have hc : c ∈ e.storedColumns :=
    List.mem_filter.mpr ⟨Member.mem_columnsOf_of_leads hroute.leads, hstored⟩
  obtain ⟨mapping, -, hof⟩ := id hread
  rw [(hkeyed.leads_iff hc).mp hroute.leads] at hroute
  exact ⟨c, hc, (field?_of_read hof).1, hread, hroute⟩

/-- What is read under the name of a stored column is that column. -/
theorem eq_column_of_reads (hkeyed : e.WellKeyed) (hb : e.build = .ok b) (h : b.Reads slots read)
    {c : Column} (hc : c ∈ e.storedColumns) (hsource : read.source = .column c.name) :
    c.ReadBy read ∧ e.construction.Route e.members (e.wayTo c) c slots := by
  obtain ⟨found, hfound, hname, hread, hroute⟩ := column_of_reads hkeyed hb h
  have hsame : found.name = c.name := RowSource.column.inj (hname.symm.trans hsource)
  obtain rfl := List.inj_on_of_nodup_map hkeyed.nodup hfound hc hsame
  exact ⟨hread, hroute⟩

theorem Entity.columnsAgree (hkeyed : e.WellKeyed) (hcomposed : e.Composed)
    (hmapped : ∀ c ∈ e.storedColumns, c.mapping.isSome = true) (hb : e.build = .ok b) :
    e.ColumnsAgree b where
  leads c hc path := hkeyed.leads_iff hc
  routed c hc := by
    have hleads := (hkeyed.leads_iff hc).mpr rfl
    exact exists_route hleads (List.mem_filter.mp hc).2 hcomposed.composes hcomposed.members
  reads c hc slots := by
    constructor
    · rintro ⟨read, hreads, hsource⟩
      exact (eq_column_of_reads hkeyed hb hreads hc hsource).2
    · intro hroute
      obtain ⟨read, hread, hreads⟩ :=
        reads_of_entity_route hcomposed hb hroute (List.mem_filter.mp hc).2 (hmapped c hc)
      obtain ⟨mapping, -, hof⟩ := hread
      exact ⟨read, hreads, (field?_of_read hof).1⟩
  stored slots read hreads := by
    obtain ⟨c, hc, hsource, -⟩ := column_of_reads hkeyed hb hreads
    exact ⟨c, hc, hsource⟩
  code n := by
    refine ⟨b.spelled_code n, fun u hu => ?_⟩
    obtain rfl := Except.ok.inj (hb.symm.trans (MapperUnit.parts_of hu).2)
    exact u.occurs_value n
  follows c hc a ha := follows_of_columnArgument hkeyed hc ha
  adapters c hc a ha slots read hreads hsource :=
    adapter_eq ha (eq_column_of_reads hkeyed hb hreads hc hsource).1

end Agreement

/-! ## runs -/

namespace Call

/-- **Writing and reading agree** on every column of every entity that a run replies with, if the
properties of every struct have distinct names; nothing but a name can keep the two from being composed. -/
theorem columns_agree {c : Catalog} (hnames : c.PropertiesDistinct) {calls : List Call} {e : Entity}
    (h : .entity (.ok e) ∈ ((calls.mapM (Call.answer c)).run {}).run.1) :
    OnlyNaming e.build ∧ (∀ column ∈ e.storedColumns, OnlyNaming (ColumnArgument.of e column)) ∧
      ∀ b, e.build = .ok b → e.ColumnsAgree b := by
  obtain ⟨d, hd, hentity⟩ := entityOf_of_reply h
  have hmapped : ∀ column ∈ e.storedColumns, column.mapping.isSome = true := by
    intro column hcolumn
    obtain ⟨hmem, hstored⟩ := List.mem_filter.mp hcolumn
    exact ((consistent_of_entityOf hentity).mapped column hmem).mpr hstored
  refine ⟨onlyNaming_entity (buildable_of_entityOf hnames hd hentity), ?_, fun b hb => ?_⟩
  · exact fun column hcolumn => onlyNaming_columnArgument (hmapped column hcolumn)
  · exact Entity.columnsAgree (wellKeyed_of_entityOf hentity) (composed_of_entityOf hnames hd hentity)
      hmapped hb

/-- Residents with two addresses, of which one is optional, and both with an optional place; a
constructor takes an address in another order than it is declared in, and a place has a property that is
left out. -/
def residentCatalog : Catalog where
  declarations :=
    [{ qualifiedName := "app::Place"
       properties :=
         [{ name := "zone", type := .ofName "String" },
          { name := "note", type := .ofName "String", annotations := [{ name := "Ignore" }] },
          { name := "exact", type := .ofName "bool" }] },
      { qualifiedName := "app::Address"
        properties :=
          [{ name := "street", type := .ofName "String" },
            { name := "place"
              type := { name := "app::Place", nullable := true }
              annotations := [{ name := "Embedded", arguments := [("prefix", .text "place_")] }] }]
        constructor := some
          { name := "at"
            parameters :=
              [{ name := "place", type := { name := "app::Place", nullable := true } },
                { name := "street", type := .ofName "String" }] } },
      { qualifiedName := "app::Resident"
        annotations := [{ name := "Entity" }]
        properties :=
          [{ name := "id", type := .ofName "i64", annotations := [{ name := "PrimaryKey" }] },
            { name := "home"
              type := .ofName "app::Address"
              annotations := [{ name := "Embedded" }] },
            { name := "away"
              type := { name := "app::Address", nullable := true }
              annotations := [{ name := "Embedded", arguments := [("prefix", .text "away_")] }] }] }]
  nodup := by decide

/-- All columns of a resident are read and bound alike, those of the optional address too. -/
theorem columns_agree_resident :
    residentCatalog.PropertiesDistinct ∧ ∃ e b,
      .entity (.ok e) ∈ (([.entity "app::Resident"].mapM (Call.answer residentCatalog)).run {}).run.1 ∧
      e.storedColumns.map Column.name = ["id", "street", "place_zone", "place_exact",
        "away_street", "away_place_zone", "away_place_exact"] ∧
      e.build = .ok b ∧ e.ColumnsAgree b := by
  have hnames : residentCatalog.PropertiesDistinct := by
    unfold Catalog.PropertiesDistinct
    decide
  have hrun : ((residentCatalog.byName (Session.entity residentCatalog) "app::Resident").run
        {}).run.1.toOption.map (fun e => (e.storedColumns.map Column.name,
          e.build.toOption.isSome)) =
      some (["id", "street", "place_zone", "place_exact", "away_street", "away_place_zone",
        "away_place_exact"], true) := by
    decide +kernel
  obtain ⟨e, he, hparts⟩ := Option.map_eq_some_iff.mp hrun
  obtain ⟨hcolumns, hbuild⟩ := Prod.mk.inj hparts
  obtain ⟨b, hb⟩ := Option.isSome_iff_exists.mp hbuild
  have hreply : Reply.entity (.ok e) ∈
      (([Call.entity "app::Resident"].mapM (Call.answer residentCatalog)).run {}).run.1 := by
    rw [replies_entity, eq_ok_of_toOption he]
    exact List.mem_singleton_self _
  have hok := eq_ok_of_toOption hb
  exact ⟨hnames, e, b, hreply, hcolumns, hok, (columns_agree hnames hreply).2.2 b hok⟩

end Call

end DaoForge
