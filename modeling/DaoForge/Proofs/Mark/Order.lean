import DaoForge.Proofs.Mark.Kept

/-!
# DaoForge.Proofs.Mark.Order

The order of arguments does not matter: annotations that differ in it only, in themselves or in the
annotations inside, are read as the same record or not at all.

1. `MarkValue.Reordered`: the same value, with the arguments of annotations in another order;
2. `AttributeReader.Agrees`: two readings find the same or fail both, maybe with other errors. There is
   one lemma for each way to read an attribute (`agrees_text` and others), and one for each record
   (`EntityMark.agrees` and others);
3. `MarkKind.steady`: so the records of every kind are read in any order;
4. `Mark.read_whole`: and what is read is all that is written.
-/

namespace DaoForge

/-! ## another order -/

/-- The same value, with the arguments of the annotations in it in another order. -/
inductive MarkValue.Reordered : MarkValue → MarkValue → Prop where
  | same (value : MarkValue) : Reordered value value
  | array {vs ws : List MarkValue} (h : List.Forall₂ Reordered vs ws) :
      Reordered (.array vs) (.array ws)
  /-- First the values are reordered, then the arguments are. -/
  | nested {name : String} {as bs cs : List (String × MarkValue)}
      (hnames : as.map Prod.fst = bs.map Prod.fst)
      (hvalues : List.Forall₂ Reordered (as.map Prod.snd) (bs.map Prod.snd)) (hperm : bs.Perm cs) :
      Reordered (.nested name as) (.nested name cs)

namespace Mark

/-- The same annotation, with its arguments and those of the annotations inside in another order. -/
def Reordered (a b : Mark) : Prop :=
  (MarkValue.nested a.name a.arguments).Reordered (.nested b.name b.arguments)

/-- The same attributes are written, with values that are the same up to order. -/
def Alike (a b : Mark) : Prop :=
  ∀ key, Option.Rel (fun v w => v.Proper ∧ v.Reordered w) (a.argument? key) (b.argument? key)

/-- Arguments whose values are reordered, each in its place. -/
theorem alike_of_values {name : String} {as bs : List (String × MarkValue)}
    (hproper : MarkValue.ProperArguments as) (hnames : as.map Prod.fst = bs.map Prod.fst)
    (hvalues : List.Forall₂ MarkValue.Reordered (as.map Prod.snd) (bs.map Prod.snd)) :
    Alike ⟨name, as⟩ ⟨name, bs⟩ := by
  intro key
  induction as generalizing bs with
  | nil =>
      cases bs with
      | nil => exact .none
      | cons b rest => contradiction
  | cons first rest ih =>
      obtain ⟨firstName, v⟩ := first
      cases bs with
      | nil => contradiction
      | cons second others =>
          obtain ⟨secondName, w⟩ := second
          simp only [List.map_cons, List.cons.injEq, List.forall₂_cons] at hnames hvalues
          obtain ⟨rfl, hnames⟩ := hnames
          unfold argument?
          by_cases hkey : firstName = key
          · simp only [List.find?_cons, hkey, beq_self_eq_true, Option.map_some]
            exact .some ⟨hproper.1, hvalues.1⟩
          · simp only [List.find?_cons, beq_false_of_ne hkey]
            exact ih hproper.2 hnames hvalues.2

/-- Arguments in another order, no name twice. -/
theorem argument?_perm {name : String} {bs cs : List (String × MarkValue)} (hperm : bs.Perm cs)
    (hnodup : (bs.map Prod.fst).Nodup) (key : String) :
    argument? ⟨name, bs⟩ key = argument? ⟨name, cs⟩ key := by
  have hnodup' : (cs.map Prod.fst).Nodup := (hperm.map Prod.fst).nodup_iff.mp hnodup
  ext value
  rw [argument?_eq_some_iff hnodup, argument?_eq_some_iff hnodup']
  exact hperm.mem_iff

theorem alike_of_reordered {a b : Mark} (ha : a.Proper) (h : a.Reordered b) : a.Alike b := by
  obtain ⟨aName, as⟩ := a
  obtain ⟨bName, cs⟩ := b
  cases h with
  | same =>
      exact alike_of_values ha.2 rfl (List.forall₂_same.mpr fun v _ => .same v)
  | @nested _ _ bs _ hnames hvalues hperm =>
      intro key
      rw [← argument?_perm hperm (hnames ▸ ha.1)]
      exact alike_of_values ha.2 hnames hvalues key

theorem name_of_reordered {a b : Mark} (h : a.Reordered b) : a.name = b.name := by
  obtain ⟨aName, as⟩ := a
  obtain ⟨bName, cs⟩ := b
  cases h <;> rfl

theorem names_of_reordered {a b : Mark} (h : a.Reordered b) :
    (a.arguments.map Prod.fst).Perm (b.arguments.map Prod.fst) := by
  obtain ⟨aName, as⟩ := a
  obtain ⟨bName, cs⟩ := b
  cases h with
  | same => exact .refl _
  | nested hnames _ hperm => exact hnames ▸ hperm.map Prod.fst

end Mark

/-! ## readings that agree -/

namespace AttributeReader

variable {α β : Type}

/-- Both find the same and look at the same attributes, or both fail. -/
def Agrees (x y : AttributeReader α) : Prop := ∀ taken, (x taken).toOption = (y taken).toOption

theorem Agrees.refl (x : AttributeReader α) : x.Agrees x := fun _ => rfl

theorem Agrees.bind {x y : AttributeReader α} {f g : α → AttributeReader β} (h : x.Agrees y)
    (hf : ∀ a, (f a).Agrees (g a)) : (x >>= f).Agrees (y >>= g) := by
  intro taken
  have hrun (x : AttributeReader α) (f : α → AttributeReader β) :
      ((x >>= f) taken).toOption =
        (x taken).toOption.bind fun found => (f found.1 found.2).toOption :=
    toOption_bind (x taken) _
  rw [hrun, hrun, h taken]
  exact congrArg _ (funext fun found => hf found.1 found.2)

end AttributeReader

namespace Mark

/-- Annotations of a record's name are read in any order of their arguments. -/
def Steady (R : Type) [MarkRecord R] : Prop :=
  ∀ a b : Mark, a.Proper → a.Reordered b → (read R a).toOption = (read R b).toOption

section Readers

variable {a b : Mark} {α : Type}

theorem agrees_look (key : String) {f g : Option MarkValue → Except ValidationError α}
    (h : (f (a.argument? key)).toOption = (g (b.argument? key)).toOption) :
    (a.look key f).Agrees (b.look key g) := by
  intro taken
  unfold look
  rw [toOption_map, toOption_map, h]

/-- Reading a value agrees on values that are the same up to order. -/
def AgreeOn (f g : MarkValue → Except ValidationError α) : Prop :=
  ∀ v w, v.Proper → v.Reordered w → (f v).toOption = (g w).toOption

theorem agrees_readArgument (h : a.Alike b) (key : String)
    {f g : MarkValue → Except ValidationError α} (hfg : AgreeOn f g) :
    (a.readArgument key f).Agrees (b.readArgument key g) := by
  refine agrees_look key ?_
  have hkey := h key
  generalize a.argument? key = left at hkey ⊢
  generalize b.argument? key = right at hkey ⊢
  cases hkey with
  | none => rfl
  | @some v w hvw =>
      dsimp only
      rw [toOption_map, toOption_map, hfg v w hvw.1 hvw.2]

theorem mapM_agrees {f g : MarkValue → Except ValidationError α} (hfg : AgreeOn f g)
    {vs ws : List MarkValue} (hproper : MarkValue.ProperItems vs)
    (h : List.Forall₂ MarkValue.Reordered vs ws) :
    (vs.mapM f).toOption = (ws.mapM g).toOption := by
  induction h with
  | nil => rfl
  | @cons v w vs ws hvw _ ih =>
      rw [List.mapM_cons, List.mapM_cons, toOption_bind, toOption_bind, hfg v w hproper.1 hvw]
      refine congrArg _ (funext fun first => ?_)
      rw [toOption_bind, toOption_bind, ih hproper.2]

theorem agrees_readItems (h : a.Alike b) (key : String)
    {f g : MarkValue → Except ValidationError α} (hfg : AgreeOn f g) :
    (a.readItems key f).Agrees (b.readItems key g) := by
  refine agrees_look key ?_
  have hkey := h key
  generalize a.argument? key = left at hkey ⊢
  generalize b.argument? key = right at hkey ⊢
  cases hkey with
  | none => rfl
  | @some v w hvw =>
      obtain ⟨hv, hvw⟩ := hvw
      cases hvw with
      | array hitems => exact mapM_agrees hfg hv hitems
      | nested hnames hvalues hperm =>
          dsimp only
          rw [toOption_bind, toOption_bind, hfg _ _ hv (.nested hnames hvalues hperm)]
      | same =>
          -- the value is the same, but it is read for two annotations, whose errors may differ
          cases v with
          | array items => exact mapM_agrees hfg hv (List.forall₂_same.mpr fun v _ => .same v)
          | _ =>
              dsimp only
              rw [toOption_bind, toOption_bind, hfg _ _ hv (.same _)]

theorem agrees_require (key : String) (value : Option α) :
    (a.require key value).Agrees (b.require key value) := by
  cases value with
  | none => exact fun _ => rfl
  | some value => exact .refl _

/-- A value of a kind that no annotation is in is not reordered. -/
theorem agreeOn_readValue {key expected : String} {read : MarkValue → Option α}
    (harray : ∀ items, read (.array items) = none)
    (hnested : ∀ name arguments, read (.nested name arguments) = none) :
    AgreeOn (a.readValue key expected read) (b.readValue key expected read) := by
  have hread (a : Mark) (v : MarkValue) : (a.readValue key expected read v).toOption = read v := by
    unfold readValue
    cases read v <;> rfl
  intro v w _ h
  rw [hread, hread]
  cases h with
  | same => rfl
  | array => rw [harray, harray]
  | nested => rw [hnested, hnested]

theorem agrees_text (h : a.Alike b) (key : String) : (a.textArgument key).Agrees (b.textArgument key) :=
  agrees_readArgument h key (agreeOn_readValue (fun _ => rfl) fun _ _ => rfl)

theorem agrees_literal (h : a.Alike b) (key : String) :
    (a.literalArgument key).Agrees (b.literalArgument key) :=
  agrees_readArgument h key (agreeOn_readValue (fun _ => rfl) fun _ _ => rfl)

theorem agrees_bool (h : a.Alike b) (key : String) : (a.boolArgument key).Agrees (b.boolArgument key) :=
  agrees_readArgument h key (agreeOn_readValue (fun _ => rfl) fun _ _ => rfl)

theorem agrees_integer (h : a.Alike b) (key : String) :
    (a.integerArgument key).Agrees (b.integerArgument key) :=
  agrees_readArgument h key (agreeOn_readValue (fun _ => rfl) fun _ _ => rfl)

theorem agrees_type (h : a.Alike b) (key : String) : (a.typeArgument key).Agrees (b.typeArgument key) :=
  agrees_readArgument h key (agreeOn_readValue (fun _ => rfl) fun _ _ => rfl)

theorem agrees_types (h : a.Alike b) (key : String) :
    (a.typesArgument key).Agrees (b.typesArgument key) :=
  agrees_readItems h key (agreeOn_readValue (fun _ => rfl) fun _ _ => rfl)

theorem agrees_texts (h : a.Alike b) (key : String) :
    (a.textsArgument key).Agrees (b.textsArgument key) :=
  agrees_readItems h key (agreeOn_readValue (fun _ => rfl) fun _ _ => rfl)

theorem agreeOn_constantValue [Constant α] (key : String) :
    AgreeOn (constantValue α a key) (constantValue α b key) := by
  intro v w _ h
  cases h with
  | same =>
      unfold constantValue
      split <;> rfl
  | array => rfl
  | nested => rfl

theorem agrees_constant [Constant α] (h : a.Alike b) (key : String) :
    (constantArgument α a key).Agrees (constantArgument α b key) :=
  (agrees_readArgument h key (agreeOn_constantValue key)).bind fun _ => .refl _

theorem agrees_constants [Constant α] (h : a.Alike b) (key : String) :
    (constantsArgument α a key).Agrees (constantsArgument α b key) :=
  agrees_readItems h key (agreeOn_constantValue key)

variable {R : Type} [MarkRecord R]

theorem agreeOn_nestedValue (hR : Steady R) (key : String) :
    AgreeOn (nestedValue R a key) (nestedValue R b key) := by
  intro v w hv h
  cases h with
  | same =>
      unfold nestedValue
      split <;> rfl
  | array => rfl
  | nested hnames hvalues hperm => exact hR ⟨_, _⟩ ⟨_, _⟩ hv (.nested hnames hvalues hperm)

theorem agrees_nested (hR : Steady R) (h : a.Alike b) (key : String) :
    (nestedArgument R a key).Agrees (nestedArgument R b key) :=
  agrees_readArgument h key (agreeOn_nestedValue hR key)

theorem agrees_nestedList (hR : Steady R) (h : a.Alike b) (key : String) :
    (nestedListArgument R a key).Agrees (nestedListArgument R b key) :=
  agrees_readItems h key (agreeOn_nestedValue hR key)

end Readers

/-- Annotations are read in any order of their arguments if their attributes are. -/
theorem steady_of_agrees {R : Type} [MarkRecord R]
    (h : ∀ a b : Mark, a.Alike b → (MarkRecord.parse a : AttributeReader R).Agrees (MarkRecord.parse b)) :
    Steady R := by
  intro a b ha hab
  have hagrees := h a b (alike_of_reordered ha hab) []
  have hnamed : a.isNamed (MarkRecord.name R) = b.isNamed (MarkRecord.name R) := by
    unfold isNamed simpleName
    rw [name_of_reordered hab]
  have hall (a : Mark) (taken : List String) : (∀ argument ∈ a.arguments, argument.1 ∈ taken) ↔
      ∀ name ∈ a.arguments.map Prod.fst, name ∈ taken :=
    List.forall_mem_map.symm
  ext record
  rw [toOption_eq_some_iff, toOption_eq_some_iff, read_eq_ok_iff, read_eq_ok_iff, hnamed]
  simp only [← toOption_eq_some_iff, hagrees, hall, (names_of_reordered hab).mem_iff]

end Mark

/-! ## record by record -/

section Records

open Mark AttributeReader

variable {a b : Mark}

theorem IndexMark.agrees (h : a.Alike b) :
    (MarkRecord.parse a : AttributeReader IndexMark).Agrees (MarkRecord.parse b) := by
  refine (agrees_text h "name").bind fun name => ?_
  refine (agrees_bool h "unique").bind fun unique => ?_
  refine (agrees_texts h "columns").bind fun columns => ?_
  split
  · exact .refl _
  refine (agrees_constants h "orders").bind fun orders => ?_
  exact .refl _

theorem ForeignKeyMark.agrees (h : a.Alike b) :
    (MarkRecord.parse a : AttributeReader ForeignKeyMark).Agrees (MarkRecord.parse b) := by
  refine (agrees_type h "entity").bind fun written => ?_
  refine (agrees_require "entity" written).bind fun entity => ?_
  refine (agrees_texts h "parentColumns").bind fun parentColumns => ?_
  refine (agrees_texts h "childColumns").bind fun childColumns => ?_
  split
  · exact .refl _
  refine (agrees_constant h "onDelete").bind fun onDelete => ?_
  refine (agrees_constant h "onUpdate").bind fun onUpdate => ?_
  refine (agrees_bool h "deferred").bind fun deferred => ?_
  exact .refl _

theorem EntityMark.agrees (h : a.Alike b) :
    (MarkRecord.parse a : AttributeReader EntityMark).Agrees (MarkRecord.parse b) := by
  refine (agrees_text h "tableName").bind fun tableName => ?_
  refine (agrees_nestedList (steady_of_agrees fun _ _ => IndexMark.agrees) h "indices").bind
    fun indices => ?_
  refine (agrees_texts h "ignoredColumns").bind fun ignoredColumns => ?_
  refine (agrees_texts h "primaryKeys").bind fun primaryKeys => ?_
  refine (agrees_nestedList (steady_of_agrees fun _ _ => ForeignKeyMark.agrees) h "foreignKeys").bind
    fun foreignKeys => ?_
  exact .refl _

theorem ColumnInfoMark.agrees (h : a.Alike b) :
    (MarkRecord.parse a : AttributeReader ColumnInfoMark).Agrees (MarkRecord.parse b) := by
  refine (agrees_text h "name").bind fun name => ?_
  refine (agrees_constant h "typeAffinity").bind fun typeAffinity => ?_
  refine (agrees_bool h "index").bind fun index => ?_
  refine (agrees_constant h "collate").bind fun collate => ?_
  refine (agrees_literal h "defaultValue").bind fun defaultValue => ?_
  exact .refl _

theorem PrimaryKeyMark.agrees (h : a.Alike b) :
    (MarkRecord.parse a : AttributeReader PrimaryKeyMark).Agrees (MarkRecord.parse b) := by
  refine (agrees_bool h "autoGenerate").bind fun autoGenerate => ?_
  refine (agrees_constant h "onConflict").bind fun onConflict => ?_
  exact .refl _

theorem EmbeddedMark.agrees (h : a.Alike b) :
    (MarkRecord.parse a : AttributeReader EmbeddedMark).Agrees (MarkRecord.parse b) :=
  (agrees_text h "prefix").bind fun _ => .refl _

theorem JunctionMark.agrees (h : a.Alike b) :
    (MarkRecord.parse a : AttributeReader JunctionMark).Agrees (MarkRecord.parse b) := by
  refine (agrees_type h "value").bind fun written => ?_
  refine (agrees_require "value" written).bind fun value => ?_
  refine (agrees_text h "parentColumn").bind fun parentColumn => ?_
  refine (agrees_text h "entityColumn").bind fun entityColumn => ?_
  exact .refl _

theorem RelationMark.agrees (h : a.Alike b) :
    (MarkRecord.parse a : AttributeReader RelationMark).Agrees (MarkRecord.parse b) := by
  refine (agrees_type h "entity").bind fun entity => ?_
  refine (agrees_text h "parentColumn").bind fun writtenParent => ?_
  refine (agrees_text h "entityColumn").bind fun writtenColumn => ?_
  refine (agrees_require "parentColumn" writtenParent).bind fun parentColumn => ?_
  refine (agrees_require "entityColumn" writtenColumn).bind fun entityColumn => ?_
  refine (agrees_texts h "projection").bind fun projection => ?_
  refine (agrees_nested (steady_of_agrees fun _ _ => JunctionMark.agrees) h "associateBy").bind
    fun associateBy => ?_
  exact .refl _

theorem DatabaseMark.agrees (h : a.Alike b) :
    (MarkRecord.parse a : AttributeReader DatabaseMark).Agrees (MarkRecord.parse b) := by
  refine (agrees_types h "entities").bind fun entities => ?_
  split
  · exact .refl _
  refine (agrees_integer h "version").bind fun written => ?_
  refine (agrees_require "version" written).bind fun version => ?_
  exact .refl _

theorem TypeConvertersMark.agrees (h : a.Alike b) :
    (MarkRecord.parse a : AttributeReader TypeConvertersMark).Agrees (MarkRecord.parse b) :=
  (agrees_types h "value").bind fun _ => .refl _

theorem QueryMark.agrees (h : a.Alike b) :
    (MarkRecord.parse a : AttributeReader QueryMark).Agrees (MarkRecord.parse b) := by
  refine (agrees_text h "value").bind fun value => ?_
  cases value with
  | some text =>
      exact (Agrees.refl (pure (some text))).bind fun value =>
        (agrees_require "value" value).bind fun _ => .refl _
  | none =>
      refine (agrees_text h "sql").bind fun sql => ?_
      exact (agrees_require "value" sql).bind fun _ => .refl _

theorem InsertMark.agrees (h : a.Alike b) :
    (MarkRecord.parse a : AttributeReader InsertMark).Agrees (MarkRecord.parse b) := by
  refine (agrees_type h "entity").bind fun entity => ?_
  refine (agrees_constant h "onConflict").bind fun onConflict => ?_
  exact .refl _

theorem UpdateMark.agrees (h : a.Alike b) :
    (MarkRecord.parse a : AttributeReader UpdateMark).Agrees (MarkRecord.parse b) := by
  refine (agrees_type h "entity").bind fun entity => ?_
  refine (agrees_constant h "onConflict").bind fun onConflict => ?_
  exact .refl _

theorem DeleteMark.agrees (h : a.Alike b) :
    (MarkRecord.parse a : AttributeReader DeleteMark).Agrees (MarkRecord.parse b) :=
  (agrees_type h "entity").bind fun _ => .refl _

end Records

/-- The annotations of **every kind** are read in any order of their arguments. -/
theorem MarkKind.steady (kind : MarkKind) : Mark.Steady kind.Record := by
  cases kind with
  | entity => exact Mark.steady_of_agrees fun _ _ => EntityMark.agrees
  | index => exact Mark.steady_of_agrees fun _ _ => IndexMark.agrees
  | foreignKey => exact Mark.steady_of_agrees fun _ _ => ForeignKeyMark.agrees
  | columnInfo => exact Mark.steady_of_agrees fun _ _ => ColumnInfoMark.agrees
  | primaryKey => exact Mark.steady_of_agrees fun _ _ => PrimaryKeyMark.agrees
  | embedded => exact Mark.steady_of_agrees fun _ _ => EmbeddedMark.agrees
  | relation => exact Mark.steady_of_agrees fun _ _ => RelationMark.agrees
  | junction => exact Mark.steady_of_agrees fun _ _ => JunctionMark.agrees
  | database => exact Mark.steady_of_agrees fun _ _ => DatabaseMark.agrees
  | typeConverters => exact Mark.steady_of_agrees fun _ _ => TypeConvertersMark.agrees
  | query => exact Mark.steady_of_agrees fun _ _ => QueryMark.agrees
  | insert => exact Mark.steady_of_agrees fun _ _ => InsertMark.agrees
  | update => exact Mark.steady_of_agrees fun _ _ => UpdateMark.agrees
  | delete => exact Mark.steady_of_agrees fun _ _ => DeleteMark.agrees
  | ignore => exact Mark.steady_of_agrees fun _ _ _ => .refl _
  | dao => exact Mark.steady_of_agrees fun _ _ _ => .refl _

namespace Mark

/-- **Nothing written is dropped.** Of an annotation that is read, whatever its record, every argument
is of an attribute of the record, which holds what the argument says; the same is true of every
annotation inside, at any depth. The order of the arguments, here and inside, changes neither whether
it is read nor the record. -/
theorem read_whole (kind : MarkKind) {a : Mark} (ha : a.Proper) :
    (∀ record, read kind.Record a = .ok record → a.Keeps kind record ∧
      ∀ b, a.Holds b → ∃ (inner : MarkKind) (kept : inner.Record),
        read inner.Record b = .ok kept ∧ b.Keeps inner kept) ∧
      ∀ b, a.Reordered b → (read kind.Record b).toOption = (read kind.Record a).toOption :=
  ⟨fun _ h => ⟨keeps_of_read ha h, fun _ hb => keeps_of_holds ha h hb⟩,
    fun b hb => (kind.steady a b ha hb).symm⟩

/-- A table of shelves, unique in a room. -/
def shelfSample : Mark where
  name := "kabin::Entity"
  arguments :=
    [("tableName", .text "shelves"),
     ("indices", .nested "Index" [("columns", .text "room"), ("unique", .bool true)])]

/-- The same table, with every argument in another place. -/
def shelfTurned : Mark where
  name := "kabin::Entity"
  arguments :=
    [("indices", .nested "Index" [("unique", .bool true), ("columns", .text "room")]),
     ("tableName", .text "shelves")]

/-- The table is read with its index in both orders, and keeps all of it. -/
theorem read_whole_shelf :
    shelfSample.Proper ∧ shelfSample.Reordered shelfTurned ∧
      ∃ record : EntityMark, read EntityMark shelfSample = .ok record ∧
        record.indices = [{ unique := true, columns := ["room"] }] ∧
        shelfSample.Keeps .entity record ∧
        (read EntityMark shelfTurned).toOption = some record := by
  have hproper : shelfSample.Proper := by
    simp [shelfSample, Mark.Proper, MarkValue.Proper, MarkValue.ProperArguments]
  have hindex : MarkValue.Reordered
      (.nested "Index" [("columns", .text "room"), ("unique", .bool true)])
      (.nested "Index" [("unique", .bool true), ("columns", .text "room")]) :=
    .nested rfl (List.forall₂_same.mpr fun v _ => .same v) (.swap _ _ _)
  have hturned : shelfSample.Reordered shelfTurned :=
    @MarkValue.Reordered.nested _ _ shelfTurned.arguments.reverse _ rfl
      (.cons (.same _) (.cons hindex .nil)) (.swap _ _ _)
  have hread : read EntityMark shelfSample =
      .ok { tableName := "shelves", indices := [{ unique := true, columns := ["room"] }] } := by
    rfl
  obtain ⟨hkept, hsame⟩ := read_whole .entity hproper
  refine ⟨hproper, hturned, _, hread, rfl, (hkept _ hread).1, ?_⟩
  have hreread := hsame shelfTurned hturned
  exact hreread.trans (congrArg Except.toOption hread)

end Mark

end DaoForge
