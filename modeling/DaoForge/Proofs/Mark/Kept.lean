import DaoForge.Proofs.Declaration.Proper
import DaoForge.Proofs.Mark
import DaoForge.Proofs.Mark.Kind
import Mathlib.Data.List.Nodup

/-!
# DaoForge.Proofs.Mark.Kept

Nothing that is written in an annotation is dropped: of an annotation that is read, the record holds
what every argument says.

1. `MarkValue.Means`, `MarkValue.Kept`: what a value says, alone or as a list of one. A nested
   annotation says the record that is read of it;
2. `Mark.Accounts`: reading a record looks at attributes of the record only, and the record holds what
   each of those says. There is one lemma for each way to read an attribute (`tells_text` and others)
   and one for each record (`EntityMark.accounts` and others);
3. `Mark.keeps_of_read`: so every argument of an annotation that is read is kept;
4. `Mark.keeps_of_holds`: the annotations inside, at any depth, are read, too.
-/

namespace DaoForge

/-! ## what values say -/

namespace MarkValue

/-- What a value says, where a record holds one thing. -/
inductive Means : MarkValue → Content → Prop where
  | text (value : String) : Means (.text value) (.text value)
  | bool (value : Bool) : Means (.bool value) (.bool value)
  | integer (value : Int64) : Means (.integer value) (.integer value)
  /-- Numbers and booleans are SQL literals, too. -/
  | integerText (value : Int64) : Means (.integer value) (.text (toString value.toInt))
  | floatText (value : Double) : Means (.float value) (.text value.text)
  | boolText (value : Bool) : Means (.bool value) (.text (if value then "1" else "0"))
  | type (value : TypeExpr) : Means (.type value) (.type value.normalized)
  /-- A text may be the path of a type. -/
  | path {value : String} (h : isBlankText value = false) :
      Means (.text value) (.type (.ofName (trimBlank value)))
  | constant (name : String) : Means (.constant name) (.constant (Constant.lastName name))
  /-- A text may name a constant. -/
  | word (name : String) : Means (.text name) (.constant (Constant.lastName name))
  | record {name : String} {arguments : List (String × MarkValue)} {kind : MarkKind}
      {record : kind.Record} (h : Mark.read kind.Record ⟨name, arguments⟩ = .ok record) :
      Means (.nested name arguments) (.record kind record)

/-- What the value of an attribute says: one thing, a list, or a list of one. -/
inductive Kept : MarkValue → Content → Prop where
  | one {value : MarkValue} {content : Content} (h : value.Means content) : Kept value content
  | list {values : List MarkValue} {contents : List Content} (h : List.Forall₂ Means values contents) :
      Kept (.array values) (.list contents)
  | single {value : MarkValue} {content : Content} (h : value.Means content) :
      Kept value (.list [content])

variable {value : MarkValue}

theorem means_of_asText? {text : String} (h : value.asText? = some text) : value.Means (.text text) := by
  cases value <;> cases h
  exact .text _

theorem means_of_asLiteral? {text : String} (h : value.asLiteral? = some text) :
    value.Means (.text text) := by
  cases value <;> cases h
  · exact .boolText _
  · exact .integerText _
  · exact .floatText _
  · exact .text _

theorem means_of_asBool? {flag : Bool} (h : value.asBool? = some flag) : value.Means (.bool flag) := by
  cases value <;> cases h
  exact .bool _

theorem means_of_asInteger? {number : Int64} (h : value.asInteger? = some number) :
    value.Means (.integer number) := by
  cases value <;> cases h
  exact .integer _

theorem means_of_asType? {t : TypeExpr} (h : value.asType? = some t) :
    value.Means (.type t) := by
  unfold asType? at h
  split at h
  · cases h
    exact .type _
  · split at h
    · contradiction
    · next hblank =>
      cases h
      exact .path (Bool.eq_false_iff.mpr hblank)
  · contradiction

end MarkValue

namespace Mark

/-- What is held for an attribute is what the annotation says, if it says anything. -/
def Tells (a : Mark) (key : String) (content : Option Content) : Prop :=
  ∀ value ∈ a.argument? key, ∃ kept ∈ content, value.Kept kept

/-- A value that is there is not replaced by the default. -/
theorem Tells.getD {a : Mark} {key : String} {α : Type} {result : Option α} {content : α → Content}
    (h : a.Tells key (result.map content)) (default : α) :
    a.Tells key (some (content (result.getD default))) := by
  intro value hvalue
  obtain ⟨kept, hkept, hmeans⟩ := h value hvalue
  obtain ⟨found, rfl, rfl⟩ := Option.map_eq_some_iff.mp hkept
  exact ⟨_, rfl, hmeans⟩

section Readers

variable {a : Mark} {key : String} {taken taken' : List String} {α : Type}

theorem readValue_eq_ok_iff {expected : String} {read : MarkValue → Option α} {value : MarkValue}
    {result : α} : a.readValue key expected read value = .ok result ↔ read value = some result := by
  unfold readValue
  split <;> simp_all

/-- Of an attribute that may be left out everything is kept if everything is of its value. -/
theorem tells_readArgument {read : MarkValue → Except ValidationError α} {content : α → Content}
    (hread : ∀ value result, read value = .ok result → value.Means (content result))
    {result : Option α} (h : a.readArgument key read taken = .ok (result, taken')) :
    taken' = taken ++ [key] ∧ a.Tells key (result.map content) := by
  obtain ⟨h, htaken⟩ := look_eq_ok_iff.mp h
  refine ⟨htaken, fun value hvalue => ?_⟩
  rw [Option.mem_def.mp hvalue] at h
  cases hfound : read value with
  | ok found =>
      simp only [hfound, Except.map, Except.ok.injEq] at h
      subst h
      exact ⟨_, rfl, .one (hread value found hfound)⟩
  | error e => simp [hfound, Except.map] at h

/-- Of a list everything is kept if everything is of each item. -/
theorem tells_readItems {read : MarkValue → Except ValidationError α} {content : α → Content}
    (hread : ∀ value result, read value = .ok result → value.Means (content result))
    {results : List α} (h : a.readItems key read taken = .ok (results, taken')) :
    taken' = taken ++ [key] ∧ a.Tells key (some (.list (results.map content))) := by
  obtain ⟨h, htaken⟩ := look_eq_ok_iff.mp h
  refine ⟨htaken, fun value hvalue => ⟨_, rfl, ?_⟩⟩
  rw [Option.mem_def.mp hvalue] at h
  split at h
  · contradiction
  · next items heq =>
    cases heq
    refine .list (List.forall₂_map_right_iff.mpr ?_)
    exact (forall₂_of_mapM h).imp fun item result => hread item result
  · next only _ heq =>
    cases heq
    obtain ⟨result, hresult, h⟩ := bind_eq_ok h
    cases h
    exact .single (hread value result hresult)

theorem require_eq_ok_iff {value : Option α} {result : α} :
    a.require key value taken = .ok (result, taken') ↔ value = some result ∧ taken' = taken := by
  cases value with
  | none => exact ⟨nofun, nofun⟩
  | some found =>
      have hrequire : a.require key (some found) taken = .ok (found, taken) := rfl
      simp [hrequire, eq_comm]

theorem tells_text {text : Option String} (h : a.textArgument key taken = .ok (text, taken')) :
    taken' = taken ++ [key] ∧ a.Tells key (text.map .text) :=
  tells_readArgument (fun _ _ h => MarkValue.means_of_asText? (readValue_eq_ok_iff.mp h)) h

theorem tells_literal {text : Option String} (h : a.literalArgument key taken = .ok (text, taken')) :
    taken' = taken ++ [key] ∧ a.Tells key (text.map .text) :=
  tells_readArgument (fun _ _ h => MarkValue.means_of_asLiteral? (readValue_eq_ok_iff.mp h)) h

theorem tells_bool {flag : Option Bool} (h : a.boolArgument key taken = .ok (flag, taken')) :
    taken' = taken ++ [key] ∧ a.Tells key (flag.map .bool) :=
  tells_readArgument (fun _ _ h => MarkValue.means_of_asBool? (readValue_eq_ok_iff.mp h)) h

theorem tells_integer {number : Option Int64}
    (h : a.integerArgument key taken = .ok (number, taken')) :
    taken' = taken ++ [key] ∧ a.Tells key (number.map .integer) :=
  tells_readArgument (fun _ _ h => MarkValue.means_of_asInteger? (readValue_eq_ok_iff.mp h)) h

theorem tells_type {t : Option TypeExpr} (h : a.typeArgument key taken = .ok (t, taken')) :
    taken' = taken ++ [key] ∧ a.Tells key (t.map .type) :=
  tells_readArgument (fun _ _ h => MarkValue.means_of_asType? (readValue_eq_ok_iff.mp h)) h

theorem tells_types {ts : List TypeExpr} (h : a.typesArgument key taken = .ok (ts, taken')) :
    taken' = taken ++ [key] ∧ a.Tells key (some (.list (ts.map .type))) :=
  tells_readItems (fun _ _ h => MarkValue.means_of_asType? (readValue_eq_ok_iff.mp h)) h

theorem tells_texts {texts : List String} (h : a.textsArgument key taken = .ok (texts, taken')) :
    taken' = taken ++ [key] ∧ a.Tells key (some (.list (texts.map .text))) :=
  tells_readItems (fun _ _ h => MarkValue.means_of_asText? (readValue_eq_ok_iff.mp h)) h

/-- A constant is found by the last name of what is written. -/
theorem name_of_ofText? [Constant α] {text : String} {c : α} (h : Constant.ofText? α text = some c) :
    Constant.name c = Constant.lastName text := by
  have hname := List.find?_some h
  exact beq_iff_eq.mp hname

theorem means_of_constantValue [Constant α] {value : MarkValue} {c : α}
    (h : constantValue α a key value = .ok c) : value.Means (.ofConstant c) := by
  unfold constantValue at h
  split at h
  · next name =>
    split at h
    · next found hfound =>
      cases h
      rw [Content.ofConstant, name_of_ofText? hfound]
      exact .constant name
    · contradiction
  · next name =>
    split at h
    · next found hfound =>
      cases h
      rw [Content.ofConstant, name_of_ofText? hfound]
      exact .word name
    · contradiction
  · contradiction

theorem tells_constant [Constant α] {c : α} (h : constantArgument α a key taken = .ok (c, taken')) :
    taken' = taken ++ [key] ∧ a.Tells key (some (.ofConstant c)) := by
  obtain ⟨found, _, hfound, h⟩ := AttributeReader.bind_eq_ok h
  cases h
  obtain ⟨htaken, htells⟩ := tells_readArgument (fun _ _ => means_of_constantValue) hfound
  exact ⟨htaken, htells.getD _⟩

theorem tells_constants [Constant α] {cs : List α}
    (h : constantsArgument α a key taken = .ok (cs, taken')) :
    taken' = taken ++ [key] ∧ a.Tells key (some (.list (cs.map .ofConstant))) :=
  tells_readItems (fun _ _ => means_of_constantValue) h

variable {kind : MarkKind}

theorem means_of_nestedValue {value : MarkValue} {record : kind.Record}
    (h : nestedValue kind.Record a key value = .ok record) : value.Means (.record kind record) := by
  unfold nestedValue at h
  split at h
  · exact .record h
  · contradiction

theorem tells_nested {record : Option kind.Record}
    (h : nestedArgument kind.Record a key taken = .ok (record, taken')) :
    taken' = taken ++ [key] ∧ a.Tells key (record.map (.record kind)) :=
  tells_readArgument (fun _ _ => means_of_nestedValue) h

theorem tells_nestedList {records : List kind.Record}
    (h : nestedListArgument kind.Record a key taken = .ok (records, taken')) :
    taken' = taken ++ [key] ∧ a.Tells key (some (.list (records.map (.record kind)))) :=
  tells_readItems (fun _ _ => means_of_nestedValue) h

end Readers

/-- Reading looked at attributes of the record only, and the record holds what each of them says. -/
structure Accounts (a : Mark) (contents : List (String × Option Content)) (taken : List String) :
    Prop where
  looked : ∀ key ∈ taken, key ∈ contents.map Prod.fst
  tells : ∀ entry ∈ contents, entry.1 ∈ taken → a.Tells entry.1 entry.2

/-- Reading looked at every attribute of the record. -/
theorem Accounts.all {a : Mark} {contents : List (String × Option Content)} {taken : List String}
    (htaken : taken = contents.map Prod.fst) (h : ∀ entry ∈ contents, a.Tells entry.1 entry.2) :
    a.Accounts contents taken where
  looked _ hkey := htaken ▸ hkey
  tells entry hentry _ := h entry hentry

end Mark

/-! ## record by record -/

section Records

open Mark

variable {a : Mark} {taken : List String}

theorem IndexMark.accounts {r : IndexMark} (h : MarkRecord.parse a [] = .ok (r, taken)) :
    a.Accounts r.contents taken := by
  obtain ⟨name, _, hname, h⟩ := AttributeReader.bind_eq_ok h
  obtain ⟨unique, _, hunique, h⟩ := AttributeReader.bind_eq_ok h
  obtain ⟨columns, _, hcolumns, h⟩ := AttributeReader.bind_eq_ok h
  split at h
  · contradiction
  obtain ⟨orders, _, horders, h⟩ := AttributeReader.bind_eq_ok h
  split at h
  · contradiction
  cases h
  obtain ⟨rfl, hname'⟩ := tells_text hname
  obtain ⟨rfl, hunique'⟩ := tells_bool hunique
  obtain ⟨rfl, hcolumns'⟩ := tells_texts hcolumns
  obtain ⟨rfl, horders'⟩ := tells_constants horders
  refine .all rfl ?_
  simp only [contents, List.forall_mem_cons]
  exact ⟨hname'.getD _, hunique'.getD _, hcolumns', horders', by simp⟩

theorem ForeignKeyMark.accounts {r : ForeignKeyMark} (h : MarkRecord.parse a [] = .ok (r, taken)) :
    a.Accounts r.contents taken := by
  obtain ⟨written, _, hentity, h⟩ := AttributeReader.bind_eq_ok h
  obtain ⟨entity, _, hrequired, h⟩ := AttributeReader.bind_eq_ok h
  obtain ⟨parentColumns, _, hparent, h⟩ := AttributeReader.bind_eq_ok h
  obtain ⟨childColumns, _, hchild, h⟩ := AttributeReader.bind_eq_ok h
  split at h
  · contradiction
  obtain ⟨onDelete, _, hdelete, h⟩ := AttributeReader.bind_eq_ok h
  obtain ⟨onUpdate, _, hupdate, h⟩ := AttributeReader.bind_eq_ok h
  obtain ⟨deferred, _, hdeferred, h⟩ := AttributeReader.bind_eq_ok h
  cases h
  obtain ⟨rfl, hentity'⟩ := tells_type hentity
  obtain ⟨rfl, rfl⟩ := require_eq_ok_iff.mp hrequired
  obtain ⟨rfl, hparent'⟩ := tells_texts hparent
  obtain ⟨rfl, hchild'⟩ := tells_texts hchild
  obtain ⟨rfl, hdelete'⟩ := tells_constant hdelete
  obtain ⟨rfl, hupdate'⟩ := tells_constant hupdate
  obtain ⟨rfl, hdeferred'⟩ := tells_bool hdeferred
  refine .all rfl ?_
  simp only [contents, List.forall_mem_cons]
  exact ⟨hentity', hparent', hchild', hdelete', hupdate', hdeferred'.getD _, by simp⟩

theorem EntityMark.accounts {r : EntityMark} (h : MarkRecord.parse a [] = .ok (r, taken)) :
    a.Accounts r.contents taken := by
  obtain ⟨tableName, _, htable, h⟩ := AttributeReader.bind_eq_ok h
  obtain ⟨indices, _, hindices, h⟩ := AttributeReader.bind_eq_ok h
  obtain ⟨ignoredColumns, _, hignored, h⟩ := AttributeReader.bind_eq_ok h
  obtain ⟨primaryKeys, _, hkeys, h⟩ := AttributeReader.bind_eq_ok h
  obtain ⟨foreignKeys, _, hforeign, h⟩ := AttributeReader.bind_eq_ok h
  cases h
  obtain ⟨rfl, htable'⟩ := tells_text htable
  obtain ⟨rfl, hindices'⟩ := @tells_nestedList _ _ _ _ .index _ hindices
  obtain ⟨rfl, hignored'⟩ := tells_texts hignored
  obtain ⟨rfl, hkeys'⟩ := tells_texts hkeys
  obtain ⟨rfl, hforeign'⟩ := @tells_nestedList _ _ _ _ .foreignKey _ hforeign
  refine .all rfl ?_
  simp only [contents, List.forall_mem_cons]
  exact ⟨htable'.getD _, hindices', hignored', hkeys', hforeign', by simp⟩

theorem ColumnInfoMark.accounts {r : ColumnInfoMark} (h : MarkRecord.parse a [] = .ok (r, taken)) :
    a.Accounts r.contents taken := by
  obtain ⟨name, _, hname, h⟩ := AttributeReader.bind_eq_ok h
  obtain ⟨typeAffinity, _, haffinity, h⟩ := AttributeReader.bind_eq_ok h
  obtain ⟨index, _, hindex, h⟩ := AttributeReader.bind_eq_ok h
  obtain ⟨collate, _, hcollate, h⟩ := AttributeReader.bind_eq_ok h
  obtain ⟨defaultValue, _, hdefault, h⟩ := AttributeReader.bind_eq_ok h
  cases h
  obtain ⟨rfl, hname'⟩ := tells_text hname
  obtain ⟨rfl, haffinity'⟩ := tells_constant haffinity
  obtain ⟨rfl, hindex'⟩ := tells_bool hindex
  obtain ⟨rfl, hcollate'⟩ := tells_constant hcollate
  obtain ⟨rfl, hdefault'⟩ := tells_literal hdefault
  refine .all rfl ?_
  simp only [contents, List.forall_mem_cons]
  exact ⟨hname'.getD _, haffinity', hindex'.getD _, hcollate', hdefault', by simp⟩

theorem PrimaryKeyMark.accounts {r : PrimaryKeyMark} (h : MarkRecord.parse a [] = .ok (r, taken)) :
    a.Accounts r.contents taken := by
  obtain ⟨autoGenerate, _, hauto, h⟩ := AttributeReader.bind_eq_ok h
  obtain ⟨onConflict, _, hconflict, h⟩ := AttributeReader.bind_eq_ok h
  cases h
  obtain ⟨rfl, hauto'⟩ := tells_bool hauto
  obtain ⟨rfl, hconflict'⟩ := tells_constant hconflict
  refine .all rfl ?_
  simp only [contents, List.forall_mem_cons]
  exact ⟨hauto'.getD _, hconflict', by simp⟩

theorem EmbeddedMark.accounts {r : EmbeddedMark} (h : MarkRecord.parse a [] = .ok (r, taken)) :
    a.Accounts r.contents taken := by
  obtain ⟨columnPrefix, _, hprefix, h⟩ := AttributeReader.bind_eq_ok h
  cases h
  obtain ⟨rfl, hprefix'⟩ := tells_text hprefix
  refine .all rfl ?_
  simp only [contents, List.forall_mem_cons]
  exact ⟨hprefix'.getD _, by simp⟩

theorem JunctionMark.accounts {r : JunctionMark} (h : MarkRecord.parse a [] = .ok (r, taken)) :
    a.Accounts r.contents taken := by
  obtain ⟨written, _, hvalue, h⟩ := AttributeReader.bind_eq_ok h
  obtain ⟨value, _, hrequired, h⟩ := AttributeReader.bind_eq_ok h
  obtain ⟨parentColumn, _, hparent, h⟩ := AttributeReader.bind_eq_ok h
  obtain ⟨entityColumn, _, hentity, h⟩ := AttributeReader.bind_eq_ok h
  cases h
  obtain ⟨rfl, hvalue'⟩ := tells_type hvalue
  obtain ⟨rfl, rfl⟩ := require_eq_ok_iff.mp hrequired
  obtain ⟨rfl, hparent'⟩ := tells_text hparent
  obtain ⟨rfl, hentity'⟩ := tells_text hentity
  refine .all rfl ?_
  simp only [contents, List.forall_mem_cons]
  exact ⟨hvalue', hparent'.getD _, hentity'.getD _, by simp⟩

theorem RelationMark.accounts {r : RelationMark} (h : MarkRecord.parse a [] = .ok (r, taken)) :
    a.Accounts r.contents taken := by
  obtain ⟨entity, _, hentity, h⟩ := AttributeReader.bind_eq_ok h
  obtain ⟨writtenParent, _, hparent, h⟩ := AttributeReader.bind_eq_ok h
  obtain ⟨writtenColumn, _, hcolumn, h⟩ := AttributeReader.bind_eq_ok h
  obtain ⟨parentColumn, _, hrequiredParent, h⟩ := AttributeReader.bind_eq_ok h
  obtain ⟨entityColumn, _, hrequiredColumn, h⟩ := AttributeReader.bind_eq_ok h
  obtain ⟨projection, _, hprojection, h⟩ := AttributeReader.bind_eq_ok h
  obtain ⟨associateBy, _, hassociate, h⟩ := AttributeReader.bind_eq_ok h
  cases h
  obtain ⟨rfl, hentity'⟩ := tells_type hentity
  obtain ⟨rfl, hparent'⟩ := tells_text hparent
  obtain ⟨rfl, hcolumn'⟩ := tells_text hcolumn
  obtain ⟨rfl, rfl⟩ := require_eq_ok_iff.mp hrequiredParent
  obtain ⟨rfl, rfl⟩ := require_eq_ok_iff.mp hrequiredColumn
  obtain ⟨rfl, hprojection'⟩ := tells_texts hprojection
  obtain ⟨rfl, hassociate'⟩ := @tells_nested _ _ _ _ .junction _ hassociate
  refine .all rfl ?_
  simp only [contents, List.forall_mem_cons]
  exact ⟨hentity', hparent', hcolumn', hprojection', hassociate', by simp⟩

theorem DatabaseMark.accounts {r : DatabaseMark} (h : MarkRecord.parse a [] = .ok (r, taken)) :
    a.Accounts r.contents taken := by
  obtain ⟨entities, _, hentities, h⟩ := AttributeReader.bind_eq_ok h
  split at h
  · contradiction
  obtain ⟨written, _, hversion, h⟩ := AttributeReader.bind_eq_ok h
  obtain ⟨version, _, hrequired, h⟩ := AttributeReader.bind_eq_ok h
  split at h
  · contradiction
  cases h
  obtain ⟨rfl, hentities'⟩ := tells_types hentities
  obtain ⟨rfl, hversion'⟩ := tells_integer hversion
  obtain ⟨rfl, rfl⟩ := require_eq_ok_iff.mp hrequired
  refine .all rfl ?_
  simp only [contents, List.forall_mem_cons]
  exact ⟨hentities', hversion', by simp⟩

theorem TypeConvertersMark.accounts {r : TypeConvertersMark}
    (h : MarkRecord.parse a [] = .ok (r, taken)) : a.Accounts r.contents taken := by
  obtain ⟨value, _, hvalue, h⟩ := AttributeReader.bind_eq_ok h
  cases h
  obtain ⟨rfl, hvalue'⟩ := tells_types hvalue
  refine .all rfl ?_
  simp only [contents, List.forall_mem_cons]
  exact ⟨hvalue', by simp⟩

/-- Reading looks for `sql` only where there is no `value`. -/
theorem QueryMark.accounts {r : QueryMark} (h : MarkRecord.parse a [] = .ok (r, taken)) :
    a.Accounts r.contents taken ∧ (a.argument? "value" = none ∨ taken = ["value"]) := by
  obtain ⟨value, _, hvalue, h⟩ := AttributeReader.bind_eq_ok h
  obtain ⟨rfl, hvalue'⟩ := tells_text hvalue
  split at h
  · -- `sql` was not looked at, so nothing is promised of it
    obtain ⟨_, _, hfound, h⟩ := AttributeReader.bind_eq_ok h
    cases hfound
    obtain ⟨text, _, hrequired, h⟩ := AttributeReader.bind_eq_ok h
    cases h
    obtain ⟨heq, rfl⟩ := require_eq_ok_iff.mp hrequired
    cases heq
    refine ⟨⟨by simp [contents], fun entry hentry htaken => ?_⟩, .inr rfl⟩
    simp only [contents, List.mem_cons, List.not_mem_nil, or_false] at hentry
    obtain rfl | rfl := hentry
    · exact hvalue'
    · simp at htaken
  · -- what is found under `sql` is held under both names; there is nothing under `value`
    have hnone : a.argument? "value" = none := by
      rw [Option.eq_none_iff_forall_not_mem]
      intro value hmem
      obtain ⟨_, hkept, -⟩ := hvalue' value hmem
      contradiction
    obtain ⟨sql, _, hsql, h⟩ := AttributeReader.bind_eq_ok h
    obtain ⟨rfl, hsql'⟩ := tells_text hsql
    obtain ⟨text, _, hrequired, h⟩ := AttributeReader.bind_eq_ok h
    cases h
    obtain ⟨rfl, rfl⟩ := require_eq_ok_iff.mp hrequired
    have hvalue : a.Tells "value" (some (.text text)) := fun value hmem => by
      rw [hnone] at hmem
      contradiction
    refine ⟨.all rfl ?_, .inl hnone⟩
    simp only [contents, List.forall_mem_cons]
    exact ⟨hvalue, hsql', by simp⟩

theorem InsertMark.accounts {r : InsertMark} (h : MarkRecord.parse a [] = .ok (r, taken)) :
    a.Accounts r.contents taken := by
  obtain ⟨entity, _, hentity, h⟩ := AttributeReader.bind_eq_ok h
  obtain ⟨onConflict, _, hconflict, h⟩ := AttributeReader.bind_eq_ok h
  cases h
  obtain ⟨rfl, hentity'⟩ := tells_type hentity
  obtain ⟨rfl, hconflict'⟩ := tells_constant hconflict
  refine .all rfl ?_
  simp only [contents, List.forall_mem_cons]
  exact ⟨hentity', hconflict', by simp⟩

theorem UpdateMark.accounts {r : UpdateMark} (h : MarkRecord.parse a [] = .ok (r, taken)) :
    a.Accounts r.contents taken := by
  obtain ⟨entity, _, hentity, h⟩ := AttributeReader.bind_eq_ok h
  obtain ⟨onConflict, _, hconflict, h⟩ := AttributeReader.bind_eq_ok h
  cases h
  obtain ⟨rfl, hentity'⟩ := tells_type hentity
  obtain ⟨rfl, hconflict'⟩ := tells_constant hconflict
  refine .all rfl ?_
  simp only [contents, List.forall_mem_cons]
  exact ⟨hentity', hconflict', by simp⟩

theorem DeleteMark.accounts {r : DeleteMark} (h : MarkRecord.parse a [] = .ok (r, taken)) :
    a.Accounts r.contents taken := by
  obtain ⟨entity, _, hentity, h⟩ := AttributeReader.bind_eq_ok h
  cases h
  obtain ⟨rfl, hentity'⟩ := tells_type hentity
  refine .all rfl ?_
  simp only [contents, List.forall_mem_cons]
  exact ⟨hentity', by simp⟩

end Records

/-! ## whole annotations -/

/-- Reading looks at attributes of the kind only, and the record holds what each of them says. -/
theorem MarkKind.accounts {kind : MarkKind} {a : Mark} {record : kind.Record} {taken : List String}
    (h : MarkRecord.parse a [] = .ok (record, taken)) : a.Accounts (kind.contents record) taken := by
  have hnothing {a : Mark} : a.Accounts [] [] := .all rfl (by simp)
  cases kind with
  | entity => exact EntityMark.accounts h
  | index => exact IndexMark.accounts h
  | foreignKey => exact ForeignKeyMark.accounts h
  | columnInfo => exact ColumnInfoMark.accounts h
  | primaryKey => exact PrimaryKeyMark.accounts h
  | embedded => exact EmbeddedMark.accounts h
  | relation => exact RelationMark.accounts h
  | junction => exact JunctionMark.accounts h
  | database => exact DatabaseMark.accounts h
  | typeConverters => exact TypeConvertersMark.accounts h
  | query => exact (QueryMark.accounts h).1
  | insert => exact InsertMark.accounts h
  | update => exact UpdateMark.accounts h
  | delete => exact DeleteMark.accounts h
  | ignore | dao =>
      cases h
      exact hnothing

namespace Mark

/-- A record keeps all of an annotation: every argument is of an attribute of the record, which holds
what it says. Of the two names of a statement only one is there. -/
structure Keeps (a : Mark) (kind : MarkKind) (record : kind.Record) : Prop where
  named : a.isNamed (MarkRecord.name kind.Record) = true
  known : ∀ argument ∈ a.arguments, argument.1 ∈ kind.attributes
  kept : ∀ argument ∈ a.arguments,
    ∃ content, (argument.1, some content) ∈ kind.contents record ∧ argument.2.Kept content
  one : kind = .query → a.argument? "value" = none ∨ a.argument? "sql" = none

theorem argument?_eq_some_iff {a : Mark} (h : (a.arguments.map Prod.fst).Nodup) {key : String}
    {value : MarkValue} : a.argument? key = some value ↔ (key, value) ∈ a.arguments := by
  unfold argument?
  constructor
  · intro hfound
    obtain ⟨argument, hargument, rfl⟩ := Option.map_eq_some_iff.mp hfound
    have hkey : argument.1 = key := by simpa using List.find?_some hargument
    rw [← hkey]
    exact List.mem_of_find?_eq_some hargument
  · intro hmem
    have hsome : (a.arguments.find? fun argument => argument.1 == key).isSome :=
      List.find?_isSome.mpr ⟨(key, value), hmem, beq_self_eq_true key⟩
    obtain ⟨argument, hargument⟩ := Option.isSome_iff_exists.mp hsome
    have hkey : argument.1 = key := by simpa using List.find?_some hargument
    rw [hargument, List.inj_on_of_nodup_map h (List.mem_of_find?_eq_some hargument) hmem hkey,
      Option.map_some]

/-- Of an annotation that is read **everything is kept**. -/
theorem keeps_of_read {kind : MarkKind} {a : Mark} (ha : a.Proper) {record : kind.Record}
    (h : read kind.Record a = .ok record) : a.Keeps kind record := by
  obtain ⟨hnamed, taken, hparse, hall⟩ := read_eq_ok_iff.mp h
  have haccounts := MarkKind.accounts hparse
  refine ⟨hnamed, fun argument hargument => ?_, fun argument hargument => ?_, ?_⟩
  · rw [← kind.names_contents record]
    exact haccounts.looked argument.1 (hall argument hargument)
  · have htaken := hall argument hargument
    obtain ⟨entry, hentry, hkey⟩ := List.mem_map.mp (haccounts.looked argument.1 htaken)
    have htells := haccounts.tells entry hentry (hkey ▸ htaken)
    rw [hkey] at htells
    obtain ⟨content, hcontent, hkept⟩ :=
      htells argument.2 ((argument?_eq_some_iff ha.1).mpr hargument)
    refine ⟨content, ?_, hkept⟩
    rw [← hkey, ← hcontent]
    exact hentry
  · rintro rfl
    refine (QueryMark.accounts hparse).2.imp_right fun honly => ?_
    rw [Option.eq_none_iff_forall_not_mem]
    intro value hvalue
    have hsql := hall ("sql", value) ((argument?_eq_some_iff ha.1).mp hvalue)
    simp [honly] at hsql

end Mark

/-! ## annotations inside -/

/-- The annotation is in the value, at some depth. -/
inductive MarkValue.Holds : MarkValue → Mark → Prop where
  | here (name : String) (arguments : List (String × MarkValue)) :
      Holds (.nested name arguments) ⟨name, arguments⟩
  | item {items : List MarkValue} {value : MarkValue} {b : Mark} (hitem : value ∈ items)
      (h : value.Holds b) : Holds (.array items) b
  | argument {name key : String} {arguments : List (String × MarkValue)} {value : MarkValue} {b : Mark}
      (hargument : (key, value) ∈ arguments) (h : value.Holds b) : Holds (.nested name arguments) b

/-- The annotation is in an argument of this one, at some depth. -/
def Mark.Holds (a b : Mark) : Prop := ∃ argument ∈ a.arguments, argument.2.Holds b

/-- Of a nested annotation that is kept, a record is read. -/
theorem MarkValue.Kept.read {name : String} {arguments : List (String × MarkValue)} {content : Content}
    (h : (MarkValue.nested name arguments).Kept content) :
    ∃ (kind : MarkKind) (record : kind.Record),
      Mark.read kind.Record ⟨name, arguments⟩ = .ok record := by
  cases h with
  | one h | single h =>
      cases h with
      | record h => exact ⟨_, _, h⟩

/-- Of what is kept **every annotation inside** is read, and all of it is kept. -/
theorem MarkValue.Holds.keeps {value : MarkValue} {b : Mark} (h : value.Holds b)
    (hproper : value.Proper) {content : Content} (hkept : value.Kept content) :
    ∃ (kind : MarkKind) (record : kind.Record),
      Mark.read kind.Record b = .ok record ∧ b.Keeps kind record := by
  induction h generalizing content with
  | here name arguments =>
      have hmark : Mark.Proper ⟨name, arguments⟩ := hproper
      obtain ⟨kind, record, hread⟩ := hkept.read
      exact ⟨kind, record, hread, Mark.keeps_of_read hmark hread⟩
  | @item items value b hitem _ ih =>
      -- no record holds an array as one thing
      cases hkept with
      | one h | single h => cases h
      | list h =>
          obtain ⟨content, -, hmeans⟩ := exists_of_forall₂ h.flip hitem
          exact ih (properItems_iff.mp hproper value hitem) (.one hmeans)
  | @argument name key arguments value b hargument _ ih =>
      have hmark : Mark.Proper ⟨name, arguments⟩ := hproper
      obtain ⟨kind, record, hread⟩ := hkept.read
      obtain ⟨content, -, hkept⟩ := (Mark.keeps_of_read hmark hread).kept (key, value) hargument
      exact ih (properArguments_iff.mp hproper.2 (key, value) hargument) hkept

namespace Mark

/-- Of an annotation that is read every annotation inside is read, and all of it is kept. -/
theorem keeps_of_holds {kind : MarkKind} {a : Mark} (ha : a.Proper) {record : kind.Record}
    (h : read kind.Record a = .ok record) {b : Mark} (hb : a.Holds b) :
    ∃ (inner : MarkKind) (kept : inner.Record), read inner.Record b = .ok kept ∧ b.Keeps inner kept := by
  obtain ⟨argument, hargument, hb⟩ := hb
  obtain ⟨content, -, hkept⟩ := (keeps_of_read ha h).kept argument hargument
  exact hb.keeps (MarkValue.properArguments_iff.mp ha.2 argument hargument) hkept

end Mark

end DaoForge
