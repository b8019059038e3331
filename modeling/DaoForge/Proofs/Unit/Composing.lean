import DaoForge.Proofs.Except
import DaoForge.Unit.Dao
import DaoForge.Unit.Database
import DaoForge.Unit.Queries
import DaoForge.Unit.Table

/-!
# DaoForge.Proofs.Unit.Composing

What it takes to compose a unit: every step gave its result, and the unit has the name of its origin.
-/

namespace DaoForge

/-! ## steps -/

/-- What it takes for a name to have an identifier. -/
theorem Ident.eq_of {name : String} {i : Ident} (h : Ident.of name = .ok i) :
    isWellFormed name = true ∧ isReserved name = false ∧ i = ⟨name, isKeyword name⟩ := by
  unfold Ident.of at h
  split at h
  · contradiction
  next hname =>
  split at h
  · cases h
    rw [Bool.or_eq_true, not_or] at hname
    exact ⟨by simpa using hname.1, by simpa using hname.2, rfl⟩
  · contradiction

theorem Ident.name_of {name : String} {i : Ident} (h : Ident.of name = .ok i) : i.name = name := by
  rw [(Ident.eq_of h).2.2]

theorem composing_eq_ok {α : Type} {result : Except GenerationError α} {a : α}
    (h : composing result = .ok a) : result = .ok a := by
  cases result with
  | ok b => exact congrArg Except.ok (Except.ok.inj h)
  | error e => contradiction

/-! ## arguments of a struct -/

namespace Member

theorem find?_arguments (members : List Member) (parameter : String) :
    (arguments members).find? (fun a => a.1 == parameter) =
      (members.find? fun m => m.property == parameter).map fun m => (m.property, m.argument) := by
  induction members with
  | nil => rfl
  | cons first rest ih =>
      rw [arguments, List.find?_cons, List.find?_cons, ih]
      cases first.property == parameter <;> rfl

/-- The argument of a name is that of the first member of the name. -/
theorem argumentNamed_arguments {owner parameter : String} {members : List Member} {m : Member}
    (h : members.find? (fun m => m.property == parameter) = some m) :
    argumentNamed owner (arguments members) parameter = m.argument := by
  rw [argumentNamed, find?_arguments, h]
  rfl

/-- The argument of a property is the value of a member of that property. -/
theorem exists_of_argumentNamed {owner parameter : String} {members : List Member} {value : Option Build}
    (h : argumentNamed owner (arguments members) parameter = .ok value) :
    ∃ m ∈ members, m.property = parameter ∧ m.argument = .ok value := by
  cases hfind : members.find? fun m => m.property == parameter with
  | none =>
      rw [argumentNamed, find?_arguments, hfind] at h
      contradiction
  | some m =>
      rw [argumentNamed_arguments hfind] at h
      exact ⟨m, List.mem_of_find?_eq_some hfind, by simpa using List.find?_some hfind, h⟩

end Member

/-! ## names -/

section Names

variable {n : Naming}

theorem TableUnit.name_of {e : Entity} {u : TableUnit} (h : TableUnit.of n e = .ok u) :
    u.name.name = n.table e := by
  obtain ⟨name, hname, h⟩ := bind_eq_ok h
  cases h
  exact Ident.name_of hname

theorem MapperUnit.name_of {e : Entity} {u : MapperUnit} (h : MapperUnit.of n e = .ok u) :
    u.name.name = n.mapper e := by
  obtain ⟨name, hname, h⟩ := bind_eq_ok h
  obtain ⟨entity, -, h⟩ := bind_eq_ok h
  obtain ⟨fields, -, h⟩ := bind_eq_ok h
  obtain ⟨adapters, -, h⟩ := bind_eq_ok h
  obtain ⟨value, -, h⟩ := bind_eq_ok h
  cases h
  exact Ident.name_of hname

theorem QueriesUnit.name_of {d : Dao} {u : QueriesUnit} (h : QueriesUnit.of n d = .ok u) :
    u.name.name = n.queries d := by
  obtain ⟨name, hname, h⟩ := bind_eq_ok h
  obtain ⟨adapters, -, h⟩ := bind_eq_ok h
  obtain ⟨mappers, -, h⟩ := bind_eq_ok h
  obtain ⟨methods, -, h⟩ := bind_eq_ok h
  obtain ⟨loaders, -, h⟩ := bind_eq_ok h
  cases h
  exact Ident.name_of hname

theorem DaoUnit.name_of {d : Dao} {u : DaoUnit} (h : DaoUnit.of n d = .ok u) :
    u.name.name = n.dao d := by
  obtain ⟨name, hname, h⟩ := bind_eq_ok h
  obtain ⟨queries, -, h⟩ := bind_eq_ok h
  obtain ⟨daoTrait, -, h⟩ := bind_eq_ok h
  obtain ⟨functions, -, h⟩ := bind_eq_ok h
  cases h
  exact Ident.name_of hname

theorem SchemaUnit.name_of {d : Database} {u : SchemaUnit} (h : SchemaUnit.of n d = .ok u) :
    u.name.name = n.schema d := by
  obtain ⟨name, hname, h⟩ := bind_eq_ok h
  obtain ⟨tables, -, h⟩ := bind_eq_ok h
  cases h
  exact Ident.name_of hname

theorem DatabaseUnit.name_of {d : Database} {mappers : List MapperWiring}
    {queries : List QueriesWiring} {u : DatabaseUnit}
    (h : DatabaseUnit.of n d mappers queries = .ok u) : u.name.name = n.database d := by
  obtain ⟨name, hname, h⟩ := bind_eq_ok h
  obtain ⟨schema, -, h⟩ := bind_eq_ok h
  obtain ⟨databaseTrait, -, h⟩ := bind_eq_ok h
  obtain ⟨adapters, -, h⟩ := bind_eq_ok h
  obtain ⟨ofMappers, -, h⟩ := bind_eq_ok h
  obtain ⟨ofQueries, -, h⟩ := bind_eq_ok h
  obtain ⟨getters, -, h⟩ := bind_eq_ok h
  cases h
  exact Ident.name_of (composing_eq_ok hname)

end Names

end DaoForge
