import DaoForge.Unit.Basic

/-!
# DaoForge.Output.Memory

Units kept in memory, in the order in which they came. Of units with one qualified name the first is
kept.
-/

namespace DaoForge

/-- Units with distinct qualified names. -/
structure UnitStore where
  units : List GeneratedUnit := []
  nodup : (units.map GeneratedUnit.qualifiedName).Nodup := by simp

namespace UnitStore

def size (s : UnitStore) : Nat := s.units.length

/-- Adds a unit, unless one of its qualified name is there. -/
def insert (s : UnitStore) (u : GeneratedUnit) : UnitStore :=
  if h : u.qualifiedName ∈ s.units.map GeneratedUnit.qualifiedName then s
  else
    { units := s.units ++ [u]
      nodup := by
        rw [List.map_append, List.nodup_append]
        refine ⟨s.nodup, by simp, ?_⟩
        intro name hn other ho e
        simp at ho
        exact h (by rw [← ho, ← e]; exact hn) }

def ofList (us : List GeneratedUnit) : UnitStore := us.foldl insert {}

/-- The unit of a qualified name, else the first of a plain name. -/
def get? (s : UnitStore) (name : String) : Option GeneratedUnit :=
  (s.units.find? fun u => u.qualifiedName == name) <|> s.units.find? fun u => u.name == name

end UnitStore

end DaoForge
