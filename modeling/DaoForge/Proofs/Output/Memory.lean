import DaoForge.Output.Memory
import DaoForge.Proofs.Distinct

/-!
# DaoForge.Proofs.Output.Memory

Units that were put into memory: the first of each qualified name (`ofList_units`), and all of them if
the names are distinct (`ofList_units_of_nodup`).
-/

namespace DaoForge.UnitStore

theorem insert_units (s : UnitStore) (u : GeneratedUnit) :
    (s.insert u).units = keepNew GeneratedUnit.qualifiedName s.units u := by
  unfold insert keepNew
  split <;> rfl

/-- **First come, first kept**: of the units with one qualified name the first is kept. -/
theorem ofList_units (us : List GeneratedUnit) :
    (ofList us).units = distinctBy GeneratedUnit.qualifiedName us := by
  have hall : ∀ s : UnitStore, (us.foldl insert s).units =
      keepAll GeneratedUnit.qualifiedName s.units us := by
    induction us with
    | nil => exact fun s => rfl
    | cons u rest ih =>
        intro s
        rw [List.foldl_cons, ih, insert_units]
        rfl
  exact hall {}

theorem ofList_units_of_nodup {us : List GeneratedUnit}
    (h : (us.map GeneratedUnit.qualifiedName).Nodup) : (ofList us).units = us := by
  rw [ofList_units, distinctBy_of_nodup h]

end DaoForge.UnitStore
