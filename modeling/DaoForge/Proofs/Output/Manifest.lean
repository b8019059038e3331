import DaoForge.Output.Manifest
import DaoForge.Proofs.Disk
import DaoForge.Proofs.Tree.Json

/-!
# DaoForge.Proofs.Output.Manifest

A manifest that was saved is read back as it was, whatever the names in it: from its text
(`ofText?_text`), and from its folder (`ofFolder_of_read`).
-/

namespace DaoForge

theorem UnitRecord.ofTree?_toTree (r : UnitRecord) : UnitRecord.ofTree? r.toTree = some r := by
  have hfields : r.toTree.fields ["file", "kind", "checksum"] =
      some [some (.text r.file), some (.text r.kind), some (.text r.checksum)] := by
    rfl
  simp only [ofTree?, hfields]
  rfl

namespace Manifest

/-- An entry after all others is put at the end. -/
theorem putEntry_append {α : Type} {name : String} {value : α} {entries : List (String × α)}
    (h : ∀ entry ∈ entries, entry.1 < name) :
    putEntry name value entries = entries ++ [(name, value)] := by
  induction entries with
  | nil => rfl
  | cons first rest ih =>
      obtain ⟨hfirst, hrest⟩ := List.forall_mem_cons.mp h
      have hnot : ¬ name < first.1 := fun hlt => String.lt_irrefl _ (String.lt_trans hlt hfirst)
      have hne : name ≠ first.1 := fun heq => String.lt_irrefl name (heq ▸ hfirst)
      rw [putEntry, if_neg hnot, if_neg hne, ih hrest, List.cons_append]

theorem ext_units {m m' : Manifest} (htool : m.toolVersion = m'.toolVersion)
    (hunits : m.units = m'.units) : m = m' := by
  cases m
  cases m'
  cases htool
  cases hunits
  rfl

/-- Entries with ascending names are put one behind the other. -/
theorem foldlM_entries (entries : List (String × UnitRecord)) (m : Manifest)
    (h : Ascending (m.units ++ entries)) :
    ∃ m', (entries.map fun entry => (Key.name entry.1, entry.2.toTree)).foldlM
        (fun (m : Manifest) (entry : Key × Tree) => do
          return m.insert (← entry.1.name?) (← UnitRecord.ofTree? entry.2)) m = some m' ∧
      m'.toolVersion = m.toolVersion ∧ m'.units = m.units ++ entries := by
  induction entries generalizing m with
  | nil => exact ⟨m, rfl, rfl, (List.append_nil _).symm⟩
  | cons entry entries ih =>
      have hbefore : ∀ old ∈ m.units, old.1 < entry.1 :=
        fun old hold => (List.pairwise_append.mp h).2.2 old hold entry List.mem_cons_self
      have hunits : (m.insert entry.1 entry.2).units = m.units ++ [entry] := putEntry_append hbefore
      obtain ⟨m', hrest, htool, hall⟩ := ih (m.insert entry.1 entry.2) (by
        rw [hunits, List.append_assoc, List.singleton_append]
        exact h)
      refine ⟨m', ?_, htool, ?_⟩
      · rw [List.map_cons, List.foldlM_cons, Key.name?, UnitRecord.ofTree?_toTree]
        exact hrest
      · rw [hall, hunits, List.append_assoc, List.singleton_append]

theorem ofTree?_toTree (m : Manifest) : ofTree? m.toTree = some m := by
  have hfields : m.toTree.fields ["tool_version", "units"] =
      some [some (.text m.toolVersion),
        some (.record (m.units.map fun entry => (entry.1, entry.2.toTree)))] := by
    rfl
  obtain ⟨m', hfold, htool, hunits⟩ :=
    foldlM_entries m.units { toolVersion := m.toolVersion } m.ascending
  have hsame : m' = m := ext_units htool hunits
  have hentries : ofEntries? m.toolVersion
      (.record (m.units.map fun entry => (entry.1, entry.2.toTree))) = some m := by
    rw [Tree.record, ofEntries?, List.map_map]
    exact hsame ▸ hfold
  simp only [ofTree?, hfields]
  exact hentries

/-- Nothing of a manifest is skipped when it is read. -/
theorem wanted_toTree (m : Manifest) : m.toTree.Wanted use 127 := by
  refine .record rfl ?_
  simp only [List.forall_mem_cons, List.not_mem_nil, false_implies, implies_true, and_true]
  refine ⟨.text rfl, .record rfl ?_⟩
  rw [List.forall_mem_map]
  intro entry _
  refine .record rfl ?_
  simp only [List.forall_mem_cons, List.not_mem_nil, false_implies, implies_true, and_true]
  exact ⟨.text rfl, .text rfl, .text rfl⟩

/-- **A saved manifest** is read back as it was. -/
theorem ofText?_text (m : Manifest) : ofText? m.text = some m := by
  rw [ofText?, text, Tree.ofJsonFor_toPrettyJson m.wanted_toTree]
  exact ofTree?_toTree m

/-- The manifest of a folder is what its file holds. -/
theorem ofFolder_eq (d : Disk) (folder : String) :
    ofFolder d folder = ((d.contents (Disk.join folder fileName)).bind ofText?).getD empty := by
  unfold ofFolder load
  cases hread : d.read (Disk.join folder fileName) with
  | ok text =>
      rw [Disk.read_eq_ok_iff.mp hread, Option.bind_some]
      dsimp only
      cases ofText? text <;> rfl
  | error cause =>
      have hnone : d.contents (Disk.join folder fileName) = none := by
        rw [Option.eq_none_iff_forall_not_mem]
        intro text htext
        rw [Disk.read_eq_ok_iff.mpr htext] at hread
        contradiction
      rw [hnone]
      cases cause <;> rfl

/-- The manifest of a folder into whose file one was saved. -/
theorem ofFolder_of_read {d : Disk} {folder : String} {m : Manifest}
    (h : d.read (Disk.join folder fileName) = .ok m.text) : ofFolder d folder = m := by
  rw [ofFolder_eq, Disk.read_eq_ok_iff.mp h, Option.bind_some, ofText?_text, Option.getD_some]

end Manifest

end DaoForge
