import DaoForge.Proofs.Disk.Folder
import DaoForge.Proofs.Output.FileSink
import DaoForge.Proofs.Output.Manifest

/-!
# DaoForge.Proofs.Output.History

Runs one after the other on a folder, of which any may stop before its end.

1. `contents_emitAll`, `contents_finish`: what a run does to the text of one unit's file;
2. `History folder d₀ visits d`: the disk after such runs, each with the units that it took;
3. `InStep`: what the manifest in the folder records, and which files have the texts that it says. It is
   kept by a run that stops and by one that ends (`InStep.stopped`, `InStep.finished`);
4. `History.in_step`: the file of a record has another text iff a run that stopped has put it there. The
   runs that ended since have trusted the record and left the file alone.
-/

namespace DaoForge

namespace FileSink

open Disk

/-! ## files of units -/

/-- Every unit has a file of its own in the folder, of the same name in every run. -/
structure OwnFiles (us : List GeneratedUnit) : Prop where
  flat : ∀ u ∈ us, '/' ∉ u.module.toList
  modules : ∀ u ∈ us, u.module ≠ "mod"
  own : ∀ u ∈ us, ∀ u' ∈ us, u.fileName = u'.fileName ↔ u.qualifiedName = u'.qualifiedName

theorem OwnFiles.mono {us us' : List GeneratedUnit} (h : OwnFiles us) (hsubset : us' ⊆ us) :
    OwnFiles us' where
  flat u hu := h.flat u (hsubset hu)
  modules u hu := h.modules u (hsubset hu)
  own u hu u' hu' := h.own u (hsubset hu) u' (hsubset hu')

/-- The characters of a file name end in those of its extension. -/
theorem toList_fileName (u : GeneratedUnit) :
    u.fileName.toList = u.module.toList ++ ['.', 'r', 's'] := by
  simp [GeneratedUnit.fileName]

theorem fileName_ne {u : GeneratedUnit} {name : String} (h : name.toList.getLast? ≠ some 's') :
    u.fileName ≠ name := by
  rintro rfl
  rw [toList_fileName] at h
  simp at h

theorem isName_fileName {u : GeneratedUnit} (h : '/' ∉ u.module.toList) : IsName u.fileName := by
  refine ⟨?_, ?_, fileName_ne (by decide)⟩
  · rw [toList_fileName]
    simpa using h
  · have hempty : u.fileName ≠ "" := fileName_ne (by decide)
    have hdot : u.fileName ≠ "." := fileName_ne (by decide)
    simp [staysAt, hempty, hdot]

theorem fileName_ne_moduleFile {u : GeneratedUnit} (h : u.module ≠ "mod") : u.fileName ≠ moduleFile := by
  intro heq
  have hlist : u.module.toList ++ ['.', 'r', 's'] = "mod".toList ++ ['.', 'r', 's'] := by
    rw [← toList_fileName, heq]
    rfl
  exact h (String.toList_injective (List.append_cancel_right hlist))

theorem isName_manifest : IsName Manifest.fileName := ⟨by decide, by decide, by decide⟩

theorem isName_moduleFile : IsName moduleFile := ⟨by decide, by decide, by decide⟩

/-! ## texts in a run -/

section Runs

variable {s s' : FileSink} {d d' : Disk} {us : List GeneratedUnit} {file : String}

/-- A unit that is taken leaves the files of others alone, and its own if its name was taken before. -/
theorem contents_emit {u : GeneratedUnit} (h : s.emit d u = .ok (s', d')) (hu : IsName u.fileName)
    (hfile : IsName file) (hseen : u.fileName = file → s.current.contains u.qualifiedName = true) :
    d'.contents (s.path file) = d.contents (s.path file) := by
  obtain ⟨-, -, rfl⟩ | ⟨-, -, -, rfl⟩ | ⟨hnew, -, -, hwrite⟩ := emit_cases h
  · rfl
  · rfl
  · refine contents_write_other hu hfile (fun heq => ?_) hwrite
    rw [hseen heq] at hnew
    contradiction

/-- What was recorded in a run stays recorded. -/
theorem contains_emit {u : GeneratedUnit} (h : s.emit d u = .ok (s', d')) {name : String}
    (hname : s.current.contains name = true) : s'.current.contains name = true := by
  rw [Manifest.contains, Option.isSome_iff_exists] at hname ⊢
  obtain ⟨r, hr⟩ := hname
  exact ⟨r, by rw [get?_emit h, hr, Option.some_or]⟩

/-- A file is left alone if the units that have it were all taken before. -/
theorem contents_emitAll_of_seen (h : s.emitAll d us = (.ok (), s', d'))
    (hus : ∀ u ∈ us, IsName u.fileName) (hfile : IsName file)
    (hseen : ∀ u ∈ us, u.fileName = file → s.current.contains u.qualifiedName = true) :
    d'.contents (s.path file) = d.contents (s.path file) := by
  induction us generalizing s d with
  | nil =>
      cases h
      rfl
  | cons u us ih =>
      obtain ⟨s₁, d₁, hemit, hrest⟩ := emitAll_cons h
      obtain ⟨hu, hus⟩ := List.forall_mem_cons.mp hus
      obtain ⟨hfirst, hseen⟩ := List.forall_mem_cons.mp hseen
      have hstep := contents_emit hemit hu hfile hfirst
      have hlater := ih hrest hus fun v hv hvfile => contains_emit hemit (hseen v hv hvfile)
      rw [(emit_sameRun hemit).1.path_eq] at hlater
      exact hlater.trans hstep

/-- Whether a unit's file is left alone does not depend on the other units that were taken. -/
theorem isUpToDate_congr {s₁ : FileSink} {d₁ : Disk} (hrun : SameRun s s₁) {u : GeneratedUnit}
    (hcontents : d₁.contents (s.path u.fileName) = d.contents (s.path u.fileName)) :
    s₁.isUpToDate d₁ u = s.isUpToDate d u := by
  rw [isUpToDate, isUpToDate, hrun.previous, hrun.path_eq, isFile_eq_isSome_contents, hcontents,
    ← isFile_eq_isSome_contents]

/-- The file of the first unit of a name is left as it was if it is up to date, and written otherwise. -/
theorem contents_emitAll (h : s.emitAll d us = (.ok (), s', d')) (hus : OwnFiles us) {name : String}
    (hnew : s.current.get? name = none) {u : GeneratedUnit}
    (hfind : us.find? (fun v => v.qualifiedName == name) = some u) :
    d'.contents (s.path u.fileName) =
      if s.isUpToDate d u then d.contents (s.path u.fileName) else some u.source := by
  induction us generalizing s d with
  | nil => contradiction
  | cons v us ih =>
      obtain ⟨s₁, d₁, hemit, hrest⟩ := emitAll_cons h
      have hrun := (emit_sameRun hemit).1
      have hnamed : ∀ w ∈ v :: us, IsName w.fileName := fun w hw => isName_fileName (hus.flat w hw)
      by_cases hname : v.qualifiedName = name
      · rw [List.find?_cons_of_pos (by simpa using hname)] at hfind
        obtain rfl := Option.some.inj hfind
        have hlater := contents_emitAll_of_seen hrest (List.forall_mem_cons.mp hnamed).2
          (hnamed v List.mem_cons_self) fun w hw hfile => by
            rw [(hus.own w (List.mem_cons_of_mem v hw) v List.mem_cons_self).mp hfile]
            rw [Manifest.contains, get?_emit hemit, if_pos rfl, Option.isSome_or]
            simp
        rw [hrun.path_eq] at hlater
        rw [hlater]
        obtain ⟨hseen, -, -⟩ | ⟨-, hkept, -, rfl⟩ | ⟨-, hstale, -, hwrite⟩ := emit_cases hemit
        · rw [Manifest.contains, hname, hnew] at hseen
          contradiction
        · rw [if_pos hkept]
        · rw [hstale, if_neg Bool.false_ne_true, contents_write_self hwrite]
      · rw [List.find?_cons_of_neg (by simpa using hname)] at hfind
        have hu : u ∈ us := List.mem_of_find?_eq_some hfind
        have huname : u.qualifiedName = name := by simpa using List.find?_some hfind
        have hother : v.fileName ≠ u.fileName := fun hfile =>
          hname (((hus.own v List.mem_cons_self u (List.mem_cons_of_mem v hu)).mp hfile).trans huname)
        have hstep := contents_emit hemit (hnamed v List.mem_cons_self)
          (hnamed u (List.mem_cons_of_mem v hu)) fun hfile => absurd hfile hother
        have hnew₁ : s₁.current.get? name = none := by
          rw [get?_emit hemit, hnew, if_neg hname]
          rfl
        have hlater := ih hrest (hus.mono (List.subset_cons_self v us)) hnew₁ hfind
        rw [hrun.path_eq, isUpToDate_congr hrun hstep, hstep] at hlater
        exact hlater

/-! ## texts at the end of a run -/

/-- The removals leave a file alone that no record has, and otherwise only count. -/
theorem contents_foldl_removeStale {stale : List UnitRecord} (hfile : IsName file)
    (hstale : ∀ r ∈ stale, IsName r.file ∧ r.file ≠ file) (s : FileSink) (d : Disk) :
    ∃ n d', stale.foldl removeStale (s, d) = ({ s with removed := n }, d') ∧
      d'.contents (s.path file) = d.contents (s.path file) := by
  induction stale generalizing s d with
  | nil => exact ⟨s.removed, d, rfl, rfl⟩
  | cons r stale ih =>
      obtain ⟨⟨hname, hother⟩, hstale⟩ := List.forall_mem_cons.mp hstale
      rw [List.foldl_cons, removeStale]
      split
      · obtain ⟨n, d', hrest, hcontents⟩ :=
          ih hstale { s with removed := s.removed + 1 } (d.remove (s.path r.file))
        exact ⟨n, d', hrest, hcontents.trans (contents_remove_other hname hfile hother)⟩
      · exact ih hstale s d

/-- The module file is brought up to date, and no other file of the folder. -/
theorem contents_writeModules (h : s.writeModules d = .ok d') (hfile : IsName file)
    (hmodules : file ≠ moduleFile) : d'.contents (s.path file) = d.contents (s.path file) := by
  have hwritten : d.write (s.path moduleFile) s.moduleText = .ok d' →
      d'.contents (s.path file) = d.contents (s.path file) :=
    contents_write_other isName_moduleFile hfile hmodules.symm
  unfold writeModules at h
  split at h
  · split at h
    · cases h
      rfl
    · exact hwritten h
  · exact hwritten h

/-- The end of a run leaves the files alone that are not stale. -/
theorem contents_finish (h : s.finish d = (.ok (), s', d')) (hfile : IsName file)
    (hmodules : file ≠ moduleFile) (hmanifest : file ≠ Manifest.fileName)
    (hstale : ∀ r ∈ s.previous.stale s.current, IsName r.file ∧ r.file ≠ file) :
    d'.contents (s.path file) = d.contents (s.path file) := by
  obtain ⟨n, d₁, hsweep, hswept⟩ := contents_foldl_removeStale hfile hstale s d
  rw [finish, hsweep] at h
  simp only at h
  split at h
  · simp at h
  next d₂ hlisted =>
  split at h
  · simp at h
  next d₃ hsave =>
  cases h
  have hsaved : d'.contents (s.path file) = d₂.contents (s.path file) :=
    contents_write_other isName_manifest hfile hmanifest.symm hsave
  have hmodule : d₂.contents (s.path file) = d₁.contents (s.path file) :=
    contents_writeModules hlisted hfile hmodules
  exact hsaved.trans (hmodule.trans hswept)

/-- A run on a folder that has not taken a unit. -/
def opened (d : Disk) (folder : String) : FileSink where
  folder := folder
  previous := Manifest.ofFolder d folder

theorem path_opened (d : Disk) (folder file : String) :
    (opened d folder).path file = join folder file :=
  rfl

/-- A run starts in a folder that is there without touching the disk. -/
theorem start_cases {folder : String} (hfolder : d.isFolder folder = true)
    (h : start d folder = (.ok s, d')) : s = opened d folder ∧ d' = d := by
  unfold start at h
  split at h
  · simp at h
  · rw [makeFolders_of_isFolder hfolder] at h
    cases h
    exact ⟨rfl, rfl⟩

end Runs

/-! ## histories -/

/-- A run: the units that it took, and whether it came to its end. -/
structure Visit where
  units : List GeneratedUnit
  isFinished : Bool
  deriving Repr

/-- The record of the unit that the run took under a name. -/
def Visit.record? (v : Visit) (name : String) : Option UnitRecord :=
  (v.units.find? fun u => u.qualifiedName == name).map record

/-- `History folder d₀ visits d`: runs on a folder, the last one first, have brought the disk from `d₀`
to `d`. -/
inductive History (folder : String) (d₀ : Disk) : List Visit → Disk → Prop
  | begin : History folder d₀ [] d₀
  /-- A run took some units, and stopped. -/
  | stopped {visits : List Visit} {d d₁ d' : Disk} {s s' : FileSink} {us : List GeneratedUnit}
      (before : History folder d₀ visits d) (hstart : start d folder = (.ok s, d₁))
      (hemit : s.emitAll d₁ us = (.ok (), s', d')) : History folder d₀ (⟨us, false⟩ :: visits) d'
  /-- A run took some units, and ended. -/
  | finished {visits : List Visit} {d d₁ d' : Disk} {s s' : FileSink} {us : List GeneratedUnit}
      (before : History folder d₀ visits d) (hstart : start d folder = (.ok s, d₁))
      (hrun : s.run d₁ us = (.ok (), s', d')) : History folder d₀ (⟨us, true⟩ :: visits) d'

/-- The record of a unit in the manifest of the last run that ended. -/
def recorded : List Visit → String → Option UnitRecord
  | [], _ => none
  | v :: earlier, name => if v.isFinished then v.record? name else recorded earlier name

/-- A run that stopped has put a text with another digest in the file of a unit: the record of the unit
had this digest then, and all runs that ended since have recorded it again. -/
def Overwritten (name checksum : String) (visits : List Visit) : Prop :=
  ∃ later stopped earlier, visits = later ++ stopped :: earlier ∧ stopped.isFinished = false ∧
    (∃ r, stopped.record? name = some r ∧ r.checksum ≠ checksum) ∧
    (recorded earlier name).map UnitRecord.checksum = some checksum ∧
    ∀ v ∈ later, v.isFinished = true → (v.record? name).map UnitRecord.checksum = some checksum

section Overwritten

variable {name checksum : String} {us : List GeneratedUnit} {visits : List Visit}

theorem not_overwritten_nil : ¬ Overwritten name checksum [] := by
  rintro ⟨later, stopped, earlier, hsplit, -⟩
  simp at hsplit

/-- A run that stopped has overwritten the file, or it was before. -/
theorem overwritten_stopped_iff : Overwritten name checksum (⟨us, false⟩ :: visits) ↔
    ((∃ r, Visit.record? ⟨us, false⟩ name = some r ∧ r.checksum ≠ checksum) ∧
      (recorded visits name).map UnitRecord.checksum = some checksum) ∨
      Overwritten name checksum visits := by
  constructor
  · rintro ⟨later, stopped, earlier, hsplit, hstopped, htook, hrecorded, hlater⟩
    cases later with
    | nil =>
        obtain ⟨rfl, rfl⟩ := List.cons.inj hsplit
        exact .inl ⟨htook, hrecorded⟩
    | cons v later =>
        obtain ⟨rfl, rfl⟩ := List.cons.inj hsplit
        obtain ⟨-, hlater⟩ := List.forall_mem_cons.mp hlater
        exact .inr ⟨later, stopped, earlier, rfl, hstopped, htook, hrecorded, hlater⟩
  · rintro (⟨htook, hrecorded⟩ | ⟨later, stopped, earlier, rfl, hstopped, htook, hrecorded, hlater⟩)
    · exact ⟨[], _, visits, rfl, rfl, htook, hrecorded, by simp⟩
    · refine ⟨_ :: later, stopped, earlier, rfl, hstopped, htook, hrecorded, ?_⟩
      exact List.forall_mem_cons.mpr ⟨fun hfinished => by contradiction, hlater⟩

/-- A run that ended leaves the file overwritten if it records the digest again. -/
theorem overwritten_finished_iff : Overwritten name checksum (⟨us, true⟩ :: visits) ↔
    (Visit.record? ⟨us, true⟩ name).map UnitRecord.checksum = some checksum ∧
      Overwritten name checksum visits := by
  constructor
  · rintro ⟨later, stopped, earlier, hsplit, hstopped, htook, hrecorded, hlater⟩
    cases later with
    | nil =>
        obtain ⟨rfl, rfl⟩ := List.cons.inj hsplit
        contradiction
    | cons v later =>
        obtain ⟨rfl, rfl⟩ := List.cons.inj hsplit
        obtain ⟨hagain, hlater⟩ := List.forall_mem_cons.mp hlater
        exact ⟨hagain rfl, later, stopped, earlier, rfl, hstopped, htook, hrecorded, hlater⟩
  · rintro ⟨hagain, later, stopped, earlier, rfl, hstopped, htook, hrecorded, hlater⟩
    refine ⟨_ :: later, stopped, earlier, rfl, hstopped, htook, hrecorded, ?_⟩
    exact List.forall_mem_cons.mpr ⟨fun _ => hagain, hlater⟩

/-- The digest of an overwritten file is the one that is recorded. -/
theorem Overwritten.recorded_eq (h : Overwritten name checksum visits) :
    (recorded visits name).map UnitRecord.checksum = some checksum := by
  induction visits with
  | nil => exact absurd h not_overwritten_nil
  | cons v visits ih =>
      obtain ⟨us, finished⟩ := v
      cases finished with
      | false =>
          rw [recorded, if_neg Bool.false_ne_true]
          exact (overwritten_stopped_iff.mp h).elim And.right ih
      | true =>
          rw [recorded, if_pos rfl]
          exact (overwritten_finished_iff.mp h).1

end Overwritten

/-! ## manifest and files -/

/-- The units of all runs. -/
def Visit.all (visits : List Visit) : List GeneratedUnit := visits.flatMap Visit.units

/-- What the runs have left: the manifest in the folder is that of the last run that ended, and each file
that it records is there; its text has the digest of the record unless it was overwritten. -/
structure InStep (folder : String) (visits : List Visit) (d : Disk) : Prop where
  manifest : ∀ name, (Manifest.ofFolder d folder).get? name = recorded visits name
  files : ∀ name r, recorded visits name = some r →
    ∃ text, d.contents (join folder r.file) = some text ∧
      (sha256Hex text = r.checksum ↔ ¬ Overwritten name r.checksum visits)

section Steps

variable {folder : String} {visits : List Visit} {d d' : Disk} {s s' : FileSink}
  {us : List GeneratedUnit}

/-- A record is that of a unit which some run took. -/
theorem exists_unit_of_recorded {name : String} {r : UnitRecord} (h : recorded visits name = some r) :
    ∃ u ∈ Visit.all visits, u.qualifiedName = name ∧ r = record u := by
  induction visits with
  | nil => contradiction
  | cons v visits ih =>
      rw [recorded] at h
      rw [Visit.all, List.flatMap_cons]
      split at h
      · obtain ⟨u, hu, rfl⟩ := Option.map_eq_some_iff.mp h
        have hmem := List.mem_append_left (Visit.all visits) (List.mem_of_find?_eq_some hu)
        exact ⟨u, hmem, by simpa using List.find?_some hu, rfl⟩
      · obtain ⟨u, hu, hname, hr⟩ := ih h
        exact ⟨u, List.mem_append_right _ hu, hname, hr⟩

/-- The unit that a run took under a name. -/
theorem record?_eq_some_iff {v : Visit} {name : String} {r : UnitRecord} :
    v.record? name = some r ↔
      ∃ u, v.units.find? (fun u => u.qualifiedName == name) = some u ∧ record u = r :=
  Option.map_eq_some_iff

/-- A unit that was recorded before is up to date if its digest is the one that is recorded. -/
theorem isUpToDate_iff (h : InStep folder visits d) {u : GeneratedUnit} {r : UnitRecord}
    (hr : recorded visits u.qualifiedName = some r) (hfile : r.file = u.fileName) :
    (opened d folder).isUpToDate d u = true ↔
      (record u).checksum = r.checksum := by
  obtain ⟨text, htext, -⟩ := h.files _ r hr
  have hthere : d.isFile (join folder u.fileName) = true :=
    isFile_iff.mpr ⟨text, hfile ▸ htext⟩
  have hprevious : (opened d folder).previous.get? u.qualifiedName = some r := (h.manifest _).trans hr
  rw [isUpToDate, hprevious, path_opened, hthere, Bool.and_true]
  simp only [hfile, beq_self_eq_true, Bool.true_and, beq_iff_eq]
  exact eq_comm

section Units

variable (hus : OwnFiles (us ++ Visit.all visits))
  (hemit : (opened d folder).emitAll d us = (.ok (), s', d')) (h : InStep folder visits d)

include hus

theorem eq_file_of_recorded {u : GeneratedUnit} (hu : u ∈ us) {name : String} {r : UnitRecord}
    (hr : recorded visits name = some r) : u.fileName = r.file ↔ u.qualifiedName = name := by
  obtain ⟨u₀, hu₀, rfl, rfl⟩ := exists_unit_of_recorded hr
  exact hus.own u (List.mem_append_left _ hu) u₀ (List.mem_append_right us hu₀)

include hemit

/-- The manifest in the folder is left alone. -/
theorem contents_emitAll_manifest :
    d'.contents (join folder Manifest.fileName) = d.contents (join folder Manifest.fileName) := by
  rw [← path_opened d]
  refine contents_emitAll_of_seen hemit (fun u hu => ?_) isName_manifest fun u _ hfile => ?_
  · exact isName_fileName (hus.flat u (List.mem_append_left _ hu))
  · exact absurd hfile (fileName_ne (by decide))

/-- The file of a unit that the run did not take is left alone. -/
theorem contents_emitAll_of_none {name : String} {r : UnitRecord}
    (hr : recorded visits name = some r)
    (hnone : us.find? (fun u => u.qualifiedName == name) = none) :
    d'.contents (join folder r.file) = d.contents (join folder r.file) := by
  obtain ⟨u₀, hu₀, -, rfl⟩ := exists_unit_of_recorded hr
  have hnamed : IsName u₀.fileName := isName_fileName (hus.flat u₀ (List.mem_append_right us hu₀))
  rw [← path_opened d]
  refine contents_emitAll_of_seen hemit (fun u hu => ?_) hnamed fun u hu hfile => ?_
  · exact isName_fileName (hus.flat u (List.mem_append_left _ hu))
  · have hname := (eq_file_of_recorded hus hu hr).mp hfile
    simpa [hname] using List.find?_eq_none.mp hnone u hu

include h

/-- The file of a recorded unit that the run took is left alone if the digest is the one that is
recorded, and written otherwise. -/
theorem contents_emitAll_of_some {name : String} {r : UnitRecord}
    (hr : recorded visits name = some r) {u : GeneratedUnit}
    (hfind : us.find? (fun u => u.qualifiedName == name) = some u) :
    u.fileName = r.file ∧ d'.contents (join folder r.file) =
      if (record u).checksum = r.checksum then d.contents (join folder r.file)
      else some u.source := by
  have hu := List.mem_of_find?_eq_some hfind
  have hname : u.qualifiedName = name := by simpa using List.find?_some hfind
  have hfile := (eq_file_of_recorded hus hu hr).mpr hname
  have hcontents := contents_emitAll hemit (hus.mono (List.subset_append_left us _)) rfl hfind
  have hkept := isUpToDate_iff h (hname ▸ hr) hfile.symm
  rw [path_opened] at hcontents
  rw [← hfile]
  refine ⟨rfl, hcontents.trans ?_⟩
  by_cases hsame : (record u).checksum = r.checksum
  · rw [if_pos (hkept.mpr hsame), if_pos hsame]
  · rw [if_neg fun hup => hsame (hkept.mp hup), if_neg hsame]

/-- The file of a unit that was not recorded before is written. -/
theorem contents_emitAll_of_new {name : String} (hr : recorded visits name = none) {u : GeneratedUnit}
    (hfind : us.find? (fun u => u.qualifiedName == name) = some u) :
    d'.contents (join folder u.fileName) = some u.source := by
  have hname : u.qualifiedName = name := by simpa using List.find?_some hfind
  have hprevious : (opened d folder).previous.get? u.qualifiedName = none :=
    (h.manifest _).trans (hname ▸ hr)
  have hcontents := contents_emitAll hemit (hus.mono (List.subset_append_left us _)) rfl hfind
  rw [isUpToDate, hprevious, Bool.false_and, if_neg Bool.false_ne_true, path_opened] at hcontents
  exact hcontents

/-- The end of the run leaves the files of the units alone that it took. -/
theorem contents_finish_of_some {s₁ : FileSink} {d₁ : Disk} (hfinish : s'.finish d' = (.ok (), s₁, d₁))
    {name : String} {u : GeneratedUnit}
    (hfind : us.find? (fun u => u.qualifiedName == name) = some u) :
    d₁.contents (join folder u.fileName) = d'.contents (join folder u.fileName) := by
  obtain ⟨hrun, -⟩ := emitAll_sameRun hemit
  have hu := List.mem_append_left (Visit.all visits) (List.mem_of_find?_eq_some hfind)
  have hname : u.qualifiedName = name := by simpa using List.find?_some hfind
  rw [← path_opened d, ← hrun.path_eq]
  refine contents_finish hfinish (isName_fileName (hus.flat u hu))
    (fileName_ne_moduleFile (hus.modules u hu)) (fileName_ne (by decide)) fun r hr => ?_
  obtain ⟨old, hold, hmoved⟩ := Manifest.mem_stale_iff.mp hr
  have hrecorded : recorded visits old = some r := by
    rw [← h.manifest, ← hold, hrun.previous]
    rfl
  obtain ⟨u₀, hu₀, rfl, rfl⟩ := exists_unit_of_recorded hrecorded
  refine ⟨isName_fileName (hus.flat u₀ (List.mem_append_right us hu₀)), fun hsame => hmoved ?_⟩
  -- a record of the same file is of the same unit, which is recorded again
  have hunit := (hus.own u₀ (List.mem_append_right us hu₀) u hu).mp hsame
  rw [get?_emitAll hemit, hunit, hname, hfind]
  exact congrArg some hsame.symm

end Units

/-- A run that stops leaves manifest and files in step, but for the files that it has overwritten. -/
theorem InStep.stopped (h : InStep folder visits d) (hus : OwnFiles (us ++ Visit.all visits))
    (hemit : (opened d folder).emitAll d us = (.ok (), s', d')) :
    InStep folder (⟨us, false⟩ :: visits) d' := by
  constructor
  · intro name
    rw [Manifest.ofFolder_eq, contents_emitAll_manifest hus hemit, ← Manifest.ofFolder_eq, h.manifest,
      recorded, if_neg Bool.false_ne_true]
  · intro name r hr
    rw [recorded, if_neg Bool.false_ne_true] at hr
    obtain ⟨text, htext, hdigest⟩ := h.files name r hr
    rw [overwritten_stopped_iff, hr, Visit.record?]
    cases hfind : us.find? (fun u => u.qualifiedName == name) with
    | none =>
        refine ⟨text, (contents_emitAll_of_none hus hemit hr hfind).trans htext, ?_⟩
        simpa using hdigest
    | some u =>
        obtain ⟨-, hcontents⟩ := contents_emitAll_of_some hus hemit h hr hfind
        by_cases hsame : (record u).checksum = r.checksum
        · rw [if_pos hsame] at hcontents
          refine ⟨text, hcontents.trans htext, ?_⟩
          simpa [hsame] using hdigest
        · rw [if_neg hsame] at hcontents
          refine ⟨u.source, hcontents, ?_⟩
          have hother : sha256Hex u.source ≠ r.checksum := hsame
          simp [hsame, hother]

/-- A run that ends leaves manifest and files in step, but for the files that were overwritten before
and whose records it has trusted. -/
theorem InStep.finished (h : InStep folder visits d) (hus : OwnFiles (us ++ Visit.all visits))
    (hrun : (opened d folder).run d us = (.ok (), s', d')) :
    InStep folder (⟨us, true⟩ :: visits) d' := by
  obtain ⟨s₁, d₁, hemit, hfinish⟩ := run_cases hrun
  obtain ⟨hsame, -⟩ := emitAll_sameRun hemit
  obtain ⟨-, -, hread, -⟩ := finish_cases hfinish
  rw [hsame.path_eq, path_opened] at hread
  constructor
  · intro name
    rw [Manifest.ofFolder_of_read hread, get?_emitAll hemit, recorded, if_pos rfl]
    rfl
  · intro name r hr
    rw [recorded, if_pos rfl] at hr
    obtain ⟨u, hfind, rfl⟩ := record?_eq_some_iff.mp hr
    have hkept : d'.contents (join folder u.fileName) = d₁.contents (join folder u.fileName) :=
      contents_finish_of_some hus hemit h hfinish hfind
    have hfresh : ¬ Overwritten name (record u).checksum visits →
        d₁.contents (join folder u.fileName) = some u.source →
        ∃ text, d'.contents (join folder u.fileName) = some text ∧ (sha256Hex text =
          (record u).checksum ↔ ¬ Overwritten name (record u).checksum (⟨us, true⟩ :: visits)) := by
      intro hnot hwritten
      refine ⟨u.source, hkept.trans hwritten, iff_of_true rfl ?_⟩
      exact fun hover => hnot (overwritten_finished_iff.mp hover).2
    cases hbefore : recorded visits name with
    | none =>
        refine hfresh (fun hover => ?_) (contents_emitAll_of_new hus hemit h hbefore hfind)
        have hrecorded := hover.recorded_eq
        rw [hbefore] at hrecorded
        contradiction
    | some r₀ =>
        obtain ⟨hfile, hcontents⟩ := contents_emitAll_of_some hus hemit h hbefore hfind
        rw [← hfile] at hcontents
        by_cases hdigest : (record u).checksum = r₀.checksum
        · obtain ⟨text, htext, hiff⟩ := h.files name r₀ hbefore
          rw [if_pos hdigest, hfile, htext, ← hfile] at hcontents
          refine ⟨text, hkept.trans hcontents, ?_⟩
          rw [overwritten_finished_iff, hr, Option.map_some, eq_self_iff_true, true_and, hdigest]
          exact hiff
        · rw [if_neg hdigest] at hcontents
          refine hfresh (fun hover => hdigest ?_) hcontents
          have hrecorded := hover.recorded_eq
          rw [hbefore] at hrecorded
          exact (Option.some.inj hrecorded).symm

end Steps

/-- **Manifest and files after any runs** on a folder without a manifest, of which each may have stopped:
the manifest in the folder is that of the last run that ended. Each file that it records is there, and its
text has the digest of the record iff it was not overwritten: iff no run that stopped has put another text
there while the runs that ended since trusted the record. -/
theorem History.in_step {folder : String} {d₀ d : Disk} {visits : List Visit}
    (hfolder : d₀.isFolder folder = true) (hfresh : Manifest.ofFolder d₀ folder = .empty)
    (hus : OwnFiles (Visit.all visits)) (h : History folder d₀ visits d) :
    InStep folder visits d := by
  have hall : d.isFolder folder = true ∧ InStep folder visits d := by
    induction h with
    | begin =>
        refine ⟨hfolder, fun name => ?_, fun name r hr => nomatch hr⟩
        rw [hfresh]
        rfl
    | stopped before hstart hemit ih =>
        obtain ⟨hthere, hstep⟩ := ih (hus.mono (List.subset_append_right _ _))
        obtain ⟨rfl, rfl⟩ := start_cases hthere hstart
        obtain ⟨-, hfolders⟩ := emitAll_sameRun hemit
        exact ⟨(isFolder_congr hfolders folder).symm.trans hthere, hstep.stopped hus hemit⟩
    | finished before hstart hrun ih =>
        obtain ⟨hthere, hstep⟩ := ih (hus.mono (List.subset_append_right _ _))
        obtain ⟨rfl, rfl⟩ := start_cases hthere hstart
        obtain ⟨s₁, d₁, hemit, hfinish⟩ := run_cases hrun
        obtain ⟨-, hfolders⟩ := emitAll_sameRun hemit
        obtain ⟨-, hfolders', -⟩ := finish_cases hfinish
        have hfolders := hfolders.trans hfolders'
        exact ⟨(isFolder_congr hfolders folder).symm.trans hthere, hstep.finished hus hrun⟩
  exact hall.2

/-- What comes of a run on a folder that is there. -/
def Visit.outcome (v : Visit) (folder : String) (d : Disk) : Except IoError Unit × FileSink × Disk :=
  if v.isFinished then (opened d folder).run d v.units else (opened d folder).emitAll d v.units

/-- The disk after runs, the last one first, if all of them could start and take their units. -/
def replay (folder : String) (d₀ : Disk) : List Visit → Option Disk
  | [] => some d₀
  | v :: earlier => do
    let d ← replay folder d₀ earlier
    if start d folder = (.ok (opened d folder), d) ∧ (v.outcome folder d).1 = .ok () then
      some (v.outcome folder d).2.2
    else none

theorem History.of_replay {folder : String} {d₀ d : Disk} {visits : List Visit}
    (h : replay folder d₀ visits = some d) : History folder d₀ visits d := by
  induction visits generalizing d with
  | nil =>
      cases h
      exact .begin
  | cons v earlier ih =>
      obtain ⟨before, hbefore, h⟩ := Option.bind_eq_some_iff.mp h
      split at h
      · next hruns =>
        obtain ⟨hstart, hok⟩ := hruns
        cases h
        obtain ⟨us, finished⟩ := v
        cases finished with
        | false => exact .stopped (ih hbefore) hstart (Prod.ext hok rfl)
        | true => exact .finished (ih hbefore) hstart (Prod.ext hok rfl)
      · contradiction

/-- A unit of a fixed name and file with some text. -/
def userTable (source : String) : GeneratedUnit :=
  ⟨"User", "crate::generated::User", "user", .table, source⟩

/-- Runs of that unit, the last one first: one that ended, one that stopped after another text, and again
one that ended with the first text. -/
def userVisits : List Visit :=
  [⟨[userTable "// a\n"], true⟩, ⟨[userTable "// b\n"], false⟩, ⟨[userTable "// a\n"], true⟩]

/-- A disk with an empty folder. -/
def emptyFolder : Disk := (makeFolders {} "out").2

/-- The last run relies on the record of the first, and leaves the text of the run that stopped. -/
theorem in_step_user :
    ∃ d r text, History "out" emptyFolder userVisits d ∧ InStep "out" userVisits d ∧
      (Manifest.ofFolder d "out").get? "crate::generated::User" = some r ∧
      d.contents (join "out" r.file) = some text ∧ sha256Hex text ≠ r.checksum := by
  have hfolder : emptyFolder.isFolder "out" = true := by decide +kernel
  have hfresh : Manifest.ofFolder emptyFolder "out" = .empty := by decide +kernel
  have hus : OwnFiles (Visit.all userVisits) := by
    constructor <;> decide
  have hruns : (replay "out" emptyFolder userVisits).isSome = true := by decide +kernel
  obtain ⟨d, hd⟩ := Option.isSome_iff_exists.mp hruns
  have hstep := History.in_step hfolder hfresh hus (.of_replay hd)
  have hrecorded : recorded userVisits "crate::generated::User" =
      some (record (userTable "// a\n")) := rfl
  have hdigests : (record (userTable "// b\n")).checksum ≠ (record (userTable "// a\n")).checksum := by
    decide +kernel
  have hover : Overwritten "crate::generated::User" (record (userTable "// a\n")).checksum
      userVisits := by
    refine overwritten_finished_iff.mpr ⟨rfl, overwritten_stopped_iff.mpr (.inl ⟨?_, rfl⟩)⟩
    exact ⟨_, rfl, hdigests⟩
  obtain ⟨text, htext, hdigest⟩ := hstep.files "crate::generated::User" _ hrecorded
  have hrecord := (hstep.manifest "crate::generated::User").trans hrecorded
  exact ⟨d, _, text, .of_replay hd, hstep, hrecord, htext, fun hsame => hdigest.mp hsame hover⟩

end FileSink

end DaoForge
