import DaoForge.Output.FileSink
import DaoForge.Proofs.Disk

/-!
# DaoForge.Proofs.Output.FileSink

What a run that writes units into a folder does to the files there.

1. `emit_cases` says everything that taking one unit can do; what every unit keeps, a whole run keeps
   (`emitAll_sameRun`, `emitAll_backed`, `get?_emitAll`);
2. `finish_cases` does so for the end of a run, `isFile_foldl_removeStale` for its removals;
3. `run_keeps_iff`: a file that the manifest of a run records is there after the run iff no stale
   record of the run before leads to its place. Taking units never loses a file; the removals at the
   end can.
-/

namespace DaoForge

/-! ## records of a manifest -/

namespace Manifest

/-- The entries of a manifest are what is found under their names. -/
theorem mem_units_iff {m : Manifest} {name : String} {r : UnitRecord} :
    (name, r) ∈ m.units ↔ m.get? name = some r := by
  have key : ∀ entries : List (String × UnitRecord), Ascending entries →
      ((name, r) ∈ entries ↔
        (entries.find? fun entry => entry.1 == name).map (·.2) = some r) := by
    intro entries hentries
    induction entries with
    | nil => simp
    | cons first rest ih =>
        obtain ⟨hfirst, hrest⟩ := List.pairwise_cons.mp hentries
        rw [List.mem_cons, List.find?_cons]
        by_cases hname : first.1 = name
        · have hnot : (name, r) ∉ rest := by
            intro hmem
            have hlt : first.1 < name := hfirst _ hmem
            rw [hname] at hlt
            exact String.lt_irrefl name hlt
          simp [hname, hnot, Prod.ext_iff, eq_comm]
        · have hne : (name, r) ≠ first := fun h => hname (by rw [← h])
          have hmiss : (first.1 == name) = false := beq_false_of_ne hname
          simp [hmiss, hne, ih hrest]
  exact key m.units m.ascending

/-- A record is stale iff the later manifest records another file under its name, or none. -/
theorem mem_stale_iff {m current : Manifest} {r : UnitRecord} :
    r ∈ m.stale current ↔
      ∃ name, m.get? name = some r ∧ (current.get? name).map UnitRecord.file ≠ some r.file := by
  simp only [stale, List.mem_map, List.mem_filter, bne_iff_ne]
  constructor
  · rintro ⟨⟨name, r'⟩, ⟨hmem, hfile⟩, rfl⟩
    exact ⟨name, mem_units_iff.mp hmem, hfile⟩
  · rintro ⟨name, hget, hfile⟩
    exact ⟨(name, r), ⟨mem_units_iff.mpr hget, hfile⟩, rfl⟩

theorem contains_eq_false_iff {m : Manifest} {name : String} :
    m.contains name = false ↔ m.get? name = none := by
  rw [contains, Option.isSome_eq_false_iff, Option.isNone_iff_eq_none]

end Manifest

namespace FileSink

open Disk

/-! ## taking units -/

/-- The sinks belong to one run: they write into one folder, after one earlier run. -/
structure SameRun (s s' : FileSink) : Prop where
  folder : s'.folder = s.folder
  previous : s'.previous = s.previous

theorem SameRun.refl (s : FileSink) : SameRun s s := ⟨rfl, rfl⟩

theorem SameRun.trans {s s' s'' : FileSink} (h : SameRun s s') (h' : SameRun s' s'') :
    SameRun s s'' := ⟨h'.folder.trans h.folder, h'.previous.trans h.previous⟩

theorem SameRun.path_eq {s s' : FileSink} (h : SameRun s s') (file : String) :
    s'.path file = s.path file := by
  rw [path, path, h.folder]

/-- Everything that taking a unit can do: ignore it, leave its file alone, or write it. -/
theorem emit_cases {s s' : FileSink} {d d' : Disk} {u : GeneratedUnit}
    (h : s.emit d u = .ok (s', d')) :
    (s.current.contains u.qualifiedName = true ∧ s' = s ∧ d' = d) ∨
    (s.current.contains u.qualifiedName = false ∧ s.isUpToDate d u = true ∧
      s' = { s.note u with unchanged := s.unchanged + 1 } ∧ d' = d) ∨
    (s.current.contains u.qualifiedName = false ∧ s.isUpToDate d u = false ∧
      s' = { s.note u with written := s.written + 1 } ∧
      d.write (s.path u.fileName) u.source = .ok d') := by
  unfold emit at h
  split at h
  · next hseen =>
    cases h
    exact .inl ⟨hseen, rfl, rfl⟩
  next hseen =>
  have hnew : s.current.contains u.qualifiedName = false := Bool.eq_false_iff.mpr hseen
  split at h
  · next hkept =>
    cases h
    exact .inr (.inl ⟨hnew, hkept, rfl, rfl⟩)
  next hkept =>
  have hstale : s.isUpToDate d u = false := Bool.eq_false_iff.mpr hkept
  split at h
  · next hwrite =>
    cases h
    exact .inr (.inr ⟨hnew, hstale, rfl, hwrite⟩)
  · contradiction

theorem emit_sameRun {s s' : FileSink} {d d' : Disk} {u : GeneratedUnit}
    (h : s.emit d u = .ok (s', d')) : SameRun s s' ∧ SameFolders d d' := by
  obtain ⟨-, rfl, rfl⟩ | ⟨-, -, rfl, rfl⟩ | ⟨-, -, rfl, hwrite⟩ := emit_cases h
  · exact ⟨.refl s', .refl d'⟩
  · exact ⟨⟨rfl, rfl⟩, .refl d'⟩
  · exact ⟨⟨rfl, rfl⟩, sameFolders_write hwrite⟩

/-- A unit is recorded unless one of its name was. -/
theorem get?_emit {s s' : FileSink} {d d' : Disk} {u : GeneratedUnit}
    (h : s.emit d u = .ok (s', d')) (name : String) :
    s'.current.get? name =
      (s.current.get? name).or (if u.qualifiedName = name then some (record u) else none) := by
  have hnote : s.current.contains u.qualifiedName = false →
      (s.note u).current.get? name =
        (s.current.get? name).or (if u.qualifiedName = name then some (record u) else none) := by
    intro hnew
    rw [note, Manifest.get?_insert]
    by_cases hname : name = u.qualifiedName
    · subst hname
      have hnone := Manifest.contains_eq_false_iff.mp hnew
      simp [hnone]
    · have hother : ¬ u.qualifiedName = name := fun e => hname e.symm
      simp [hname, hother]
  obtain ⟨hseen, rfl, -⟩ | ⟨hnew, -, rfl, -⟩ | ⟨hnew, -, rfl, -⟩ := emit_cases h
  · by_cases hname : u.qualifiedName = name
    · subst hname
      obtain ⟨r, hr⟩ := Option.isSome_iff_exists.mp hseen
      simp [hr]
    · simp [hname]
  · exact hnote hnew
  · exact hnote hnew

/-- Every file that the manifest of the run records is there. -/
def Backed (s : FileSink) (d : Disk) : Prop :=
  ∀ name r, s.current.get? name = some r → d.isFile (s.path r.file) = true

/-- Taking a unit loses no file. -/
theorem isFile_emit {s s' : FileSink} {d d' : Disk} {u : GeneratedUnit}
    (h : s.emit d u = .ok (s', d')) {path : String} (hfile : d.isFile path = true) :
    d'.isFile path = true := by
  obtain ⟨-, -, rfl⟩ | ⟨-, -, -, rfl⟩ | ⟨-, -, -, hwrite⟩ := emit_cases h
  · exact hfile
  · exact hfile
  · exact (isFile_write_iff hwrite).mpr (.inr hfile)

/-- A unit whose name is new has its file. -/
theorem isFile_emit_self {s s' : FileSink} {d d' : Disk} {u : GeneratedUnit}
    (h : s.emit d u = .ok (s', d')) (hnew : s.current.contains u.qualifiedName = false) :
    d'.isFile (s.path u.fileName) = true := by
  obtain ⟨hseen, -, -⟩ | ⟨-, hkept, -, rfl⟩ | ⟨-, -, -, hwrite⟩ := emit_cases h
  · rw [hnew] at hseen
    contradiction
  · rw [isUpToDate, Bool.and_eq_true] at hkept
    exact hkept.2
  · exact isFile_iff.mpr ⟨u.source, contents_write_self hwrite⟩

theorem emit_backed {s s' : FileSink} {d d' : Disk} {u : GeneratedUnit}
    (h : s.emit d u = .ok (s', d')) (hs : Backed s d) : Backed s' d' := by
  intro name r hr
  rw [(emit_sameRun h).1.path_eq]
  rw [get?_emit h] at hr
  cases hold : s.current.get? name with
  | some old =>
      have heq : old = r := by simpa [hold] using hr
      subst heq
      exact isFile_emit h (hs name old hold)
  | none =>
      by_cases hname : u.qualifiedName = name
      · have heq : record u = r := by simpa [hold, hname] using hr
        subst hname heq
        exact isFile_emit_self h (Manifest.contains_eq_false_iff.mpr hold)
      · simp [hold, hname] at hr

/-! ## taking all units -/

theorem emitAll_cons {s s' : FileSink} {d d' : Disk} {u : GeneratedUnit} {us : List GeneratedUnit}
    (h : s.emitAll d (u :: us) = (.ok (), s', d')) :
    ∃ s₁ d₁, s.emit d u = .ok (s₁, d₁) ∧ s₁.emitAll d₁ us = (.ok (), s', d') := by
  rw [emitAll] at h
  split at h
  · next s₁ d₁ hemit => exact ⟨s₁, d₁, hemit, h⟩
  · simp at h

theorem emitAll_sameRun {s s' : FileSink} {d d' : Disk} {us : List GeneratedUnit}
    (h : s.emitAll d us = (.ok (), s', d')) : SameRun s s' ∧ SameFolders d d' := by
  induction us generalizing s d with
  | nil =>
      cases h
      exact ⟨.refl _, .refl _⟩
  | cons u us ih =>
      obtain ⟨s₁, d₁, hemit, hrest⟩ := emitAll_cons h
      obtain ⟨hrun, hfolders⟩ := emit_sameRun hemit
      obtain ⟨hrun', hfolders'⟩ := ih hrest
      exact ⟨hrun.trans hrun', hfolders.trans hfolders'⟩

theorem emitAll_backed {s s' : FileSink} {d d' : Disk} {us : List GeneratedUnit}
    (h : s.emitAll d us = (.ok (), s', d')) (hs : Backed s d) : Backed s' d' := by
  induction us generalizing s d with
  | nil =>
      cases h
      exact hs
  | cons u us ih =>
      obtain ⟨s₁, d₁, hemit, hrest⟩ := emitAll_cons h
      exact ih hrest (emit_backed hemit hs)

/-- Of the units with one name the first is recorded. -/
theorem get?_emitAll {s s' : FileSink} {d d' : Disk} {us : List GeneratedUnit}
    (h : s.emitAll d us = (.ok (), s', d')) (name : String) :
    s'.current.get? name =
      (s.current.get? name).or ((us.find? fun u => u.qualifiedName == name).map record) := by
  induction us generalizing s d with
  | nil =>
      cases h
      simp
  | cons u us ih =>
      obtain ⟨s₁, d₁, hemit, hrest⟩ := emitAll_cons h
      rw [ih hrest, get?_emit hemit, Option.or_assoc, List.find?_cons]
      by_cases hname : u.qualifiedName = name
      · simp [hname]
      · have hmiss : (u.qualifiedName == name) = false := beq_false_of_ne hname
        simp [hname, hmiss]

/-! ## ending a run -/

/-- Removing the file of a record takes away what leads to its place, and only counts. -/
theorem removeStale_cases (s : FileSink) (d : Disk) (r : UnitRecord) :
    ∃ n d', removeStale (s, d) r = ({ s with removed := n }, d') ∧ SameFolders d d' ∧
      ∀ path, d'.isFile path = true ↔
        ¬ SamePlace d (s.path r.file) path ∧ d.isFile path = true := by
  by_cases hfile : d.isFile (s.path r.file) = true
  · refine ⟨s.removed + 1, d.remove (s.path r.file), ?_, sameFolders_remove d _, ?_⟩
    · simp only [removeStale, hfile, if_true]
    · exact fun path => isFile_remove_iff
  · refine ⟨s.removed, d, ?_, .refl d, ?_⟩
    · simp only [removeStale, hfile, if_false, Bool.false_eq_true]
    · intro path
      -- where the record leads there is no file to lose
      have hother : d.isFile path = true → ¬ SamePlace d (s.path r.file) path := by
        intro hpath hsame
        exact hfile (hsame.isFile_eq.trans hpath)
      exact ⟨fun hpath => ⟨hother hpath, hpath⟩, fun hpath => hpath.2⟩

/-- After the removals the files are there that no stale record leads to. -/
theorem isFile_foldl_removeStale (stale : List UnitRecord) (s : FileSink) (d : Disk) :
    ∃ n d', stale.foldl removeStale (s, d) = ({ s with removed := n }, d') ∧ SameFolders d d' ∧
      ∀ path, d'.isFile path = true ↔
        (∀ r ∈ stale, ¬ SamePlace d (s.path r.file) path) ∧ d.isFile path = true := by
  induction stale generalizing s d with
  | nil => exact ⟨s.removed, d, rfl, .refl d, by simp⟩
  | cons r rest ih =>
      obtain ⟨n, d₁, hstep, hfolders, hfile⟩ := removeStale_cases s d r
      obtain ⟨n', d', hrest, hfolders', hfile'⟩ := ih { s with removed := n } d₁
      refine ⟨n', d', ?_, hfolders.trans hfolders', ?_⟩
      · rw [List.foldl_cons, hstep, hrest]
      · intro path
        have hlater := hfile' path
        simp only [hfile path, ← samePlace_congr hfolders] at hlater
        rw [hlater, List.forall_mem_cons]
        exact ⟨fun ⟨hothers, hfirst, hthere⟩ => ⟨⟨hfirst, hothers⟩, hthere⟩,
          fun ⟨⟨hfirst, hothers⟩, hthere⟩ => ⟨hothers, hfirst, hthere⟩⟩

/-- The module file is there after it was brought up to date, and every file that was. -/
theorem writeModules_ok {s : FileSink} {d d' : Disk} (h : s.writeModules d = .ok d') :
    SameFolders d d' ∧ ∀ path, d'.isFile path = true ↔
      SamePlace d (s.path moduleFile) path ∨ d.isFile path = true := by
  have hwritten : d.write (s.path moduleFile) s.moduleText = .ok d' →
      SameFolders d d' ∧ ∀ path, d'.isFile path = true ↔
        SamePlace d (s.path moduleFile) path ∨ d.isFile path = true :=
    fun hwrite => ⟨sameFolders_write hwrite, fun path => isFile_write_iff hwrite⟩
  unfold writeModules at h
  split at h
  · next text hread =>
    split at h
    · cases h
      refine ⟨.refl d, fun path => ⟨.inr, ?_⟩⟩
      rintro (hsame | hthere)
      · rw [← hsame.isFile_eq]
        exact isFile_iff.mpr ⟨text, read_eq_ok_iff.mp hread⟩
      · exact hthere
    · exact hwritten h
  · exact hwritten h

/-- Everything that a finished run has done at its end. -/
theorem finish_cases {s s' : FileSink} {d d' : Disk} (h : s.finish d = (.ok (), s', d')) :
    s'.previous = s.current ∧ SameFolders d d' ∧
    d'.read (s.path Manifest.fileName) = .ok s.current.text ∧
    ∀ path, d'.isFile path = true ↔
      SamePlace d (s.path Manifest.fileName) path ∨ SamePlace d (s.path moduleFile) path ∨
        (∀ r ∈ s.previous.stale s.current, ¬ SamePlace d (s.path r.file) path) ∧
          d.isFile path = true := by
  obtain ⟨n, d₁, hsweep, hfolders, hswept⟩ :=
    isFile_foldl_removeStale (s.previous.stale s.current) s d
  rw [finish, hsweep] at h
  simp only at h
  split at h
  · simp at h
  next d₂ hmodules =>
  obtain ⟨hfolders', hlisted⟩ := writeModules_ok hmodules
  split at h
  · simp at h
  next d₃ hsave =>
  cases h
  have hall := hfolders.trans hfolders'
  refine ⟨rfl, hall.trans (sameFolders_write hsave), ?_, ?_⟩
  · exact read_eq_ok_iff.mpr (contents_write_self hsave)
  · intro path
    rw [isFile_write_iff hsave, hlisted, hswept, ← samePlace_congr hall,
      ← samePlace_congr hfolders]
    rfl

/-! ## whole runs -/

/-- Everything that a finished run has done. -/
theorem run_cases {s s' : FileSink} {d d' : Disk} {us : List GeneratedUnit}
    (h : s.run d us = (.ok (), s', d')) :
    ∃ s₁ d₁, s.emitAll d us = (.ok (), s₁, d₁) ∧ s₁.finish d₁ = (.ok (), s', d') := by
  unfold run at h
  split at h
  · next s₁ d₁ hemit => exact ⟨s₁, d₁, hemit, h⟩
  · next hfailed => exact absurd h (hfailed s' d')

/-- A run that starts has recorded nothing. -/
theorem start_current {d d' : Disk} {folder : String} {s : FileSink}
    (h : start d folder = (.ok s, d')) : s.current = .empty := by
  unfold start at h
  split at h
  · simp at h
  split at h
  · cases h
    rfl
  · simp at h

/-- A record of the run before leads to the place of the file, and the run that ended records
another file under its name, or none. -/
def Displaced (s s' : FileSink) (d : Disk) (file : String) : Prop :=
  ∃ name r, s.previous.get? name = some r ∧
    (s'.previous.get? name).map UnitRecord.file ≠ some r.file ∧
    SamePlace d (s.path r.file) (s.path file)

/-- **What a run leaves**: after a run that starts on any disk, the manifest in the folder records of
the units with one name the first. The file of a record is there iff it is the manifest, the module
file, or not displaced. -/
theorem run_keeps_iff {d d₁ d' : Disk} {folder : String} {s s' : FileSink}
    {us : List GeneratedUnit} (hstart : start d folder = (.ok s, d₁))
    (hrun : s.run d₁ us = (.ok (), s', d')) :
    d'.read (s.path Manifest.fileName) = .ok s'.previous.text ∧
    (∀ name, s'.previous.get? name =
      (us.find? fun u => u.qualifiedName == name).map record) ∧
    ∀ name r, s'.previous.get? name = some r →
      (d'.isFile (s.path r.file) = true ↔
        SamePlace d' (s.path Manifest.fileName) (s.path r.file) ∨
          SamePlace d' (s.path moduleFile) (s.path r.file) ∨ ¬ Displaced s s' d' r.file) := by
  have hnone := start_current hstart
  obtain ⟨s₁, d₂, hemit, hfinish⟩ := run_cases hrun
  obtain ⟨⟨hfolder, hprevious⟩, -⟩ := emitAll_sameRun hemit
  obtain ⟨hcurrent, hfolders, hread, hfile⟩ := finish_cases hfinish
  have hpath : ∀ file, s₁.path file = s.path file := SameRun.path_eq ⟨hfolder, hprevious⟩
  have hbacked : Backed s₁ d₂ := by
    apply emitAll_backed hemit
    intro name r hr
    rw [hnone] at hr
    cases hr
  refine ⟨?_, ?_, ?_⟩
  · rw [hcurrent, ← hpath]
    exact hread
  · intro name
    rw [hcurrent, get?_emitAll hemit, hnone]
    rfl
  · intro name r hr
    have hthere : d₂.isFile (s.path r.file) = true := by
      rw [← hpath]
      exact hbacked name r (hcurrent ▸ hr)
    have hdisplaced : Displaced s s' d' r.file ↔
        ∃ r₀ ∈ s₁.previous.stale s₁.current, SamePlace d₂ (s.path r₀.file) (s.path r.file) := by
      simp only [Displaced, hprevious, hcurrent, Manifest.mem_stale_iff, samePlace_congr hfolders]
      constructor
      · rintro ⟨name₀, r₀, hget, hother, hsame⟩
        exact ⟨r₀, ⟨name₀, hget, hother⟩, hsame⟩
      · rintro ⟨r₀, ⟨name₀, hget, hother⟩, hsame⟩
        exact ⟨name₀, r₀, hget, hother, hsame⟩
    rw [hfile, hdisplaced]
    simp only [hpath, hthere, samePlace_congr hfolders, and_true, not_exists, not_and]

deriving instance DecidableEq for Except

/-- A unit whose file is `user.rs`, whatever its name. -/
def userUnit (name : String) : GeneratedUnit := ⟨name, name, "user", .table, ""⟩

/-- A disk after a first run, of one unit. -/
def userDisk : Disk :=
  let s : FileSink := { folder := "out", previous := .empty }
  (s.run (Disk.makeFolders {} "out").2 [userUnit "UserTable"]).2.2

/-- The run that follows, before it has taken a unit. -/
def userSink : FileSink where
  folder := "out"
  previous := Manifest.empty.insert "UserTable" (record (userUnit "UserTable"))

/-- The second run takes the unit under another name: its file is recorded, and gone. -/
theorem run_loses_renamed :
    ∃ s' d', start userDisk "out" = (.ok userSink, userDisk) ∧
      userSink.run userDisk [userUnit "Users"] = (.ok (), s', d') ∧
      s'.previous.get? "Users" = some (record (userUnit "Users")) ∧
      d'.isFile (userSink.path (record (userUnit "Users")).file) = false := by
  have hstart : start userDisk "out" = (.ok userSink, userDisk) := by decide +kernel
  have hplaces : (userSink.run userDisk [userUnit "Users"]).1 = .ok () ∧
      ["user.rs", Manifest.fileName, moduleFile].map (fun file =>
        (userSink.run userDisk [userUnit "Users"]).2.2.place? (userSink.path file)) =
      [some ["out", "user.rs"], some ["out", Manifest.fileName], some ["out", moduleFile]] := by
    decide +kernel
  rcases hrun : userSink.run userDisk [userUnit "Users"] with ⟨result, s', d'⟩
  rw [hrun] at hplaces
  obtain ⟨rfl, hplaces⟩ := hplaces
  simp only [List.map_cons, List.map_nil, List.cons.injEq, and_true] at hplaces
  obtain ⟨hunit, hmanifest, hmodules⟩ := hplaces
  obtain ⟨-, hrecords, hfile⟩ := run_keeps_iff hstart hrun
  have hget : s'.previous.get? "Users" = some (record (userUnit "Users")) := by
    rw [hrecords]
    rfl
  have hdisplaced : Displaced userSink s' d' (record (userUnit "Users")).file := by
    refine ⟨"UserTable", record (userUnit "UserTable"), ?_, ?_, ⟨_, hunit, hunit⟩⟩
    · rw [userSink, Manifest.get?_insert, if_pos rfl]
    · rw [hrecords]
      simp [userUnit]
  refine ⟨s', d', hstart, rfl, hget, ?_⟩
  rw [Bool.eq_false_iff]
  intro hthere
  rcases (hfile _ _ hget).mp hthere with ⟨l, hl, hl'⟩ | ⟨l, hl, hl'⟩ | hkept
  · have heq : some ["out", Manifest.fileName] = some ["out", "user.rs"] :=
      hmanifest.symm.trans (hl.trans (hl'.symm.trans hunit))
    revert heq
    decide
  · have heq : some ["out", moduleFile] = some ["out", "user.rs"] :=
      hmodules.symm.trans (hl.trans (hl'.symm.trans hunit))
    revert heq
    decide
  · exact hkept hdisplaced

end FileSink

end DaoForge
