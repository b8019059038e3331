import DaoForge.Proofs.Output.History
import Mathlib.Data.List.Dedup

/-!
# DaoForge.Proofs.Output.Rerun

A run that is repeated on the folder it has left.

1. What a run records depends only on its units (`SameRecords`, `emitAll_sameRecords`), and every unit
   that it records is counted once, as written or as unchanged (`counts_emitAll`);
2. a run whose units are `Foreseen`, recorded by the run before with the files in place, takes them
   without writing one (`Foreseen.emitAll`), and has nothing to do at its end (`finish_upToDate`). The
   run after a first one is such a run (`foreseen_opened`);
3. `run_again`: so a second run with the same units writes no unit, removes no file and leaves every
   file as it is, whatever names and files the units share.
-/

namespace DaoForge

namespace Disk

/-- No program can tell the disks apart: they have the same folders, and the same text in each file. -/
structure Alike (d e : Disk) : Prop where
  folders : SameFolders d e
  texts : ∀ l, e.textAt? l = d.textAt? l

/-- A file that was written may be written again, and nothing changes. -/
theorem write_again {d d' : Disk} {path text : String} (h : d.write path text = .ok d') :
    ∃ e, d'.write path text = .ok e ∧ Alike d' e := by
  obtain ⟨l, hplace, hput⟩ := write_eq_ok h
  have hfolders := sameFolders_write h
  have hplace' : d'.locate path = .ok l :=
    place?_eq_some_iff.mp ((place?_congr hfolders path).symm.trans hplace)
  have hfolder : d'.isFolderAt l = false := by
    rw [← isFolderAt_congr hfolders]
    rw [write, place?_eq_some_iff.mp hplace] at h
    by_contra hthere
    rw [Bool.not_eq_false] at hthere
    simp [bind, Except.bind, hthere] at h
  refine ⟨d'.put l text, ?_, sameFolders_put d' l text, fun m => ?_⟩
  · simp [write, hplace', hfolder, bind, Except.bind]
  · rw [hput, textAt?_put, textAt?_put]
    split <;> rfl

end Disk

namespace Manifest

theorem stale_self (m : Manifest) : m.stale m = [] := by
  rw [List.eq_nil_iff_forall_not_mem]
  intro r hr
  obtain ⟨name, hget, hfile⟩ := mem_stale_iff.mp hr
  exact hfile (by rw [hget]; rfl)

/-- An entry under a new name is one more. -/
theorem length_putEntry {α : Type} {name : String} {value : α} {entries : List (String × α)}
    (h : ∀ entry ∈ entries, entry.1 ≠ name) :
    (putEntry name value entries).length = entries.length + 1 := by
  induction entries with
  | nil => rfl
  | cons first rest ih =>
      obtain ⟨hfirst, hrest⟩ := List.forall_mem_cons.mp h
      rw [putEntry]
      split
      · rfl
      · rw [if_neg hfirst.symm, List.length_cons, ih hrest, List.length_cons]

theorem mem_names_iff {m : Manifest} {name : String} :
    name ∈ m.units.map Prod.fst ↔ m.contains name = true := by
  rw [contains, Option.isSome_iff_exists, List.mem_map]
  constructor
  · rintro ⟨⟨_, r⟩, hmem, rfl⟩
    exact ⟨r, mem_units_iff.mp hmem⟩
  · rintro ⟨r, hr⟩
    exact ⟨(name, r), mem_units_iff.mpr hr, rfl⟩

theorem size_insert {m : Manifest} {unit : String} (h : m.contains unit = false) (r : UnitRecord) :
    (m.insert unit r).size = m.size + 1 := by
  refine length_putEntry fun entry hentry hname => ?_
  have hseen : m.contains unit = true := mem_names_iff.mp (hname ▸ List.mem_map_of_mem hentry)
  rw [h] at hseen
  contradiction

/-- The names of a manifest are distinct. -/
theorem nodup_names (m : Manifest) : (m.units.map Prod.fst).Nodup := by
  rw [List.Nodup, List.pairwise_map]
  refine m.ascending.imp fun {first second} hlt heq => ?_
  rw [heq] at hlt
  exact String.lt_irrefl _ hlt

end Manifest

namespace FileSink

open Disk

/-! ## what a run records -/

/-- The runs have recorded the same units. -/
structure SameRecords (s t : FileSink) : Prop where
  current : t.current = s.current
  modules : t.modules = s.modules

section Records

variable {s s' t t' : FileSink} {d d' e e' : Disk} {u : GeneratedUnit} {us : List GeneratedUnit}

/-- A unit is recorded unless one of its name was, wherever its text goes. -/
theorem records_emit (h : s.emit d u = .ok (s', d')) :
    (s'.current, s'.modules) =
      if s.current.contains u.qualifiedName then (s.current, s.modules)
      else ((s.note u).current, (s.note u).modules) := by
  obtain ⟨hseen, rfl, -⟩ | ⟨hnew, -, rfl, -⟩ | ⟨hnew, -, rfl, -⟩ := emit_cases h
  · rw [if_pos hseen]
  · rw [hnew, if_neg Bool.false_ne_true]
  · rw [hnew, if_neg Bool.false_ne_true]

theorem emit_sameRecords (hs : s.emit d u = .ok (s', d')) (ht : t.emit e u = .ok (t', e'))
    (h : SameRecords s t) : SameRecords s' t' := by
  have hnote : (t'.current, t'.modules) = (s'.current, s'.modules) := by
    rw [records_emit hs, records_emit ht, note, note, h.current, h.modules]
  exact ⟨congrArg Prod.fst hnote, congrArg Prod.snd hnote⟩

theorem emitAll_sameRecords (hs : s.emitAll d us = (.ok (), s', d'))
    (ht : t.emitAll e us = (.ok (), t', e')) (h : SameRecords s t) : SameRecords s' t' := by
  induction us generalizing s d t e with
  | nil =>
      cases hs
      cases ht
      exact h
  | cons u us ih =>
      obtain ⟨s₁, d₁, hsu, hs⟩ := emitAll_cons hs
      obtain ⟨t₁, e₁, htu, ht⟩ := emitAll_cons ht
      exact ih hs ht (emit_sameRecords hsu htu h)

/-- A unit that is recorded is counted once. -/
theorem counts_emit (h : s.emit d u = .ok (s', d')) :
    s'.removed = s.removed ∧
      s'.written + s'.unchanged + s.current.size = s.written + s.unchanged + s'.current.size := by
  have hsize (hnew : s.current.contains u.qualifiedName = false) :
      (s.note u).current.size = s.current.size + 1 := Manifest.size_insert hnew _
  obtain ⟨-, rfl, -⟩ | ⟨hnew, -, rfl, -⟩ | ⟨hnew, -, rfl, -⟩ := emit_cases h
  · exact ⟨rfl, rfl⟩
  · refine ⟨rfl, ?_⟩
    rw [hsize hnew]
    dsimp only [note]
    omega
  · refine ⟨rfl, ?_⟩
    rw [hsize hnew]
    dsimp only [note]
    omega

theorem counts_emitAll (h : s.emitAll d us = (.ok (), s', d')) :
    s'.removed = s.removed ∧
      s'.written + s'.unchanged + s.current.size = s.written + s.unchanged + s'.current.size := by
  induction us generalizing s d with
  | nil =>
      cases h
      exact ⟨rfl, rfl⟩
  | cons u us ih =>
      obtain ⟨s₁, d₁, hemit, hrest⟩ := emitAll_cons h
      obtain ⟨hremoved, hcounts⟩ := counts_emit hemit
      obtain ⟨hremoved', hcounts'⟩ := ih hrest
      exact ⟨hremoved'.trans hremoved, by omega⟩

/-- A run records one unit for each name. -/
theorem size_emitAll (hempty : s.current = .empty) (h : s.emitAll d us = (.ok (), s', d')) :
    s'.current.size = (us.map GeneratedUnit.qualifiedName).dedup.length := by
  have hperm : (s'.current.units.map Prod.fst).Perm (us.map GeneratedUnit.qualifiedName).dedup := by
    refine (List.perm_ext_iff_of_nodup s'.current.nodup_names (List.nodup_dedup _)).mpr ?_
    intro name
    rw [Manifest.mem_names_iff, List.mem_dedup, Manifest.contains, get?_emitAll h, hempty]
    simp [Manifest.empty, Manifest.get?]
  rw [Manifest.size, ← hperm.length_eq, List.length_map]

end Records

/-! ## nothing to do -/

section UpToDate

variable {s s' : FileSink} {d : Disk} {us : List GeneratedUnit}

/-- The last run recorded what this one will have recorded after the units, and the files are there. -/
structure Foreseen (s : FileSink) (d : Disk) (us : List GeneratedUnit) : Prop where
  records : ∀ name, s.previous.get? name =
    (s.current.get? name).or ((us.find? fun u => u.qualifiedName == name).map record)
  files : ∀ name r, s.previous.get? name = some r → d.isFile (s.path r.file) = true

/-- A unit that was foreseen is up to date, or its name was taken before. -/
theorem Foreseen.isUpToDate {u : GeneratedUnit} (h : Foreseen s d (u :: us))
    (hnew : s.current.contains u.qualifiedName = false) : s.isUpToDate d u = true := by
  -- the unit is the first of its name, so its own record is the one of the last run
  have hrecord : s.previous.get? u.qualifiedName = some (record u) := by
    rw [h.records, Manifest.contains_eq_false_iff.mp hnew, List.find?_cons, beq_self_eq_true]
    rfl
  have hfile := h.files _ _ hrecord
  have hthere : d.isFile (s.path u.fileName) = true := hfile
  rw [FileSink.isUpToDate, hrecord, hthere, Bool.and_true]
  simp only [record, beq_self_eq_true, Bool.and_self]

theorem Foreseen.emit {u : GeneratedUnit} (h : Foreseen s d (u :: us)) :
    ∃ s', s.emit d u = .ok (s', d) ∧ s'.written = s.written ∧ Foreseen s' d us := by
  have hforeseen {s' : FileSink} (hemit : s.emit d u = .ok (s', d)) : Foreseen s' d us := by
    obtain ⟨hrun, -⟩ := emit_sameRun hemit
    constructor
    · intro name
      rw [hrun.previous, h.records, get?_emit hemit, Option.or_assoc, List.find?_cons]
      by_cases hname : u.qualifiedName = name
      · simp [hname]
      · simp [hname, beq_false_of_ne hname]
    · intro name r hr
      rw [hrun.previous] at hr
      rw [hrun.path_eq]
      exact h.files name r hr
  by_cases hseen : s.current.contains u.qualifiedName = true
  · have hemit : s.emit d u = .ok (s, d) := by rw [FileSink.emit, if_pos hseen]
    exact ⟨s, hemit, rfl, hforeseen hemit⟩
  · have hkept := h.isUpToDate (Bool.eq_false_iff.mpr hseen)
    have hemit : s.emit d u = .ok ({ s.note u with unchanged := s.unchanged + 1 }, d) := by
      rw [FileSink.emit, if_neg hseen, if_pos hkept]
    exact ⟨_, hemit, rfl, hforeseen hemit⟩

/-- A run takes units that were foreseen without writing one of them. -/
theorem Foreseen.emitAll (h : Foreseen s d us) :
    ∃ s', s.emitAll d us = (.ok (), s', d) ∧ s'.written = s.written := by
  induction us generalizing s with
  | nil => exact ⟨s, rfl, rfl⟩
  | cons u us ih =>
      obtain ⟨s₁, hemit, hwritten, hrest⟩ := h.emit
      obtain ⟨s', htaken, hwritten'⟩ := ih hrest
      exact ⟨s', by rw [FileSink.emitAll, hemit]; exact htaken, hwritten'.trans hwritten⟩

/-! ## the end of a run -/

/-- The module file has its text after it was brought up to date. -/
theorem contents_writeModules_self {d' : Disk} (h : s.writeModules d = .ok d') :
    d'.contents (s.path moduleFile) = some s.moduleText := by
  unfold writeModules at h
  split at h
  · next text hread =>
    split at h
    · next hsame =>
      cases h
      rw [← hsame]
      exact read_eq_ok_iff.mp hread
    · exact contents_write_self h
  · exact contents_write_self h

/-- What a run leaves in its own two files. -/
theorem finish_leaves {d' : Disk} (h : s.finish d = (.ok (), s', d')) :
    d'.contents (s.path moduleFile) = some s.moduleText ∧
      ∃ e : Disk, e.write (s.path Manifest.fileName) s.current.text = .ok d' := by
  obtain ⟨n, d₁, hsweep, -⟩ := isFile_foldl_removeStale (s.previous.stale s.current) s d
  rw [finish, hsweep] at h
  simp only at h
  split at h
  · simp at h
  next d₂ hmodules =>
  split at h
  · simp at h
  next d₃ hsave =>
  cases h
  refine ⟨?_, d₂, hsave⟩
  have hkept : d'.contents (s.path moduleFile) = d₂.contents (s.path moduleFile) :=
    contents_write_other isName_manifest isName_moduleFile (by decide) hsave
  rw [hkept]
  exact contents_writeModules_self hmodules

/-- A run whose records are those of the last one has nothing to remove, and writes its own two files as
they are. -/
theorem finish_upToDate (hprevious : s.previous = s.current)
    (hmodules : d.contents (s.path moduleFile) = some s.moduleText)
    (hmanifest : ∃ e : Disk, e.write (s.path Manifest.fileName) s.current.text = .ok d) :
    ∃ d', s.finish d = (.ok (), s, d') ∧ Alike d d' := by
  obtain ⟨e, hsaved⟩ := hmanifest
  obtain ⟨d', hagain, halike⟩ := write_again hsaved
  refine ⟨d', ?_, halike⟩
  have hlisted : s.writeModules d = .ok d := by
    rw [writeModules, read_eq_ok_iff.mpr hmodules]
    exact if_pos rfl
  have hsame : { s with previous := s.current } = s := by
    cases s
    cases hprevious
    rfl
  rw [finish, hprevious, Manifest.stale_self, List.foldl_nil]
  simp only [hlisted, Manifest.save, hagain, hsame]

end UpToDate

/-! ## a run and the next -/

/-- A run that starts does so in a folder that can be made again without touching the disk. -/
theorem start_eq_ok {d d' : Disk} {folder : String} {s : FileSink}
    (h : start d folder = (.ok s, d')) :
    s = opened d' folder ∧ d.makeFolders folder = (.ok (), d') := by
  unfold start at h
  split at h
  · simp at h
  split at h
  · next hmade =>
    cases h
    exact ⟨rfl, hmade⟩
  · simp at h

/-- A run without a predecessor leaves its records to the next one, with the files in place. -/
theorem foreseen_opened {d d₁ d₂ : Disk} {folder : String} {s s' : FileSink}
    {us : List GeneratedUnit} (hfresh : Manifest.ofFolder d folder = .empty)
    (hemit : (opened d folder).emitAll d us = (.ok (), s, d₁))
    (hfinish : s.finish d₁ = (.ok (), s', d₂)) :
    (opened d₂ folder).previous = s.current ∧ Foreseen (opened d₂ folder) d₂ us := by
  obtain ⟨hrun, -⟩ := emitAll_sameRun hemit
  obtain ⟨-, -, hread, hfile⟩ := finish_cases hfinish
  simp only [hrun.path_eq, path_opened] at hread hfile
  have hrecords : (opened d₂ folder).previous = s.current := Manifest.ofFolder_of_read hread
  refine ⟨hrecords, ?_, ?_⟩
  · intro name
    rw [hrecords, get?_emitAll hemit]
    rfl
  · intro name r hr
    have hbacked : Backed s d₁ := emitAll_backed hemit fun name r hr => nomatch hr
    rw [hrecords] at hr
    have hthere := hbacked name r hr
    rw [hrun.path_eq, path_opened] at hthere
    -- nothing is stale for a run that has found no manifest
    have hstale : s.previous.stale s.current = [] := by
      rw [hrun.previous, opened, hfresh]
      rfl
    rw [path_opened, hfile, hstale]
    exact .inr (.inr ⟨by simp, hthere⟩)

/-- **A run that is repeated** does nothing. A run starts on any disk, finds no manifest in its folder,
takes its units and ends; the next run with the same units, if it starts, ends too. It has written no
unit, removed no file, and left each unit alone, counted once for its name. No folder and no file of the
disk is another one than before. -/
theorem run_again {d d₁ d₂ d₃ : Disk} {folder : String} {s s' t : FileSink} {us : List GeneratedUnit}
    (hstart : start d folder = (.ok s, d₁)) (hfresh : Manifest.ofFolder d₁ folder = .empty)
    (hrun : s.run d₁ us = (.ok (), s', d₂)) (hagain : start d₂ folder = (.ok t, d₃)) :
    ∃ t' d₄, t.run d₃ us = (.ok (), t', d₄) ∧ t'.written = 0 ∧ t'.removed = 0 ∧
      t'.unchanged = (us.map GeneratedUnit.qualifiedName).dedup.length ∧ Alike d₂ d₄ := by
  obtain ⟨rfl, hmade⟩ := start_eq_ok hstart
  obtain ⟨s₁, e, hemit, hfinish⟩ := run_cases hrun
  obtain ⟨hsame, hfolders⟩ := emitAll_sameRun hemit
  obtain ⟨-, hfolders', -⟩ := finish_cases hfinish
  obtain ⟨hmodules, hmanifest⟩ := finish_leaves hfinish
  -- the next run finds the folder as it was left
  obtain ⟨rfl, hmade'⟩ := start_eq_ok hagain
  obtain rfl : d₂ = d₃ := by
    rw [makeFolders_again hmade (hfolders.trans hfolders')] at hmade'
    exact congrArg Prod.snd hmade'
  obtain ⟨hrecords, hforeseen⟩ := foreseen_opened hfresh hemit hfinish
  obtain ⟨t₁, htaken, hwritten⟩ := hforeseen.emitAll
  obtain ⟨hrecorded, hlisted⟩ := emitAll_sameRecords hemit htaken ⟨rfl, rfl⟩
  obtain ⟨hrun', -⟩ := emitAll_sameRun htaken
  obtain ⟨hremoved, hcounts⟩ := counts_emitAll htaken
  have hpath (file : String) : t₁.path file = s₁.path file := by
    rw [hrun'.path_eq, hsame.path_eq, path_opened, path_opened]
  have htext : t₁.moduleText = s₁.moduleText := by rw [moduleText, hlisted, moduleText]
  have hend : ∃ d₄, t₁.finish d₂ = (.ok (), t₁, d₄) ∧ Alike d₂ d₄ := by
    apply finish_upToDate
    · rw [hrun'.previous, hrecords, hrecorded]
    · rw [hpath, htext]
      exact hmodules
    · rw [hpath, hrecorded]
      exact hmanifest
  obtain ⟨d₄, hended, halike⟩ := hend
  refine ⟨t₁, d₄, ?_, hwritten, hremoved, ?_, halike⟩
  · rw [run, htaken]
    exact hended
  · rw [← size_emitAll rfl htaken]
    have hzero : (opened d₂ folder).current.size = 0 := rfl
    have hnone : (opened d₂ folder).unchanged = 0 := rfl
    omega

/-- Two units of one name, and one of another name that goes into the same file. -/
def sharedUnits : List GeneratedUnit :=
  [userTable "// a\n", userTable "// b\n",
    ⟨"Account", "crate::generated::Account", "user", .table, "// c\n"⟩]

/-- In a folder that was missing they are taken a second time, and count as two. -/
theorem run_again_shared :
    ∃ s d₁ s' d₂ t, start {} "out" = (.ok s, d₁) ∧ Manifest.ofFolder d₁ "out" = .empty ∧
      s.run d₁ sharedUnits = (.ok (), s', d₂) ∧ start d₂ "out" = (.ok t, d₂) ∧
      ∃ t' d₄, t.run d₂ sharedUnits = (.ok (), t', d₄) ∧ t'.written = 0 ∧ t'.removed = 0 ∧
        t'.unchanged = 2 ∧ Alike d₂ d₄ := by
  have hstart : start {} "out" = (.ok (opened emptyFolder "out"), emptyFolder) := by decide +kernel
  have hfresh : Manifest.ofFolder emptyFolder "out" = .empty := by decide +kernel
  have hruns : ((opened emptyFolder "out").run emptyFolder sharedUnits).1.toBool = true := by
    decide +kernel
  obtain ⟨⟨result, s', d₂⟩, hrun⟩ :
      ∃ ended, (opened emptyFolder "out").run emptyFolder sharedUnits = ended := ⟨_, rfl⟩
  rw [hrun] at hruns
  obtain rfl : result = .ok () := by
    cases result with
    | ok => rfl
    | error => contradiction
  have hfolder : d₂.isFile "out" = false ∧ d₂.isFolder "out" = true := by
    obtain rfl : ((opened emptyFolder "out").run emptyFolder sharedUnits).2.2 = d₂ := by rw [hrun]
    decide +kernel
  have hagain : start d₂ "out" = (.ok (opened d₂ "out"), d₂) := by
    rw [start, hfolder.1, if_neg Bool.false_ne_true, makeFolders_of_isFolder hfolder.2]
    rfl
  exact ⟨_, _, s', d₂, _, hstart, hfresh, hrun, hagain, run_again hstart hfresh hrun hagain⟩

end FileSink

end DaoForge
