import DaoForge.Disk.Basic

/-!
# DaoForge.Proofs.Disk

A disk seen through paths: `place? d p` is the location that `p` leads to, `contents d p` the text of
the file there.

1. Where a path leads depends on the folders alone (`place?_congr`), which files do not change;
2. writing or removing a file changes the contents of the paths that lead to its place, and of no
   others (`contents_write`, `contents_remove`).
-/

namespace DaoForge.Disk

/-! ## places -/

/-- The disks have the same folders and the same working folder. -/
def SameFolders (d e : Disk) : Prop := d.folders = e.folders ∧ d.here = e.here

theorem SameFolders.refl (d : Disk) : SameFolders d d := ⟨rfl, rfl⟩

theorem SameFolders.trans {d e f : Disk} (h : SameFolders d e) (h' : SameFolders e f) :
    SameFolders d f := ⟨h.1.trans h'.1, h.2.trans h'.2⟩

theorem sameFolders_put (d : Disk) (l : Location) (text : String) : SameFolders d (d.put l text) :=
  ⟨rfl, rfl⟩

theorem sameFolders_removeAt (d : Disk) (l : Location) : SameFolders d (d.removeAt l) := ⟨rfl, rfl⟩

/-- The location that a path leads to. -/
def place? (d : Disk) (path : String) : Option Location := (d.locate path).toOption

theorem place?_eq_some_iff {d : Disk} {path : String} {l : Location} :
    d.place? path = some l ↔ d.locate path = .ok l := by
  unfold place?
  cases d.locate path <;> simp [Except.toOption]

/-- The paths lead to one place. -/
def SamePlace (d : Disk) (p q : String) : Prop := ∃ l, d.place? p = some l ∧ d.place? q = some l

theorem isFolderAt_congr {d e : Disk} (h : SameFolders d e) (l : Location) :
    d.isFolderAt l = e.isFolderAt l := by
  rw [isFolderAt, isFolderAt, h.1]

/-- Names are followed alike through the same folders; only errors may differ. -/
theorem follow_congr {d e : Disk} (h : SameFolders d e) (l : Location) (ns : List String) :
    (d.follow l ns).toOption = (e.follow l ns).toOption := by
  induction ns generalizing l with
  | nil => rfl
  | cons name rest ih =>
      simp only [follow, isFolderAt_congr h]
      split
      · exact ih l
      split
      · exact ih l.dropLast
      split
      · rfl
      split
      · exact ih _
      · rfl

theorem place?_congr {d e : Disk} (h : SameFolders d e) (path : String) :
    d.place? path = e.place? path := by
  have hstart : d.start path = e.start path := by rw [start, start, h.2]
  unfold place? locate
  cases checkPath path with
  | error cause => rfl
  | ok => rw [hstart]; exact follow_congr h _ _

theorem samePlace_congr {d e : Disk} (h : SameFolders d e) (p q : String) :
    SamePlace d p q ↔ SamePlace e p q := by
  simp only [SamePlace, place?_congr h]

/-! ## contents -/

/-- The text of the file that a path leads to. -/
def contents (d : Disk) (path : String) : Option String := (d.place? path).bind d.textAt?

theorem isFile_eq_isSome_contents (d : Disk) (path : String) :
    d.isFile path = (d.contents path).isSome := by
  unfold isFile contents place?
  cases d.locate path <;> rfl

theorem read_eq_ok_iff {d : Disk} {path text : String} :
    d.read path = .ok text ↔ d.contents path = some text := by
  unfold read contents place?
  cases h : d.locate path with
  | error cause => simp [bind, Except.bind, Except.toOption]
  | ok l => cases htext : d.textAt? l <;> simp [bind, Except.bind, Except.toOption, htext]

/-- A file is written where its path leads. -/
theorem write_eq_ok {d d' : Disk} {path text : String} (h : d.write path text = .ok d') :
    ∃ l, d.place? path = some l ∧ d' = d.put l text := by
  unfold write at h
  cases hplace : d.locate path with
  | error cause => simp [hplace, bind, Except.bind] at h
  | ok l =>
      refine ⟨l, place?_eq_some_iff.mpr hplace, ?_⟩
      by_cases hfolder : d.isFolderAt l = true <;>
        simp [hplace, hfolder, bind, Except.bind] at h
      exact h.symm

theorem sameFolders_write {d d' : Disk} {path text : String} (h : d.write path text = .ok d') :
    SameFolders d d' := by
  obtain ⟨l, -, rfl⟩ := write_eq_ok h
  exact sameFolders_put d l text

theorem sameFolders_remove (d : Disk) (path : String) : SameFolders d (d.remove path) := by
  unfold remove
  split
  · exact sameFolders_removeAt d _
  · exact .refl d

/-- Writing a file changes the contents of the paths that lead to its place. -/
theorem contents_write {d d' : Disk} {path text : String} (h : d.write path text = .ok d')
    (other : String) [Decidable (SamePlace d path other)] :
    d'.contents other = if SamePlace d path other then some text else d.contents other := by
  obtain ⟨l, hplace, rfl⟩ := write_eq_ok h
  have hother := place?_congr (sameFolders_put d l text) other
  unfold contents
  rw [← hother]
  cases hl : d.place? other with
  | none => simp [SamePlace, hl]
  | some l' => simp [SamePlace, hl, hplace, textAt?_put, eq_comm]

/-- Removing a file takes it away from the paths that lead to its place. -/
theorem contents_remove (d : Disk) (path other : String) [Decidable (SamePlace d path other)] :
    (d.remove path).contents other = if SamePlace d path other then none else d.contents other := by
  have hother := place?_congr (sameFolders_remove d path) other
  unfold contents
  rw [← hother]
  cases hl : d.place? other with
  | none => simp [SamePlace, hl]
  | some l' =>
      cases hplace : d.locate path with
      | error cause => simp [remove, SamePlace, place?, hplace, Except.toOption]
      | ok l =>
          have hpath := place?_eq_some_iff.mpr hplace
          simp [remove, SamePlace, hl, hpath, hplace, textAt?_removeAt]

/-- A file that was written is there. -/
theorem contents_write_self {d d' : Disk} {path text : String} (h : d.write path text = .ok d') :
    d'.contents path = some text := by
  classical
  obtain ⟨l, hplace, -⟩ := write_eq_ok h
  rw [contents_write h, if_pos ⟨l, hplace, hplace⟩]

/-! ## files -/

theorem isFile_iff {d : Disk} {path : String} :
    d.isFile path = true ↔ ∃ text, d.contents path = some text := by
  rw [isFile_eq_isSome_contents, Option.isSome_iff_exists]

/-- Paths that lead to one place lead to one file. -/
theorem SamePlace.contents_eq {d : Disk} {p q : String} (h : SamePlace d p q) :
    d.contents p = d.contents q := by
  obtain ⟨l, hp, hq⟩ := h
  rw [contents, contents, hp, hq]

theorem SamePlace.isFile_eq {d : Disk} {p q : String} (h : SamePlace d p q) :
    d.isFile p = d.isFile q := by
  rw [isFile_eq_isSome_contents, isFile_eq_isSome_contents, h.contents_eq]

theorem isFile_write_iff {d d' : Disk} {path text other : String}
    (h : d.write path text = .ok d') :
    d'.isFile other = true ↔ SamePlace d path other ∨ d.isFile other = true := by
  classical
  rw [isFile_eq_isSome_contents, isFile_eq_isSome_contents, contents_write h]
  by_cases hsame : SamePlace d path other <;> simp [hsame]

theorem isFile_remove_iff {d : Disk} {path other : String} :
    (d.remove path).isFile other = true ↔ ¬ SamePlace d path other ∧ d.isFile other = true := by
  classical
  rw [isFile_eq_isSome_contents, isFile_eq_isSome_contents, contents_remove]
  by_cases hsame : SamePlace d path other <;> simp [hsame]

end DaoForge.Disk
