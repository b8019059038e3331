import DaoForge.Proofs.Disk
import DaoForge.Proofs.Except

/-!
# DaoForge.Proofs.Disk.Folder

Files in a folder.

1. `follow_cons_iff`: the ways of a disk, name by name (`Steps`);
2. `not_samePlace_join`: files of different names in a folder have different places;
3. `makeFolders_of_isFolder`: a folder that is there is left as it is;
4. `isFolder_of_makeFolders`: a folder that was to be created is there.
-/

namespace DaoForge.Disk

/-! ## names on a way -/

/-- From a location a name leads to another one. A name that is not the last on its way must lead to a
folder. -/
inductive Steps (d : Disk) (l : Location) (name : String) (isLast : Prop) : Location → Prop
  | stays (h : staysAt name = true) : Steps d l name isLast l
  | up (h : name = "..") : Steps d l name isLast l.dropLast
  | inward (hmoves : staysAt name = false) (hinward : name ≠ "..") (hshort : name.utf8ByteSize ≤ 255)
      (hfolder : isLast ∨ d.isFolderAt (l ++ [name]) = true) : Steps d l name isLast (l ++ [name])

theorem follow_cons_iff {d : Disk} {l m : Location} {name : String} {rest : List String} :
    d.follow l (name :: rest) = .ok m ↔
      ∃ next, d.Steps l name (rest = []) next ∧ d.follow next rest = .ok m := by
  rw [follow]
  constructor
  · intro h
    split at h
    · next hstays => exact ⟨l, .stays hstays, h⟩
    next hmoves =>
    split at h
    · next hup => exact ⟨_, .up hup, h⟩
    next hinward =>
    split at h
    · contradiction
    next hshort =>
    split at h
    · next hpass =>
      rw [Bool.or_eq_true, List.isEmpty_iff] at hpass
      exact ⟨_, .inward (Bool.eq_false_iff.mpr hmoves) hinward (Nat.le_of_not_lt hshort) hpass, h⟩
    · contradiction
  · rintro ⟨_, hstep, h⟩
    cases hstep with
    | stays hstays =>
        rw [if_pos hstays]
        exact h
    | up hup =>
        subst hup
        exact h
    | inward hmoves hinward hshort hpass =>
        rw [← List.isEmpty_iff, ← Bool.or_eq_true] at hpass
        rw [hmoves, if_neg Bool.false_ne_true, if_neg hinward, if_neg (Nat.not_lt.mpr hshort),
          if_pos hpass]
        exact h

theorem locate_eq_ok {d : Disk} {path : String} {l : Location} (h : d.locate path = .ok l) :
    checkPath path = .ok () ∧ d.follow (d.start path) (names path) = .ok l := by
  obtain ⟨_, hcheck, hfollow⟩ := bind_eq_ok h
  exact ⟨hcheck, hfollow⟩

theorem follow_nil_iff {d : Disk} {l m : Location} : d.follow l [] = .ok m ↔ l = m := by
  rw [follow, Except.ok.injEq]

/-! ## files in a folder -/

/-- A name that leads to a file in a folder: it has no slash, and is none of the names that lead nowhere
else or go up. -/
structure IsName (name : String) : Prop where
  flat : '/' ∉ name.toList
  moves : staysAt name = false
  inward : name ≠ ".."

theorem namesFrom_append (current xs ys : List Char) :
    namesFrom current (xs ++ '/' :: ys) = namesFrom current xs ++ namesFrom [] ys := by
  induction xs generalizing current with
  | nil => simp [namesFrom]
  | cons c xs ih =>
      rw [List.cons_append, namesFrom, namesFrom]
      split
      · rw [ih, List.cons_append]
      · exact ih (c :: current)

theorem namesFrom_flat {cs : List Char} (h : '/' ∉ cs) (current : List Char) :
    namesFrom current cs = [current.reverse ++ cs] := by
  induction cs generalizing current with
  | nil => rw [namesFrom, List.append_nil]
  | cons c cs ih =>
      rw [List.mem_cons, not_or] at h
      rw [namesFrom, if_neg fun hc => h.1 hc.symm, ih h.2, List.reverse_cons, List.append_assoc,
        List.singleton_append]

/-- A file in a folder is named last on the way to it. -/
theorem names_join {name : String} (h : IsName name) (folder : String) :
    ∃ parts, names (join folder name) = parts ++ [name] := by
  have hname : (namesFrom [] name.toList).map String.ofList = [name] := by
    rw [namesFrom_flat h.flat]
    simp
  have hsplit (cs : List Char) :
      (namesFrom [] (cs ++ '/' :: name.toList)).map String.ofList =
        (namesFrom [] cs).map String.ofList ++ [name] := by
    rw [namesFrom_append, List.map_append, hname]
  have habsolute : isAbsolute name = false := by
    rw [isAbsolute, beq_eq_false_iff_ne]
    exact fun hhead => h.flat (List.mem_of_mem_head? (by rw [hhead]; rfl))
  unfold join names
  rw [habsolute, Bool.false_or]
  split
  · exact ⟨[], hname⟩
  split
  · next hlast =>
    obtain ⟨cs, hcs⟩ := List.getLast?_eq_some_iff.mp hlast
    refine ⟨(namesFrom [] cs).map String.ofList, ?_⟩
    rw [String.toList_append, hcs, List.append_assoc, List.singleton_append]
    exact hsplit cs
  · refine ⟨(namesFrom [] folder.toList).map String.ofList, ?_⟩
    have htext : (folder ++ "/" ++ name).toList = folder.toList ++ '/' :: name.toList := by
      simp
    rw [htext]
    exact hsplit folder.toList

theorem getLast?_of_follow {d : Disk} {name : String} (h : IsName name) (parts : List String)
    {l m : Location} (hfollow : d.follow l (parts ++ [name]) = .ok m) : m.getLast? = some name := by
  induction parts generalizing l with
  | nil =>
      obtain ⟨next, hstep, hnext⟩ := follow_cons_iff.mp hfollow
      rw [follow_nil_iff] at hnext
      subst hnext
      cases hstep with
      | stays hstays => exact absurd hstays (Bool.eq_false_iff.mp h.moves)
      | up hup => exact absurd hup h.inward
      | inward => exact List.getLast?_concat
  | cons first rest ih =>
      obtain ⟨next, -, hnext⟩ := follow_cons_iff.mp hfollow
      exact ih hnext

/-- Files of different names in a folder have different places. -/
theorem not_samePlace_join {d : Disk} {folder name other : String} (hname : IsName name)
    (hother : IsName other) (h : name ≠ other) :
    ¬ SamePlace d (join folder name) (join folder other) := by
  have hlast {n : String} (hn : IsName n) {l : Location} (hl : d.place? (join folder n) = some l) :
      l.getLast? = some n := by
    obtain ⟨parts, hparts⟩ := names_join hn folder
    have hfollow := (locate_eq_ok (place?_eq_some_iff.mp hl)).2
    rw [hparts] at hfollow
    exact getLast?_of_follow hn parts hfollow
  rintro ⟨l, hl, hl'⟩
  exact h (Option.some.inj ((hlast hname hl).symm.trans (hlast hother hl')))

section Others

variable {d d' : Disk} {folder name other text : String} (hname : IsName name) (hother : IsName other)
  (hne : name ≠ other)

include hname hother hne

theorem contents_write_other (h : d.write (join folder name) text = .ok d') :
    d'.contents (join folder other) = d.contents (join folder other) := by
  classical
  rw [contents_write h, if_neg (not_samePlace_join hname hother hne)]

theorem contents_remove_other :
    (d.remove (join folder name)).contents (join folder other) = d.contents (join folder other) := by
  classical
  rw [contents_remove, if_neg (not_samePlace_join hname hother hne)]

end Others

/-! ## folders that exist -/

/-- Without the empty names a path leads where it led. -/
theorem follow_filter {d : Disk} {parts : List String} {l m : Location}
    (h : d.follow l parts = .ok m) : d.follow l (parts.filter (· != "")) = .ok m := by
  induction parts generalizing l with
  | nil => exact h
  | cons name rest ih =>
      by_cases hname : name = ""
      · subst hname
        exact ih h
      rw [List.filter_cons_of_pos (by simpa using hname), follow_cons_iff]
      obtain ⟨next, hstep, hnext⟩ := follow_cons_iff.mp h
      refine ⟨next, ?_, ih hnext⟩
      cases hstep with
      | stays hstays => exact .stays hstays
      | up hup => exact .up hup
      | inward hmoves hinward hshort hpass =>
          refine .inward hmoves hinward hshort (hpass.imp_left ?_)
          rintro rfl
          rfl

/-- The way to a place leads through the folder around it. -/
theorem follow_around {d : Disk} {parts : List String} {last : String} {l m : Location}
    (h : d.follow l (parts ++ [last]) = .ok m) :
    ∃ around, d.follow l (parts ++ ["."]) = .ok around ∧
      (staysAt last = false → last ≠ ".." → m = around ++ [last]) := by
  induction parts generalizing l with
  | nil =>
      refine ⟨l, rfl, fun hmoves hinward => ?_⟩
      obtain ⟨next, hstep, hnext⟩ := follow_cons_iff.mp h
      rw [follow_nil_iff] at hnext
      subst hnext
      cases hstep with
      | stays hstays => exact absurd hstays (Bool.eq_false_iff.mp hmoves)
      | up hup => exact absurd hup hinward
      | inward => rfl
  | cons name rest ih =>
      obtain ⟨next, hstep, hnext⟩ := follow_cons_iff.mp h
      obtain ⟨around, haround, hlast⟩ := ih hnext
      refine ⟨around, follow_cons_iff.mpr ⟨next, ?_, haround⟩, hlast⟩
      cases hstep with
      | stays hstays => exact .stays hstays
      | up hup => exact .up hup
      | inward hmoves hinward hshort hpass =>
          exact .inward hmoves hinward hshort (hpass.imp_left fun hnil => by simp at hnil)

/-- The place of a path that leads to a folder. -/
theorem isFolder_iff {d : Disk} {path : String} :
    d.isFolder path = true ↔ ∃ l, d.place? path = some l ∧ d.isFolderAt l = true := by
  unfold isFolder place?
  cases d.locate path with
  | ok l => simp [Except.toOption]
  | error cause => simp [Except.toOption]

theorem isFolder_congr {d e : Disk} (h : SameFolders d e) (path : String) :
    d.isFolder path = e.isFolder path := by
  rw [Bool.eq_iff_iff, isFolder_iff, isFolder_iff, place?_congr h]
  simp only [isFolderAt_congr h]

/-- A folder that is there is not created, and nothing around it is missing. -/
theorem makeFolder_of_isFolder {d : Disk} {path : String} (h : d.isFolder path = true)
    (hpath : path.isEmpty = false) :
    ∃ cause, d.makeFolder path = .error cause ∧ cause ≠ .notFound := by
  obtain ⟨l, hplace, hfolder⟩ := isFolder_iff.mp h
  obtain ⟨hcheck, hfollow⟩ := locate_eq_ok (place?_eq_some_iff.mp hplace)
  have hparts := follow_filter hfollow
  unfold makeFolder
  rw [hcheck]
  simp only [bind, Except.bind]
  split
  · exact ⟨.exists, by rw [hpath]; rfl, by decide⟩
  · next last hlast =>
    obtain ⟨outer, houter⟩ := List.getLast?_eq_some_iff.mp hlast
    rw [houter] at hparts ⊢
    obtain ⟨around, haround, hwhere⟩ := follow_around hparts
    rw [List.dropLast_concat, haround]
    simp only
    split
    · exact ⟨.exists, rfl, by decide⟩
    next hnamed =>
    split
    · exact ⟨.nameTooLong, rfl, by decide⟩
    -- the last name leads to the folder, so it is found to exist
    have hstays : staysAt last = false ∧ last ≠ ".." := by
      have hmem : last ∈ (names path).filter (· != "") := houter ▸ by simp
      have hnonempty : last ≠ "" := by simpa using (List.mem_filter.mp hmem).2
      simp only [Bool.or_eq_true, decide_eq_true_eq, not_or] at hnamed
      exact ⟨by simp [staysAt, hnonempty, hnamed.1], hnamed.2⟩
    have hthere : d.isFolderAt (around ++ [last]) = true := by
      rw [← hwhere hstays.1 hstays.2]
      exact hfolder
    rw [hthere, Bool.true_or, if_pos rfl]
    exact ⟨.exists, rfl, by decide⟩

/-- Folders that are there are left as they are. -/
theorem makeFolders_of_isFolder {d : Disk} {path : String} (h : d.isFolder path = true) :
    d.makeFolders path = (.ok (), d) := by
  unfold makeFolders
  split
  · rfl
  next hpath =>
  obtain ⟨cause, hcause, hfound⟩ := makeFolder_of_isFolder h (Bool.eq_false_iff.mpr hpath)
  rw [makeNested, hcause]
  cases cause with
  | notFound => contradiction
  | _ => simp [settled, h]

/-! ## folders that are created -/

/-- A way stays open when folders are added. -/
theorem follow_mono {d e : Disk} (hfolders : ∀ l, d.isFolderAt l = true → e.isFolderAt l = true)
    {parts : List String} {l m : Location} (h : d.follow l parts = .ok m) :
    e.follow l parts = .ok m := by
  induction parts generalizing l with
  | nil => exact h
  | cons name rest ih =>
      obtain ⟨next, hstep, hnext⟩ := follow_cons_iff.mp h
      refine follow_cons_iff.mpr ⟨next, ?_, ih hnext⟩
      cases hstep with
      | stays hstays => exact .stays hstays
      | up hup => exact .up hup
      | inward hmoves hinward hshort hpass =>
          exact .inward hmoves hinward hshort (hpass.imp_right (hfolders _))

/-- The way to a folder may also be written with empty names. -/
theorem follow_of_filter {d : Disk} {parts : List String} {l m : Location}
    (hfolder : d.isFolderAt m = true) (h : d.follow l (parts.filter (· != "")) = .ok m) :
    d.follow l parts = .ok m := by
  induction parts generalizing l with
  | nil => exact h
  | cons name rest ih =>
      by_cases hname : name = ""
      · subst hname
        exact ih h
      rw [List.filter_cons_of_pos (by simpa using hname), follow_cons_iff] at h
      obtain ⟨next, hstep, hnext⟩ := h
      refine follow_cons_iff.mpr ⟨next, ?_, ih hnext⟩
      cases hstep with
      | stays hstays => exact .stays hstays
      | up hup => exact .up hup
      | inward hmoves hinward hshort hpass =>
          refine .inward hmoves hinward hshort (.inr ?_)
          rcases hpass with hlast | hthere
          · rw [hlast, follow_nil_iff] at hnext
            exact hnext ▸ hfolder
          · exact hthere

/-- From the folder around it the last name leads inward. -/
theorem follow_inward {d : Disk} {parts : List String} {last : String} {l around : Location}
    (h : d.follow l (parts ++ ["."]) = .ok around) (hmoves : staysAt last = false)
    (hinward : last ≠ "..") (hshort : last.utf8ByteSize ≤ 255) :
    d.follow l (parts ++ [last]) = .ok (around ++ [last]) := by
  induction parts generalizing l with
  | nil =>
      obtain rfl : l = around := Except.ok.inj h
      exact follow_cons_iff.mpr ⟨_, .inward hmoves hinward hshort (.inl rfl), rfl⟩
  | cons name rest ih =>
      obtain ⟨next, hstep, hnext⟩ := follow_cons_iff.mp h
      refine follow_cons_iff.mpr ⟨next, ?_, ih hnext⟩
      cases hstep with
      | stays hstays => exact .stays hstays
      | up hup => exact .up hup
      | inward hmoves hinward hshort hpass =>
          exact .inward hmoves hinward hshort (hpass.imp_left fun hnil => by simp at hnil)

/-- A folder that was created is there. -/
theorem isFolder_of_makeFolder {d d' : Disk} {path : String} (h : d.makeFolder path = .ok d') :
    d'.isFolder path = true := by
  unfold makeFolder at h
  obtain ⟨_, hcheck, h⟩ := bind_eq_ok h
  dsimp only at h
  split at h
  · cases h
  next last hlast =>
  obtain ⟨l, hfollow, h⟩ := bind_eq_ok h
  split at h
  · contradiction
  next hnamed =>
  split at h
  · contradiction
  next hshort =>
  split at h
  · contradiction
  cases h
  obtain ⟨outer, houter⟩ := List.getLast?_eq_some_iff.mp hlast
  have hmoves : staysAt last = false ∧ last ≠ ".." := by
    have hmem : last ∈ (names path).filter (· != "") := houter ▸ by simp
    have hnonempty : last ≠ "" := by simpa using (List.mem_filter.mp hmem).2
    simp only [Bool.or_eq_true, decide_eq_true_eq, not_or] at hnamed
    exact ⟨by simp [staysAt, hnonempty, hnamed.1], hnamed.2⟩
  rw [houter, List.dropLast_concat] at hfollow
  rw [isFolder_iff]
  refine ⟨l ++ [last], ?_, by simp [isFolderAt]⟩
  have hway : d.follow (d.start path) ((names path).filter (· != "")) = .ok (l ++ [last]) := by
    rw [houter]
    exact follow_inward hfollow hmoves.1 hmoves.2 (Nat.le_of_not_lt hshort)
  rw [place?_eq_some_iff, locate, hcheck]
  refine follow_of_filter (by simp [isFolderAt]) (follow_mono (fun m hm => ?_) hway)
  rw [isFolderAt, Bool.or_eq_true] at hm ⊢
  refine hm.imp_right fun hthere => ?_
  rw [List.contains_cons, hthere, Bool.or_true]

/-- Every folder that was to be created is there; the empty path stands for none. -/
theorem isFolder_of_makeFolders {d d' : Disk} {path : String} (hpath : path.isEmpty = false)
    (h : d.makeFolders path = (.ok (), d')) : d'.isFolder path = true := by
  have hsettled (e : Disk) (made : Except IoError Disk)
      (hmade : ∀ e', made = .ok e' → e'.isFolder path = true)
      (h : e.settled path made = (.ok (), d')) : d'.isFolder path = true := by
    cases made with
    | ok e' =>
        obtain rfl : e' = d' := congrArg Prod.snd h
        exact hmade e' rfl
    | error cause =>
        rw [settled] at h
        obtain ⟨hthere, rfl⟩ := Prod.mk.inj h
        by_contra hnot
        rw [if_neg hnot] at hthere
        contradiction
  rw [makeFolders, hpath, if_neg Bool.false_ne_true, makeNested] at h
  split at h
  · next hmade =>
    cases h
    exact isFolder_of_makeFolder hmade
  · split at h
    · cases h
    · exact hsettled _ _ (fun _ => isFolder_of_makeFolder) h
  · exact hsettled _ _ (fun _ herror => by contradiction) h

/-- Folders that were created once need not be created again. -/
theorem makeFolders_again {d d' e : Disk} {path : String} (h : d.makeFolders path = (.ok (), d'))
    (hfolders : SameFolders d' e) : e.makeFolders path = (.ok (), e) := by
  by_cases hpath : path.isEmpty = true
  · rw [makeFolders, if_pos hpath]
  · have hthere := isFolder_of_makeFolders (Bool.eq_false_iff.mpr hpath) h
    exact makeFolders_of_isFolder ((isFolder_congr hfolders path).symm.trans hthere)

end DaoForge.Disk
