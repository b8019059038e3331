import DaoForge.Resolve.Checked
import Mathlib.Data.List.Forall2

/-!
# DaoForge.Proofs.Resolve.Checked

Checks, by what they found.

1. `Checked.Builds`: a check has a value and found no problem; `builds_bind` takes a check apart, and
   `builds_all` one of several;
2. `Checked.Decides`: a check does not give up without a problem. If none of several does, their values
   are those of all of them (`builds_all_forall₂`), and a check that fails lists problems
   (`Decides.toExcept_ne_nil`);
3. `Checked.Finds`: every problem that a check found is of one kind, as are those of its parts;
4. `Checked.Stops`: a check comes to a value, or stops at its first problem.
-/

namespace DaoForge

/-! ## checks without problems -/

namespace Checked

variable {ι α β : Type}

theorem eq_nil_of_demand {found : List ι} {u : Unit} (h : (demand found).value? = some u) :
    found = [] := by
  simpa [demand] using h

/-- The check has this value, and no problem was found. -/
structure Builds (c : Checked ι α) (a : α) : Prop where
  value : c.value? = some a
  clean : c.found = []

theorem builds_bind {c : Checked ι α} {f : α → Checked ι β} {b : β} (h : (c >>= f).Builds b) :
    ∃ a, c.Builds a ∧ (f a).Builds b := by
  obtain ⟨hvalue, hclean⟩ := h
  rw [bind_eq] at hvalue hclean
  cases hc : c.value? with
  | none =>
      rw [hc] at hvalue
      contradiction
  | some a =>
      rw [hc] at hvalue hclean
      obtain ⟨hfirst, hrest⟩ := List.append_eq_nil_iff.mp hclean
      exact ⟨a, ⟨hc, hfirst⟩, ⟨hvalue, hrest⟩⟩

/-- Of checks side by side, each value was built by one of them. -/
theorem builds_all {checks : List (Checked ι α)} {as : List α} (h : (all checks).Builds as) {a : α}
    (ha : a ∈ as) : ∃ c ∈ checks, c.Builds a := by
  obtain ⟨hvalue, hclean⟩ := h
  cases hvalue
  obtain ⟨c, hc, hvalue⟩ := List.mem_filterMap.mp ha
  exact ⟨c, hc, hvalue, List.flatMap_eq_nil_iff.mp hclean c hc⟩

theorem builds_of_toExcept {c : Checked ι α} {a : α} (h : c.toExcept = .ok a) : c.Builds a := by
  obtain ⟨hvalue, hclean⟩ := toExcept_eq_ok_iff.mp h
  exact ⟨hvalue, hclean⟩

/-- A check fails with what it found. -/
theorem found_of_toExcept {c : Checked ι α} {found : List ι} (h : c.toExcept = .error found) :
    c.found = found := by
  unfold toExcept at h
  split at h
  · contradiction
  · exact Except.error.inj h

theorem not_builds_fail {found : List ι} {a : α} : ¬ (fail found : Checked ι α).Builds a :=
  fun h => nomatch h.value

end Checked

/-! ## checks that miss nothing -/

namespace Checked

variable {ι κ α β : Type}

/-- Without a problem there is a value. -/
def Decides (c : Checked ι α) : Prop := c.found = [] → ∃ a, c.value? = some a

theorem decides_pure (a : α) : (pure a : Checked ι α).Decides := fun _ => ⟨a, rfl⟩

theorem decides_report (found : List ι) : (report found).Decides := fun _ => ⟨(), rfl⟩

theorem decides_demand (found : List ι) : (demand found).Decides := by
  intro hfound
  have hnone : found = [] := hfound
  exact ⟨(), if_pos (List.isEmpty_iff.mpr hnone)⟩

theorem decides_all (checks : List (Checked ι α)) : (all checks).Decides := fun _ => ⟨_, rfl⟩

theorem decides_fail {found : List ι} (h : found ≠ []) : (fail found : Checked ι α).Decides :=
  fun hfound => absurd hfound h

theorem decides_ofOption (problem : ι) (o : Option α) : (ofOption problem o).Decides := by
  cases o with
  | none => exact decides_fail (List.cons_ne_nil _ _)
  | some a => exact decides_pure a

theorem decides_bind {c : Checked ι α} {f : α → Checked ι β} (hc : c.Decides)
    (hf : ∀ a, (f a).Decides) : (c >>= f).Decides := by
  intro hfound
  rw [bind_eq] at hfound ⊢
  cases hvalue : c.value? with
  | none =>
      rw [hvalue] at hfound
      obtain ⟨a, ha⟩ := hc hfound
      rw [hvalue] at ha
      contradiction
  | some a =>
      rw [hvalue] at hfound
      exact hf a (List.append_eq_nil_iff.mp hfound).2

theorem Decides.mapFound {c : Checked ι α} (h : c.Decides) (f : ι → κ) : (c.mapFound f).Decides :=
  fun hfound => h (List.map_eq_nil_iff.mp hfound)

/-- A check that misses nothing fails with problems. -/
theorem Decides.toExcept_ne_nil {c : Checked ι α} (h : c.Decides) {found : List ι}
    (hfails : c.toExcept = .error found) : found ≠ [] := by
  rintro rfl
  have hfound := found_of_toExcept hfails
  obtain ⟨a, ha⟩ := h hfound
  rw [toExcept_eq_ok_iff.mpr ⟨ha, hfound⟩] at hfails
  contradiction

/-- If each of the checks misses nothing, the values are those of all of them, in order. -/
theorem builds_all_forall₂ {checks : List (Checked ι α)} {as : List α} (h : (all checks).Builds as)
    (hdecides : ∀ c ∈ checks, c.Decides) : List.Forall₂ Builds checks as := by
  obtain ⟨hvalue, hclean⟩ := h
  cases hvalue
  replace hclean : checks.flatMap found = [] := hclean
  induction checks with
  | nil => exact .nil
  | cons c checks ih =>
      obtain ⟨hc, hchecks⟩ := List.forall_mem_cons.mp hdecides
      rw [List.flatMap_cons, List.append_eq_nil_iff] at hclean
      obtain ⟨a, ha⟩ := hc hclean.1
      rw [List.filterMap_cons_some ha]
      exact .cons ⟨ha, hclean.1⟩ (ih hchecks hclean.2)

end Checked

/-- A check that asks nobody is taken apart like any other. -/
theorem CheckedT.builds_bind {ι α β : Type} {c : CheckedT ι Id α} {f : α → CheckedT ι Id β} {b : β}
    (h : (c >>= f).run.run.Builds b) : ∃ a, c.run.run.Builds a ∧ (f a).run.run.Builds b := by
  rw [run_bind_id] at h
  exact Checked.builds_bind h

theorem CheckedT.decides_bind {ι α β : Type} {c : CheckedT ι Id α} {f : α → CheckedT ι Id β}
    (hc : c.run.run.Decides) (hf : ∀ a, (f a).run.run.Decides) : (c >>= f).run.run.Decides := by
  rw [run_bind_id]
  exact Checked.decides_bind hc hf

theorem CheckedT.run_all {ι α β : Type} (xs : List β) (f : β → CheckedT ι Id α) :
    (CheckedT.all (xs.map f)).run.run = Checked.all (xs.map fun x => (f x).run.run) := by
  have hall : (CheckedT.all (xs.map f)).run.run =
      Checked.all ((xs.map f).mapM CheckedT.run).run := rfl
  rw [hall, List.idRun_mapM, List.map_map]
  rfl

/-- Of checks side by side, each value was built by one of them. -/
theorem CheckedT.builds_all {ι α β : Type} {xs : List β} {f : β → CheckedT ι Id α}
    {as : List α} (h : (CheckedT.all (xs.map f)).run.run.Builds as) {a : α} (ha : a ∈ as) :
    ∃ x ∈ xs, (f x).run.run.Builds a := by
  rw [run_all] at h
  obtain ⟨_, hcheck, hbuilds⟩ := Checked.builds_all h ha
  obtain ⟨x, hx, rfl⟩ := List.mem_map.mp hcheck
  exact ⟨x, hx, hbuilds⟩

theorem CheckedT.forall₂_of_builds_all {ι α β : Type} {xs : List β} {f : β → CheckedT ι Id α}
    {as : List α} (h : (CheckedT.all (xs.map f)).run.run.Builds as)
    (hdecides : ∀ x ∈ xs, (f x).run.run.Decides) :
    List.Forall₂ (fun x a => (f x).run.run.Builds a) xs as := by
  rw [run_all] at h
  have hbuilds := Checked.builds_all_forall₂ h (List.forall_mem_map.mpr hdecides)
  rw [List.forall₂_map_left_iff] at hbuilds
  exact hbuilds

/-! ## what checks find -/

namespace Checked

variable {ι κ α β : Type} {P : ι → Prop}

/-- Every problem that was found is of one kind. -/
def Finds (P : ι → Prop) (c : Checked ι α) : Prop := ∀ i ∈ c.found, P i

theorem finds_pure (a : α) : (pure a : Checked ι α).Finds P := List.forall_mem_nil P

theorem finds_fail {found : List ι} (h : ∀ i ∈ found, P i) : (fail found : Checked ι α).Finds P := h

theorem finds_report {found : List ι} (h : ∀ i ∈ found, P i) : (report found).Finds P := h

theorem finds_demand {found : List ι} (h : ∀ i ∈ found, P i) : (demand found).Finds P := h

theorem finds_ofOption {problem : ι} (o : Option α) (h : o = none → P problem) :
    (ofOption problem o).Finds P := by
  cases o with
  | none => exact List.forall_mem_singleton.mpr (h rfl)
  | some a => exact finds_pure a

theorem finds_all {checks : List (Checked ι α)} (h : ∀ c ∈ checks, c.Finds P) :
    (all checks).Finds P := by
  intro i hi
  obtain ⟨c, hc, hi⟩ := List.mem_flatMap.mp hi
  exact h c hc i hi

/-- The rest of a check may rely on the value that it goes on with. -/
theorem Finds.bind {c : Checked ι α} {f : α → Checked ι β} (hc : c.Finds P)
    (hf : ∀ a, c.value? = some a → (f a).Finds P) : (c >>= f).Finds P := by
  rw [bind_eq]
  cases hvalue : c.value? with
  | none => exact hc
  | some a => exact List.forall_mem_append.mpr ⟨hc, hf a hvalue⟩

theorem Finds.of_toExcept {c : Checked ι α} (h : c.Finds P) {found : List ι}
    (hfails : c.toExcept = .error found) : ∀ i ∈ found, P i :=
  found_of_toExcept hfails ▸ h

end Checked

theorem CheckedT.finds_bind {ι α β : Type} {P : ι → Prop} {c : CheckedT ι Id α}
    {f : α → CheckedT ι Id β} (hc : c.run.run.Finds P)
    (hf : ∀ a, c.run.run.value? = some a → (f a).run.run.Finds P) : (c >>= f).run.run.Finds P := by
  rw [run_bind_id]
  exact hc.bind hf

theorem CheckedT.finds_all {ι α β : Type} {P : ι → Prop} {xs : List β} {f : β → CheckedT ι Id α}
    (h : ∀ x ∈ xs, (f x).run.run.Finds P) : (CheckedT.all (xs.map f)).run.run.Finds P := by
  rw [run_all]
  exact Checked.finds_all (List.forall_mem_map.mpr h)

/-! ## checks that stop -/

namespace Checked

variable {ι κ α β : Type} {P : ι → Prop}

/-- The check comes to a value, or stops at its first problem. -/
inductive Stops (P : ι → Prop) : Checked ι α → Prop
  | value (a : α) : Stops P (pure a)
  | problem {i : ι} (h : P i) : Stops P (fail [i])

theorem stops_ofOption {problem : ι} (h : P problem) (o : Option α) : (ofOption problem o).Stops P := by
  cases o with
  | none => exact .problem h
  | some a => exact .value a

theorem Stops.bind {c : Checked ι α} {f : α → Checked ι β} (hc : c.Stops P)
    (hf : ∀ a, c.value? = some a → (f a).Stops P) : (c >>= f).Stops P := by
  cases hc with
  | value a => exact hf a rfl
  | problem h => exact .problem h

theorem Stops.mapFound {Q : κ → Prop} {f : ι → κ} {c : Checked ι α} (hc : c.Stops P)
    (hf : ∀ i, P i → Q (f i)) : (c.mapFound f).Stops Q := by
  cases hc with
  | value a => exact .value a
  | problem h => exact .problem (hf _ h)

/-- It finds at most the problem at which it stops. -/
theorem Stops.finds {Q : ι → Prop} {c : Checked ι α} (hc : c.Stops P) (hQ : ∀ i, P i → Q i) :
    c.Finds Q := by
  cases hc with
  | value a => exact finds_pure a
  | problem h => exact finds_fail (List.forall_mem_singleton.mpr (hQ _ h))

end Checked

theorem CheckedT.stops_bind {ι α β : Type} {P : ι → Prop} {c : CheckedT ι Id α}
    {f : α → CheckedT ι Id β} (hc : c.run.run.Stops P)
    (hf : ∀ a, c.run.run.value? = some a → (f a).run.run.Stops P) : (c >>= f).run.run.Stops P := by
  rw [run_bind_id]
  exact hc.bind hf

end DaoForge
