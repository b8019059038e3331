import DaoForge.Declaration.Basic

/-!
# DaoForge.Proofs.Declaration.Normal

Normalized types and declarations.

1. `TypeExpr.Folded`: no `Option` with one argument is left in a type. A type comes out folded
   (`folded_normalized`), and a folded one is left as it is (`normalized_of_folded`);
2. so normalizing twice is normalizing once, of a type (`normalized_normalized`) and of every member of a
   declaration (`Declaration.normalized_normalized`).
-/

namespace DaoForge

namespace TypeExpr

/-- A type occurs in another, as a whole or among the arguments of a part. -/
inductive Within (s : TypeExpr) : TypeExpr → Prop
  | refl : Within s s
  | argument {t u : TypeExpr} (hu : u ∈ t.arguments) (h : Within s u) : Within s t

/-- The type is an `Option` spelled as a generic. -/
def IsOption (t : TypeExpr) : Prop := isOptionPath t.name = true ∧ t.arguments.length = 1

/-- No `Option` with one argument occurs in the type. -/
def Folded (t : TypeExpr) : Prop := ∀ s, Within s t → ¬ s.IsOption

theorem folded_iff {t : TypeExpr} : t.Folded ↔ ¬ t.IsOption ∧ ∀ u ∈ t.arguments, u.Folded := by
  constructor
  · exact fun h => ⟨h t .refl, fun u hu s hs => h s (.argument hu hs)⟩
  · rintro ⟨hself, harguments⟩ s hs
    cases hs with
    | refl => exact hself
    | argument hu h => exact harguments _ hu s h

/-- The flag of a type does not matter. -/
theorem Folded.asNullable {t : TypeExpr} (h : t.Folded) : t.asNullable.Folded := by
  obtain ⟨hself, harguments⟩ := folded_iff.mp h
  exact folded_iff.mpr ⟨hself, harguments⟩

/-- Folding a node takes away the only `Option` that folded arguments leave. -/
theorem folded_fold (name : String) (nullable : Bool) {arguments : List TypeExpr}
    (h : ∀ t ∈ arguments, t.Folded) : (fold name nullable arguments).Folded := by
  unfold fold
  split
  · next inner =>
    split
    · exact (h inner (List.mem_singleton_self inner)).asNullable
    · next hname => exact folded_iff.mpr ⟨fun hoption => hname hoption.1, h⟩
  · next hmany =>
    refine folded_iff.mpr ⟨fun hoption => ?_, h⟩
    obtain ⟨inner, hinner⟩ := List.length_eq_one_iff.mp hoption.2
    exact hmany inner hinner

mutual

/-- **No `Option` is left** at any depth. -/
theorem folded_normalized : (t : TypeExpr) → t.normalized.Folded
  | ⟨name, nullable, arguments⟩ => folded_fold name nullable (folded_normalizedAll arguments)

theorem folded_normalizedAll : (ts : List TypeExpr) → ∀ t ∈ normalizedAll ts, t.Folded
  | [] => fun _ h => nomatch h
  | t :: rest => List.forall_mem_cons.mpr ⟨folded_normalized t, folded_normalizedAll rest⟩

end

theorem fold_of_not_isOption {name : String} {nullable : Bool} {arguments : List TypeExpr}
    (h : ¬ IsOption ⟨name, nullable, arguments⟩) :
    fold name nullable arguments = ⟨name, nullable, arguments⟩ := by
  unfold fold
  split
  · next inner => exact if_neg fun hname => h ⟨hname, rfl⟩
  · rfl

mutual

/-- What is folded stays as it is. -/
theorem normalized_of_folded : (t : TypeExpr) → t.Folded → t.normalized = t
  | ⟨name, nullable, arguments⟩, h => by
    obtain ⟨hself, harguments⟩ := folded_iff.mp h
    rw [normalized, normalizedAll_of_folded arguments harguments]
    exact fold_of_not_isOption hself

theorem normalizedAll_of_folded :
    (ts : List TypeExpr) → (∀ t ∈ ts, t.Folded) → normalizedAll ts = ts
  | [], _ => rfl
  | t :: rest, h => by
    obtain ⟨ht, hrest⟩ := List.forall_mem_cons.mp h
    rw [normalizedAll, normalized_of_folded t ht, normalizedAll_of_folded rest hrest]

end

@[simp]
theorem normalized_normalized (t : TypeExpr) : t.normalized.normalized = t.normalized :=
  normalized_of_folded _ (folded_normalized t)

end TypeExpr

/-! ## declarations -/

@[simp]
theorem Property.normalized_normalized (p : Property) : p.normalized.normalized = p.normalized := by
  simp [Property.normalized]

@[simp]
theorem Parameter.normalized_normalized (p : Parameter) : p.normalized.normalized = p.normalized := by
  simp [Parameter.normalized]

@[simp]
theorem Function.normalized_normalized (f : Function) : f.normalized.normalized = f.normalized := by
  simp [Function.normalized, Function.comp_def]

@[simp]
theorem Constructor.normalized_normalized (c : Constructor) :
    c.normalized.normalized = c.normalized := by
  simp [Constructor.normalized, Function.comp_def]

/-- Every member of a normalized declaration is normalized. -/
@[simp]
theorem Declaration.normalized_normalized (d : Declaration) :
    d.normalized.normalized = d.normalized := by
  simp [Declaration.normalized, Function.comp_def]

end DaoForge
