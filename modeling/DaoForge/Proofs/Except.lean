import Mathlib.Data.List.Forall2

/-!
# DaoForge.Proofs.Except

Computations that end with a value or with an error.

1. a value is made of the values of the steps (`bind_eq_ok`, `mapM_eq_ok_iff`);
2. an error is that of a step: if the errors of all steps are of one kind, so is that of the whole
   (`FailsWithin.bind`, `failsWithin_mapM`).
-/

namespace DaoForge

variable {ε κ α β : Type}

/-! ## values -/

theorem bind_eq_ok {x : Except ε α} {f : α → Except ε β} {b : β} (h : x >>= f = .ok b) :
    ∃ a, x = .ok a ∧ f a = .ok b := by
  cases x with
  | ok a => exact ⟨a, rfl, h⟩
  | error e => contradiction

theorem ok_of_guarded {p : Prop} [Decidable p] {x : Except ε α} {e : ε} {a : α}
    (h : (if p then x else .error e) = .ok a) : x = .ok a := by
  split at h
  · exact h
  · contradiction

theorem eq_ok_of_toOption {answer : Except ε α} {a : α} (h : answer.toOption = some a) :
    answer = .ok a := by
  cases answer with
  | ok b => exact congrArg Except.ok (Option.some.inj h)
  | error e => contradiction

theorem toOption_eq_some_iff {x : Except ε α} {a : α} : x.toOption = some a ↔ x = .ok a :=
  ⟨eq_ok_of_toOption, fun h => by rw [h]; rfl⟩

theorem toOption_map (x : Except ε α) (f : α → β) : (x.map f).toOption = x.toOption.map f := by
  cases x <;> rfl

theorem toOption_bind (x : Except ε α) (f : α → Except ε β) :
    (x >>= f).toOption = x.toOption.bind fun a => (f a).toOption := by
  cases x <;> rfl

theorem eq_error_of_map {x : Except ε α} {f : α → β} {e : ε} (h : x.map f = .error e) :
    x = .error e := by
  cases x with
  | ok a => contradiction
  | error found => exact congrArg Except.error (Except.error.inj h)

/-- Items are computed one by one. -/
theorem forall₂_of_mapM {f : α → Except ε β} {xs : List α} {ys : List β} (h : xs.mapM f = .ok ys) :
    List.Forall₂ (fun x y => f x = .ok y) xs ys := by
  induction xs generalizing ys with
  | nil =>
      cases h
      exact .nil
  | cons x xs ih =>
      rw [List.mapM_cons] at h
      obtain ⟨y, hy, h⟩ := bind_eq_ok h
      obtain ⟨tail, htail, h⟩ := bind_eq_ok h
      cases h
      exact .cons hy (ih htail)

theorem mapM_eq_ok_iff {f : α → Except ε β} {xs : List α} {ys : List β} :
    xs.mapM f = .ok ys ↔ List.Forall₂ (fun x y => f x = .ok y) xs ys := by
  refine ⟨forall₂_of_mapM, fun h => ?_⟩
  induction h with
  | nil => rfl
  | cons hhead _ ih =>
      rw [List.mapM_cons, hhead, ih]
      rfl

theorem map_eq_of_forall₂ {γ : Type} {f : α → γ} {g : β → γ} {xs : List α} {ys : List β}
    (h : List.Forall₂ (fun x y => f x = g y) xs ys) : xs.map f = ys.map g := by
  rw [← List.forall₂_map_right_iff, ← List.forall₂_map_left_iff, List.forall₂_eq_eq_eq] at h
  exact h

/-- Items whose results are known are computed to these, and what follows from a result holds of each. -/
theorem map_of_mapM {f : α → Except ε β} {g : α → β} {P : α → Prop} {xs : List α} {ys : List β}
    (hf : ∀ x ∈ xs, ∀ y, f x = .ok y → y = g x ∧ P x) (h : xs.mapM f = .ok ys) :
    ys = xs.map g ∧ ∀ x ∈ xs, P x := by
  induction xs generalizing ys with
  | nil =>
      cases h
      exact ⟨rfl, by simp⟩
  | cons x xs ih =>
      rw [List.mapM_cons] at h
      obtain ⟨y, hy, h⟩ := bind_eq_ok h
      obtain ⟨tail, htail, h⟩ := bind_eq_ok h
      cases h
      obtain ⟨hfirst, hrest⟩ := List.forall_mem_cons.mp hf
      obtain ⟨rfl, hx⟩ := hfirst y hy
      obtain ⟨rfl, hxs⟩ := ih hrest htail
      exact ⟨rfl, List.forall_mem_cons.mpr ⟨hx, hxs⟩⟩

/-- There is a list of what is there for each. -/
theorem exists_forall₂ {R : α → β → Prop} {as : List α} (h : ∀ a ∈ as, ∃ b, R a b) :
    ∃ bs, List.Forall₂ R as bs := by
  induction as with
  | nil => exact ⟨[], .nil⟩
  | cons a rest ih =>
      obtain ⟨b, hb⟩ := h a List.mem_cons_self
      obtain ⟨bs, hbs⟩ := ih fun a' ha' => h a' (List.mem_cons_of_mem _ ha')
      exact ⟨b :: bs, .cons hb hbs⟩

/-- Each result is that of one of the items. -/
theorem exists_of_forall₂ {R : α → β → Prop} {xs : List α} {ys : List β}
    (h : List.Forall₂ R xs ys) {y : β} (hy : y ∈ ys) : ∃ x ∈ xs, R x y := by
  induction h with
  | nil => contradiction
  | cons hhead _ ih =>
      rcases List.mem_cons.mp hy with rfl | hy
      · exact ⟨_, List.mem_cons_self, hhead⟩
      · obtain ⟨x, hx, hxy⟩ := ih hy
        exact ⟨x, List.mem_cons_of_mem _ hx, hxy⟩

/-- Items of two lists that correspond, by index. -/
theorem getElem?_of_forall₂ {R : α → β → Prop} {xs : List α} {ys : List β}
    (h : List.Forall₂ R xs ys) {i : Nat} :
    (∀ y, ys[i]? = some y → ∃ x, xs[i]? = some x ∧ R x y) ∧
      ∀ x, xs[i]? = some x → ∃ y, ys[i]? = some y ∧ R x y := by
  induction h generalizing i with
  | nil => simp
  | cons hhead _ ih =>
      cases i with
      | zero => simpa using hhead
      | succ i => simpa using ih

/-- The computation fails with errors of one kind only. -/
def FailsWithin (P : ε → Prop) (x : Except ε α) : Prop := ∀ e, x = .error e → P e

theorem failsWithin_ok {P : ε → Prop} (a : α) : FailsWithin P (.ok a) := by
  intro e h
  contradiction

theorem failsWithin_error {P : ε → Prop} {e : ε} (h : P e) :
    FailsWithin P (.error e : Except ε α) := by
  rintro _ ⟨⟩
  exact h

/-- The rest of a computation may rely on the value that it goes on with. -/
theorem FailsWithin.bind {P : ε → Prop} {x : Except ε α} {f : α → Except ε β}
    (hx : FailsWithin P x) (hf : ∀ a, x = .ok a → FailsWithin P (f a)) :
    FailsWithin P (x >>= f) := by
  intro e h
  cases x with
  | ok a => exact hf a rfl e h
  | error found =>
      have heq : found = e := Except.error.inj h
      rw [← heq]
      exact hx found rfl

/-- The last step only puts the value to use. -/
theorem FailsWithin.bind_ok {P : ε → Prop} {x : Except ε α} (h : FailsWithin P x) {f : α → β} :
    FailsWithin P (x >>= fun a => .ok (f a)) :=
  h.bind fun a _ => failsWithin_ok (f a)

theorem FailsWithin.map {P : ε → Prop} {x : Except ε α} (h : FailsWithin P x) (f : α → β) :
    FailsWithin P (x.map f) := by
  intro e he
  cases x with
  | ok a => contradiction
  | error found =>
      have heq : found = e := Except.error.inj he
      rw [← heq]
      exact h found rfl

theorem FailsWithin.mapError {P : ε → Prop} {Q : κ → Prop} {x : Except ε α} {f : ε → κ}
    (h : FailsWithin P x) (hf : ∀ e, P e → Q (f e)) : FailsWithin Q (x.mapError f) := by
  intro e he
  cases x with
  | ok a => contradiction
  | error found =>
      have heq : f found = e := Except.error.inj he
      rw [← heq]
      exact hf found (h found rfl)

theorem failsWithin_mapM {P : ε → Prop} {xs : List α} {f : α → Except ε β}
    (h : ∀ x ∈ xs, FailsWithin P (f x)) : FailsWithin P (xs.mapM f) := by
  induction xs with
  | nil => exact failsWithin_ok []
  | cons x xs ih =>
      rw [List.mapM_cons]
      have htail : FailsWithin P (xs.mapM f) := ih fun y hy => h y (List.mem_cons_of_mem x hy)
      refine (h x List.mem_cons_self).bind fun y _ => ?_
      exact htail.bind fun ys _ => failsWithin_ok (y :: ys)

end DaoForge
