/-!
# DaoForge.Resolve.Checked

A check looks for all problems at once: it can report a problem and go on, or give up what it is
building while the checks beside it still run. `Checked ι α` holds the value, if there is one, and
what was found on the way, in order.

The value counts only if nothing was found (`Checked.toExcept`).

`CheckedT ι m α` is a check that asks for something on its way: `m` is how answers are come by.
-/

namespace DaoForge

/-- A value that may be missing, and the problems found while building it. -/
structure Checked (ι α : Type) where
  value? : Option α
  found : List ι

namespace Checked

variable {ι κ α β : Type}

instance : Monad (Checked ι) where
  pure a := ⟨some a, []⟩
  bind c f :=
    match c.value? with
    | none => ⟨none, c.found⟩
    | some a => ⟨(f a).value?, c.found ++ (f a).found⟩

theorem bind_eq (c : Checked ι α) (f : α → Checked ι β) :
    c >>= f =
      match c.value? with
      | none => ⟨none, c.found⟩
      | some a => ⟨(f a).value?, c.found ++ (f a).found⟩ := rfl

theorem value?_bind (c : Checked ι α) (f : α → Checked ι β) :
    (c >>= f).value? = c.value?.bind fun a => (f a).value? := by
  rw [bind_eq]
  cases c.value? <;> rfl

/-- Reports problems and goes on. -/
def report (found : List ι) : Checked ι Unit := ⟨some (), found⟩

/-- Reports problems and gives up. -/
def fail (found : List ι) : Checked ι α := ⟨none, found⟩

/-- Goes on only if there is no problem. -/
def demand (found : List ι) : Checked ι Unit :=
  ⟨if found.isEmpty then some () else none, found⟩

/-- The value, or the problem of its absence. -/
def ofOption (problem : ι) : Option α → Checked ι α
  | some a => ⟨some a, []⟩
  | none => ⟨none, [problem]⟩

@[simp] theorem value?_ofOption (problem : ι) (o : Option α) : (ofOption problem o).value? = o := by
  cases o <;> rfl

/-- All checks side by side: the values that were built, and everything found. -/
def all (checks : List (Checked ι α)) : Checked ι (List α) :=
  ⟨some (checks.filterMap value?), checks.flatMap found⟩

/-- The same check with its problems seen through `f`. -/
def mapFound (f : ι → κ) (c : Checked ι α) : Checked κ α := ⟨c.value?, c.found.map f⟩

/-- The value if nothing was found, else what was found. -/
def toExcept (c : Checked ι α) : Except (List ι) α :=
  match c.value?, c.found with
  | some a, [] => .ok a
  | _, found => .error found

theorem toExcept_eq_ok_iff {c : Checked ι α} {a : α} :
    c.toExcept = .ok a ↔ c.value? = some a ∧ c.found = [] := by
  unfold toExcept
  cases c.value? <;> cases c.found <;> simp

end Checked

/-! ## checks that ask -/

/-- A check that runs in `m`. -/
def CheckedT (ι : Type) (m : Type → Type) (α : Type) : Type := m (Checked ι α)

namespace CheckedT

variable {ι κ ε α : Type} {m : Type → Type} [Monad m]

/-- The check that a computation comes to. -/
def mk (c : m (Checked ι α)) : CheckedT ι m α := c

/-- What the check comes to. -/
def run (c : CheckedT ι m α) : m (Checked ι α) := c

instance : Monad (CheckedT ι m) where
  pure a := mk (pure (pure a))
  bind c f := mk do
    let first ← c.run
    match first.value? with
    | none => return ⟨none, first.found⟩
    | some a =>
      let rest ← (f a).run
      return ⟨rest.value?, first.found ++ rest.found⟩

/-- A check that asks for nothing. -/
def lift (c : Checked ι α) : CheckedT ι m α := mk (pure c)

/-- What an answer holds; if it holds errors, one problem stands for them. -/
def ofAnswer (problem : ι) (answer : m (Except ε α)) : CheckedT ι m α :=
  mk ((fun answer => .ofOption problem answer.toOption) <$> answer)

/-- All checks side by side, in order. -/
def all (checks : List (CheckedT ι m α)) : CheckedT ι m (List α) :=
  mk (Checked.all <$> checks.mapM run)

/-- The same check with its problems seen through `f`. -/
def mapFound (f : ι → κ) (c : CheckedT ι m α) : CheckedT κ m α := mk (Checked.mapFound f <$> c.run)

theorem run_bind {β : Type} (c : CheckedT ι m α) (f : α → CheckedT ι m β) :
    (c >>= f).run = c.run >>= fun first =>
      match first.value? with
      | none => pure ⟨none, first.found⟩
      | some a => (f a).run >>= fun rest => pure ⟨rest.value?, first.found ++ rest.found⟩ := rfl

/-- A check that asks nobody is a check. -/
theorem run_bind_id {β : Type} (c : CheckedT ι Id α) (f : α → CheckedT ι Id β) :
    (c >>= f).run.run = c.run.run >>= fun a => (f a).run.run := by
  rw [run_bind, Id.run_bind, Checked.bind_eq]
  cases c.run.run.value? <;> rfl

end CheckedT

end DaoForge
