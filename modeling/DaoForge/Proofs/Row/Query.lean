import DaoForge.Row.Cursor
import DaoForge.Row.Query
import Mathlib.Data.List.Forall2

/-!
# DaoForge.Proofs.Row.Query

What the functions that read rows answer, whatever driver they ask.

1. `Driver.Delivers`: what is expected of a driver. `Delivery.fold_nil` and `Delivery.fold_cons` say what
   happens at the end of the rows and at one row; `queryList_eq` and `queryOptional_eq` what comes of all
   rows. Up to here a mapping may have effects;
2. a mapping in `Id` has none. `Maps` and `FirstError` say what it makes of the rows, and the functions give
   no other values and errors (`queryList_eq_pure_iff`, `queryList_eq_throw_iff`,
   `queryOptional_eq_throw_iff`);
3. `Driver.queries_agree`: so the three functions agree with one another.
-/

namespace DaoForge

variable {ρ α β : Type}

/-! ## row by row -/

namespace Delivery

variable {m : Type → Type} [Monad m] [LawfulMonad m]
variable {rows : List ρ} {row : ρ} {failure : Option RowError}

/-- What follows the rows: the failure, or the state that the rows have led to. -/
def ending (failure : Option RowError) (state : β) : ExceptT RowError m β :=
  match failure with
  | some error => throw error
  | none => return state

theorem fold_nil (callback : β → ρ → ExceptT RowError m β) (start : β) :
    fold ⟨[], failure⟩ callback start = ending failure start := by
  simp only [fold, List.foldlM_nil, pure_bind]
  rfl

theorem fold_cons (callback : β → ρ → ExceptT RowError m β) (start : β) :
    fold ⟨row :: rows, failure⟩ callback start =
      callback start row >>= fold ⟨rows, failure⟩ callback := by
  rw [fold, List.foldlM_cons, bind_assoc]
  rfl

theorem fold_addRow (map : ρ → ExceptT RowError m α) (front : List α) :
    fold ⟨rows, failure⟩ (Driver.addRow map) front =
      rows.mapM map >>= fun values => ending failure (front ++ values) := by
  induction rows generalizing front with
  | nil => simp [fold_nil]
  | cons row rows ih => simp [fold_cons, Driver.addRow, ih]

/-- Once a row was mapped, the others are passed over. -/
theorem fold_keepFirst_some (map : ρ → ExceptT RowError m α) (first : α) :
    fold ⟨rows, failure⟩ (Driver.keepFirst map) (some first) = ending failure (some first) := by
  induction rows with
  | nil => exact fold_nil _ _
  | cons row rows ih => rw [fold_cons, Driver.keepFirst, pure_bind, ih]

end Delivery

namespace Driver

/-- What is expected of a driver. For this statement it calls the callback once for each row of the delivery,
in order; it ends with the first error of the callback, or else, behind the rows, with a failure of its own
if the delivery has one. It does the same each time it is asked. -/
def Delivers (driver : Driver ρ) (sql : String) (params : List SqlValue) (d : Delivery ρ) : Prop :=
  ∀ ⦃m : Type → Type⦄ [Monad m] [LawfulMonad m] ⦃β : Type⦄
    (callback : β → ρ → ExceptT RowError m β) (start : β),
    driver.query sql params callback start = d.fold callback start

theorem delivers_driver (d : Delivery ρ) (sql : String) (params : List SqlValue) :
    d.driver.Delivers sql params d := fun _ _ _ _ _ _ => rfl

variable {driver : Driver ρ} {sql : String} {params : List SqlValue} {d : Delivery ρ}

section Effects

variable {m : Type → Type} [Monad m] [LawfulMonad m] (map : ρ → ExceptT RowError m α)

theorem queryList_eq (h : driver.Delivers sql params d) :
    driver.queryList sql params map = d.rows.mapM map >>= Delivery.ending d.failure := by
  rw [queryList, h]
  exact Delivery.fold_addRow map []

theorem queryOptional_eq (h : driver.Delivers sql params d) :
    driver.queryOptional sql params map =
      match d.rows with
      | [] => Delivery.ending d.failure none
      | row :: _ => map row >>= fun first => Delivery.ending d.failure (some first) := by
  obtain ⟨rows, failure⟩ := d
  rw [queryOptional, h]
  cases rows with
  | nil => exact Delivery.fold_nil _ _
  | cons row rows => simp [Delivery.fold_cons, keepFirst, Delivery.fold_keepFirst_some]

end Effects

/-! ## mappings without effects -/

section Outcomes

variable {x : ExceptT RowError Id α} {f : α → ExceptT RowError Id β} {a : α} {b : β} {e : RowError}

theorem eq_pure_or_eq_throw (x : ExceptT RowError Id α) :
    (∃ a, x = pure a) ∨ ∃ e, x = throw e := by
  cases x with
  | ok a => exact .inl ⟨a, rfl⟩
  | error e => exact .inr ⟨e, rfl⟩

theorem pure_inj {a' : α} : (pure a : ExceptT RowError Id α) = pure a' ↔ a = a' :=
  ⟨Except.ok.inj, congrArg pure⟩

theorem throw_inj {e' : RowError} : (throw e : ExceptT RowError Id α) = throw e' ↔ e = e' :=
  ⟨Except.error.inj, congrArg throw⟩

theorem pure_ne_throw : (pure a : ExceptT RowError Id α) ≠ throw e := nofun

theorem throw_ne_pure : (throw e : ExceptT RowError Id α) ≠ pure a := nofun

theorem bind_eq_pure_iff : x >>= f = pure b ↔ ∃ a, x = pure a ∧ f a = pure b := by
  obtain ⟨a, rfl⟩ | ⟨e, rfl⟩ := eq_pure_or_eq_throw x
  · simp [pure_inj]
  · simp [throw_ne_pure]

theorem bind_eq_throw_iff :
    x >>= f = throw e ↔ x = throw e ∨ ∃ a, x = pure a ∧ f a = throw e := by
  obtain ⟨a, rfl⟩ | ⟨e', rfl⟩ := eq_pure_or_eq_throw x
  · simp [pure_inj, pure_ne_throw]
  · simp [throw_ne_pure, throw_inj]

theorem ending_eq_pure_iff {failure : Option RowError} {state : β} :
    (Delivery.ending failure state : ExceptT RowError Id β) = pure b ↔
      failure = none ∧ state = b := by
  cases failure with
  | none => simp [Delivery.ending, pure_inj]
  | some error => simp [Delivery.ending, throw_ne_pure]

theorem ending_eq_throw_iff {failure : Option RowError} {state : β} :
    (Delivery.ending failure state : ExceptT RowError Id β) = throw e ↔ failure = some e := by
  cases failure with
  | none => simp [Delivery.ending, pure_ne_throw]
  | some error => simp [Delivery.ending, throw_inj]

end Outcomes

/-- Each row is mapped to the value at its place. -/
def Maps (map : ρ → ExceptT RowError Id α) (rows : List ρ) (values : List α) : Prop :=
  List.Forall₂ (fun row value => map row = pure value) rows values

/-- The first of the rows that is not mapped to a value fails with this error. -/
def FirstError (map : ρ → ExceptT RowError Id α) (rows : List ρ) (e : RowError) : Prop :=
  ∃ before row after, rows = before ++ row :: after ∧
    (∀ earlier ∈ before, ∃ value, map earlier = pure value) ∧ map row = throw e

section Rows

variable {map : ρ → ExceptT RowError Id α} {rows : List ρ} {row : ρ} {values : List α} {e : RowError}

theorem mapM_eq_pure_iff : rows.mapM map = pure values ↔ Maps map rows values := by
  induction rows generalizing values with
  | nil => simp [Maps, pure_inj, eq_comm]
  | cons row rows ih =>
      rw [List.mapM_cons, Maps, List.forall₂_cons_left_iff]
      simp only [bind_eq_pure_iff, ih, pure_inj, Maps, exists_and_left, @eq_comm _ values]

theorem firstError_cons_iff :
    FirstError map (row :: rows) e ↔
      map row = throw e ∨ ∃ value, map row = pure value ∧ FirstError map rows e := by
  constructor
  · rintro ⟨before, failing, after, hrows, hbefore, hfailing⟩
    cases before with
    | nil =>
        obtain ⟨rfl, -⟩ := List.cons.inj hrows
        exact .inl hfailing
    | cons first before =>
        obtain ⟨rfl, hrest⟩ := List.cons.inj hrows
        obtain ⟨⟨value, hvalue⟩, hbefore⟩ := List.forall_mem_cons.mp hbefore
        exact .inr ⟨value, hvalue, before, failing, after, hrest, hbefore, hfailing⟩
  · rintro (hrow | ⟨value, hvalue, before, failing, after, rfl, hbefore, hfailing⟩)
    · exact ⟨[], row, rows, rfl, by simp, hrow⟩
    · exact ⟨row :: before, failing, after, rfl,
        List.forall_mem_cons.mpr ⟨⟨value, hvalue⟩, hbefore⟩, hfailing⟩

theorem mapM_eq_throw_iff : rows.mapM map = throw e ↔ FirstError map rows e := by
  induction rows with
  | nil => simp [FirstError, pure_ne_throw]
  | cons row rows ih =>
      simp only [List.mapM_cons, bind_eq_throw_iff, ih, pure_ne_throw, firstError_cons_iff]
      simp

end Rows

/-! ## what the functions answer -/

section Answers

variable {map : ρ → ExceptT RowError Id α} {values : List α} {e : RowError}

theorem queryList_eq_pure_iff (h : driver.Delivers sql params d) :
    driver.queryList sql params map = pure values ↔ d.failure = none ∧ Maps map d.rows values := by
  rw [queryList_eq map h, bind_eq_pure_iff]
  simp only [mapM_eq_pure_iff, ending_eq_pure_iff]
  constructor
  · rintro ⟨_, hmaps, hfailure, rfl⟩
    exact ⟨hfailure, hmaps⟩
  · rintro ⟨hfailure, hmaps⟩
    exact ⟨values, hmaps, hfailure, rfl⟩

theorem queryList_eq_throw_iff (h : driver.Delivers sql params d) :
    driver.queryList sql params map = throw e ↔
      FirstError map d.rows e ∨ d.failure = some e ∧ ∃ values, Maps map d.rows values := by
  rw [queryList_eq map h, bind_eq_throw_iff, mapM_eq_throw_iff]
  simp only [mapM_eq_pure_iff, ending_eq_throw_iff, exists_and_left, @and_comm (Maps _ _ _)]

theorem queryOptional_eq_throw_iff (h : driver.Delivers sql params d) :
    driver.queryOptional sql params map = throw e ↔
      (∃ row, d.rows.head? = some row ∧ map row = throw e) ∨
        d.failure = some e ∧ ∀ row, d.rows.head? = some row → ∃ value, map row = pure value := by
  rw [queryOptional_eq map h]
  cases d.rows with
  | nil => simp [ending_eq_throw_iff]
  | cons row rows => simp [bind_eq_throw_iff, ending_eq_throw_iff, and_comm]

/-- Where all rows are mapped, the first one is. -/
theorem queryOptional_of_queryList (h : driver.Delivers sql params d)
    (hlist : driver.queryList sql params map = pure values) :
    driver.queryOptional sql params map = pure values.head? := by
  obtain ⟨hfailure, hmaps⟩ := (queryList_eq_pure_iff h).mp hlist
  rw [queryOptional_eq map h, hfailure]
  cases hrows : d.rows with
  | nil =>
      rw [hrows, Maps, List.forall₂_nil_left_iff] at hmaps
      rw [hmaps]
      rfl
  | cons row rows =>
      rw [hrows, Maps, List.forall₂_cons_left_iff] at hmaps
      obtain ⟨first, rest, hfirst, -, rfl⟩ := hmaps
      simp only [hfirst, pure_bind]
      rfl

theorem querySingle_of_queryList (h : driver.Delivers sql params d)
    (hlist : driver.queryList sql params map = pure values) :
    driver.querySingle sql params map =
      match values.head? with
      | some first => pure first
      | none => throw (.noRows sql) := by
  rw [querySingle, queryOptional_of_queryList h hlist, pure_bind]
  cases values <;> rfl

/-- The mapping, with a list of the rows that it was called for. -/
def recorded (map : ρ → ExceptT RowError Id α) (row : ρ) : ExceptT RowError (StateM (List ρ)) α := do
  modify (· ++ [row])
  ExceptT.mk (pure (map row).run.run)

/-- No row but the first is mapped. -/
theorem queryOptional_recorded (h : driver.Delivers sql params d) :
    ((driver.queryOptional sql params (recorded map)).run.run []).run =
      ((driver.queryOptional sql params map).run.run, d.rows.take 1) := by
  rw [queryOptional_eq map h, queryOptional_eq (recorded map) h]
  cases d.rows with
  | nil => cases d.failure <;> rfl
  | cons row rows =>
      obtain ⟨value, hvalue⟩ | ⟨error, herror⟩ := eq_pure_or_eq_throw (map row)
      · simp only [recorded, hvalue]
        cases d.failure <;> rfl
      · simp only [recorded, herror]
        rfl

end Answers

/-- The answers to a statement agree with one another. -/
structure Agree (driver : Driver ρ) (sql : String) (params : List SqlValue) (d : Delivery ρ)
    (map : ρ → ExceptT RowError Id α) : Prop where
  /-- The list has the value of every row, in order, and there is one unless something failed. -/
  list_eq_pure (values : List α) :
    driver.queryList sql params map = pure values ↔ d.failure = none ∧ Maps map d.rows values
  /-- A row that cannot be mapped is what the list fails with, the first one if there are several. The driver's
  failure follows the rows, so it counts if all of them were mapped. -/
  list_eq_throw (e : RowError) :
    driver.queryList sql params map = throw e ↔
      FirstError map d.rows e ∨ d.failure = some e ∧ ∃ values, Maps map d.rows values
  /-- Where there is a list, the optional row is its first. -/
  optional_of_list (values : List α) (hlist : driver.queryList sql params map = pure values) :
    driver.queryOptional sql params map = pure values.head?
  /-- Where there is a list, the single row is its first, and an empty list is an error. -/
  single_of_list (values : List α) (hlist : driver.queryList sql params map = pure values) :
    driver.querySingle sql params map =
      match values.head? with
      | some first => pure first
      | none => throw (.noRows sql)
  /-- For the optional row, no row but the first is mapped. -/
  maps_first :
    ((driver.queryOptional sql params (recorded map)).run.run []).run =
      ((driver.queryOptional sql params map).run.run, d.rows.take 1)
  /-- The optional row fails if the first row cannot be mapped, and otherwise if the driver fails, however
  many rows there are before. -/
  optional_eq_throw (e : RowError) :
    driver.queryOptional sql params map = throw e ↔
      (∃ row, d.rows.head? = some row ∧ map row = throw e) ∨
        d.failure = some e ∧ ∀ row, d.rows.head? = some row → ∃ value, map row = pure value

/-- **Agreement.** Whatever a driver delivers for a statement, and however rows are mapped: a list of all rows,
an optional row and a single row are answers to one question. -/
theorem queries_agree (h : driver.Delivers sql params d) (map : ρ → ExceptT RowError Id α) :
    driver.Agree sql params d map where
  list_eq_pure _ := queryList_eq_pure_iff h
  list_eq_throw _ := queryList_eq_throw_iff h
  optional_of_list _ := queryOptional_of_queryList h
  single_of_list _ := querySingle_of_queryList h
  maps_first := queryOptional_recorded h
  optional_eq_throw _ := queryOptional_eq_throw_iff h

/-- A number and a word, and then the driver fails. -/
def scores : Delivery Row where
  rows := [⟨["score"], [.integer 7]⟩, ⟨["score"], [.text "none"]⟩]
  failure := some (.driver "connection lost")

/-- The list fails at the word. The optional row does not look at it and meets the failure behind it. -/
theorem queries_agree_scores :
    scores.driver.Delivers "SELECT score FROM games" [] scores ∧
      scores.driver.queryList "SELECT score FROM games" []
          (fun row => ExceptT.mk (m := Id) (row.read Int64 "score")) =
        throw (.typeMismatch "score" "INTEGER" "TEXT") ∧
      scores.driver.queryOptional "SELECT score FROM games" []
          (fun row => ExceptT.mk (m := Id) (row.read Int64 "score")) =
        throw (.driver "connection lost") := by
  have hdelivers := delivers_driver scores "SELECT score FROM games" []
  have hagree := queries_agree hdelivers fun row => ExceptT.mk (m := Id) (row.read Int64 "score")
  refine ⟨hdelivers, ?_, ?_⟩
  · refine (hagree.list_eq_throw _).mpr (.inl ⟨[⟨["score"], [.integer 7]⟩], _, [], rfl, ?_, rfl⟩)
    exact List.forall_mem_singleton.mpr ⟨7, rfl⟩
  · refine (hagree.optional_eq_throw _).mpr (.inr ⟨rfl, ?_⟩)
    rintro _ ⟨rfl⟩
    exact ⟨7, rfl⟩

end Driver

end DaoForge
