import DaoForge.Declaration.Basic

/-!
# DaoForge.Declaration.Catalog

The declarations of one run, in the order in which they were added, each qualified name once.

* `NameIndex` lists the qualified names by their last names; a catalog keeps one in step with its
  declarations;
* `insert` refuses a blank name and a name that is taken, and normalizes the declaration;
* `get?` finds a declaration by its qualified name, else by the last name of a path if the index has
  exactly one name there.
-/

namespace DaoForge

/-- Qualified names by their last names. -/
abbrev NameIndex := List (String × List String)

namespace NameIndex

/-- The qualified names that have a last name, in the order in which they were added. -/
def named (index : NameIndex) (last : String) : List String :=
  ((index.find? fun entry => entry.1 == last).map (·.2)).getD []

/-- Adds a qualified name under its last name. -/
def add : NameIndex → String → NameIndex
  | [], name => [(simpleName name, [name])]
  | (last, names) :: rest, name =>
    if last = simpleName name then (last, names ++ [name]) :: rest
    else (last, names) :: add rest name

/-- The index of some names. -/
def ofNames (names : List String) : NameIndex := names.foldl add []

theorem named_add (index : NameIndex) (name last : String) :
    (index.add name).named last =
      index.named last ++ if simpleName name == last then [name] else [] := by
  induction index with
  | nil => by_cases h : simpleName name = last <;> simp [add, named, h]
  | cons entry rest ih =>
      obtain ⟨other, names⟩ := entry
      unfold named at ih ⊢
      by_cases hname : other = simpleName name
      · by_cases hlast : simpleName name = last <;> simp [add, hname, hlast]
      · by_cases hlast : other = last
        · have hapart : simpleName name ≠ last := fun h => hname (hlast.trans h.symm)
          simp [add, hlast, hapart, Ne.symm hapart]
        · simpa [add, hname, hlast] using ih

theorem ofNames_concat (names : List String) (name : String) :
    ofNames (names ++ [name]) = (ofNames names).add name := List.foldl_append ..

/-- Under a last name the index lists the names that have it. -/
theorem named_ofNames (names : List String) (last : String) :
    (ofNames names).named last = names.filter fun name => simpleName name == last := by
  have hfold : ∀ index : NameIndex, (names.foldl add index).named last =
      index.named last ++ names.filter fun name => simpleName name == last := by
    induction names with
    | nil => simp
    | cons name rest ih =>
        intro index
        rw [List.foldl_cons, ih, named_add, List.append_assoc, List.filter_cons]
        split <;> simp
  exact hfold []

end NameIndex

/-- Declarations with distinct qualified names, and the index of these names. -/
structure Catalog where
  declarations : List Declaration
  nodup : (declarations.map Declaration.qualifiedName).Nodup
  index : NameIndex := .ofNames (declarations.map Declaration.qualifiedName)
  inStep : index = .ofNames (declarations.map Declaration.qualifiedName) := by rfl

/-- Why a declaration cannot be added. -/
inductive CatalogError where
  | duplicate (name : String)
  | emptyName
  deriving DecidableEq, Repr

/-- Wording of the error. -/
def CatalogError.message : CatalogError → String
  | .duplicate name => "duplicate declaration: " ++ name
  | .emptyName => "declaration has an empty qualified name"

namespace Catalog

def empty : Catalog where
  declarations := []
  nodup := List.nodup_nil

/-- The qualified names, in order. -/
def names (c : Catalog) : List String := c.declarations.map Declaration.qualifiedName

/-- Adds a declaration at the end. -/
def insert (c : Catalog) (d : Declaration) : Except CatalogError Catalog :=
  if isBlankText d.qualifiedName then .error .emptyName
  else if taken : d.qualifiedName ∈ c.names then .error (.duplicate d.qualifiedName)
  else
    .ok
      { declarations := c.declarations ++ [d.normalized]
        nodup := by
          rw [List.map_append, List.nodup_append]
          refine ⟨c.nodup, by simp, ?_⟩
          intro name hn other ho e
          simp at ho
          exact taken (by rw [← ho, ← e]; exact hn)
        index := c.index.add d.qualifiedName
        inStep := by
          rw [List.map_append, List.map_singleton, Declaration.qualifiedName_normalized,
            NameIndex.ofNames_concat, ← c.inStep] }

/-- Adds declarations in order, up to the first that is refused. -/
def insertAll (c : Catalog) (ds : List Declaration) : Except CatalogError Catalog :=
  ds.foldlM insert c

/-- A catalog of the given declarations. -/
def ofList (ds : List Declaration) : Except CatalogError Catalog := empty.insertAll ds

/-- The declaration with exactly this qualified name. -/
def named? (c : Catalog) (name : String) : Option Declaration :=
  c.declarations.find? fun d => d.qualifiedName == name

/-- The declarations whose last name is that of `name`. -/
def sharing (c : Catalog) (name : String) : List Declaration :=
  c.declarations.filter fun d => d.simpleName == simpleName name

/-- Finds a declaration by qualified name, else by a last name that only it has. -/
def get? (c : Catalog) (name : String) : Option Declaration :=
  match c.named? name with
  | some d => some d
  | none =>
    match c.index.named (simpleName name) with
    | [only] => c.named? only
    | _ => none

/-- The declaration a type names. -/
def resolve? (c : Catalog) (t : TypeExpr) : Option Declaration := c.get? t.name

/-- The declarations that carry the annotation, in order. -/
def annotatedWith (c : Catalog) (name : String) : List Declaration :=
  c.declarations.filter fun d => Mark.isPresent d.annotations name

def size (c : Catalog) : Nat := c.declarations.length

end Catalog

end DaoForge
