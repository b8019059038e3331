import DaoForge.Digest.Sha256
import DaoForge.Disk.Basic
import DaoForge.Tree.JsonPrinter
import DaoForge.Tree.JsonReader

/-!
# DaoForge.Output.Manifest

A manifest records the units that were written into a folder: the file of each, and the digest of its
text. It is kept beside the files as JSON and read before the next run, which leaves alone what has not
changed and removes what is not produced any more.

* `insert` records a unit under its qualified name, in place of an earlier record;
* `stale` lists the records whose file a later manifest does not record under the same name.
-/

namespace DaoForge

/-- A unit that was written. -/
structure UnitRecord where
  /-- Name of the file, below the folder of the manifest. -/
  file : String
  kind : String
  /-- Digest of the text. -/
  checksum : String
  deriving DecidableEq, Repr

namespace UnitRecord

def toTree (r : UnitRecord) : Tree :=
  .record [("file", .text r.file), ("kind", .text r.kind), ("checksum", .text r.checksum)]

def ofTree? (tree : Tree) : Option UnitRecord :=
  match tree.fields ["file", "kind", "checksum"] with
  | some [file, kind, checksum] => do
    some ⟨← Tree.required Tree.asText? file, ← Tree.required Tree.asText? kind,
      ← Tree.required Tree.asText? checksum⟩
  | _ => none

end UnitRecord

/-! ## entries in order -/

/-- Entries with ascending names. -/
def Ascending {α : Type} (entries : List (String × α)) : Prop :=
  entries.Pairwise fun a b => a.1 < b.1

/-- Puts an entry at its place among entries with ascending names. -/
def putEntry {α : Type} (name : String) (value : α) : List (String × α) → List (String × α)
  | [] => [(name, value)]
  | entry :: rest =>
    if name < entry.1 then (name, value) :: entry :: rest
    else if name = entry.1 then (name, value) :: rest
    else entry :: putEntry name value rest

theorem mem_putEntry {α : Type} {name : String} {value : α} {entries : List (String × α)}
    {entry : String × α} (h : entry ∈ putEntry name value entries) :
    entry = (name, value) ∨ entry ∈ entries := by
  induction entries with
  | nil => simpa [putEntry] using h
  | cons first rest ih =>
    rw [putEntry] at h
    split at h
    · simpa using h
    · split at h
      · rcases List.mem_cons.mp h with h | h
        · exact Or.inl h
        · exact Or.inr (List.mem_cons_of_mem _ h)
      · rcases List.mem_cons.mp h with h | h
        · exact Or.inr (h ▸ List.mem_cons_self)
        · exact (ih h).imp_right (List.mem_cons_of_mem _)

theorem ascending_putEntry {α : Type} (name : String) (value : α) {entries : List (String × α)}
    (h : Ascending entries) : Ascending (putEntry name value entries) := by
  induction entries with
  | nil => simp [putEntry, Ascending]
  | cons first rest ih =>
    obtain ⟨head, tail⟩ := List.pairwise_cons.mp h
    rw [putEntry]
    split
    case isTrue lt =>
      refine List.pairwise_cons.mpr ⟨?_, h⟩
      intro entry mem
      rcases List.mem_cons.mp mem with rfl | mem
      · exact lt
      · exact String.lt_trans lt (head entry mem)
    case isFalse notLt =>
      split
      case isTrue eq => exact List.pairwise_cons.mpr ⟨fun entry mem => eq ▸ head entry mem, tail⟩
      case isFalse ne =>
        refine List.pairwise_cons.mpr ⟨?_, ih tail⟩
        intro entry mem
        rcases mem_putEntry mem with rfl | mem
        · exact String.not_le.mp fun le => ne (String.le_antisymm le (String.not_lt.mp notLt))
        · exact head entry mem

/-- The entry that was put is found under its name, and the others as before. -/
theorem find?_putEntry {α : Type} (name other : String) (value : α) (entries : List (String × α)) :
    (putEntry name value entries).find? (fun entry => entry.1 == other) =
      if other = name then some (name, value) else entries.find? fun entry => entry.1 == other := by
  by_cases h : other = name
  · subst h
    rw [if_pos rfl]
    induction entries with
    | nil => simp [putEntry]
    | cons first rest ih =>
      rw [putEntry]
      split
      · simp
      · split
        · simp
        case isFalse ne =>
          rw [List.find?_cons, beq_false_of_ne fun e => ne e.symm]
          exact ih
  · have miss : (name == other) = false := beq_false_of_ne fun e => h e.symm
    rw [if_neg h]
    induction entries with
    | nil => simp only [putEntry, List.find?_cons, miss]
    | cons first rest ih =>
      rw [putEntry]
      split
      · rw [List.find?_cons]
        simp only [miss]
      · split
        case isTrue eq =>
          rw [List.find?_cons, List.find?_cons, ← eq]
          simp only [miss]
        · rw [List.find?_cons, List.find?_cons, ih]

/-! ## manifests -/

/-- The units of a run, by their qualified names. -/
structure Manifest where
  /-- Version of the program that wrote the manifest. -/
  toolVersion : String := "0.1.0"
  units : List (String × UnitRecord) := []
  ascending : Ascending units := by exact List.Pairwise.nil
  deriving DecidableEq, Repr

namespace Manifest

/-- The manifest of no units. -/
def empty : Manifest := {}

/-- Name of the file that holds the manifest of a folder. -/
def fileName : String := "kabin-manifest.json"

def size (m : Manifest) : Nat := m.units.length

/-- The record of a unit. -/
def get? (m : Manifest) (unit : String) : Option UnitRecord :=
  (m.units.find? fun entry => entry.1 == unit).map (·.2)

def contains (m : Manifest) (unit : String) : Bool := (m.get? unit).isSome

/-- Records a unit, in place of an earlier record of the same name. -/
def insert (m : Manifest) (unit : String) (record : UnitRecord) : Manifest :=
  { m with
    units := putEntry unit record m.units
    ascending := ascending_putEntry unit record m.ascending }

theorem get?_insert (m : Manifest) (unit name : String) (record : UnitRecord) :
    (m.insert unit record).get? name = if name = unit then some record else m.get? name := by
  simp only [get?, insert, find?_putEntry]
  split <;> simp

/-- The records whose file `current` does not record under the same name. -/
def stale (m current : Manifest) : List UnitRecord :=
  (m.units.filter fun entry => (current.get? entry.1).map UnitRecord.file != some entry.2.file).map
    (·.2)

/-! ## documents -/

def toTree (m : Manifest) : Tree :=
  .record [("tool_version", .text m.toolVersion),
    ("units", .record (m.units.map fun entry => (entry.1, entry.2.toTree)))]

/-- Reads the entries of a manifest; of entries with one name the last counts. -/
def ofEntries? (toolVersion : String) : Tree → Option Manifest
  | .mapping entries =>
    entries.foldlM (fun m entry => do
      return m.insert (← entry.1.name?) (← UnitRecord.ofTree? entry.2)) { toolVersion }
  | _ => none

def ofTree? (tree : Tree) : Option Manifest :=
  match tree.fields ["tool_version", "units"] with
  | some [toolVersion, units] => do
    ofEntries? (← Tree.required Tree.asText? toolVersion) (← units)
  | _ => none

/-- The text of a manifest's file. -/
def text (m : Manifest) : String := m.toTree.toPrettyJson 0 ++ "\n"

/-- What of a file is a manifest. -/
def use : JsonUse :=
  .record [("tool_version", .whole),
    ("units", .entries (.record [("file", .whole), ("kind", .whole), ("checksum", .whole)]))]

/-- The manifest that a file holds. -/
def ofText? (text : String) : Option Manifest := (Tree.ofJsonFor use text).toOption.bind ofTree?

/-! ## files -/

/-- Reads a manifest from a file; `none` if its text is no manifest. -/
def load (d : Disk) (path : String) : Except IoError (Option Manifest) :=
  match d.read path with
  | .ok text => .ok (ofText? text)
  | .error .isADirectory => .ok none
  | .error cause => .error cause

/-- The manifest of a folder, empty if there is none that can be read. -/
def ofFolder (d : Disk) (folder : String) : Manifest :=
  match load d (Disk.join folder fileName) with
  | .ok (some m) => m
  | _ => empty

/-- Writes a manifest to a file. -/
def save (m : Manifest) (d : Disk) (path : String) : Except IoError Disk := d.write path m.text

end Manifest

end DaoForge
