import FragmentAssembly.Catalog
import FragmentAssembly.Distinct

/-!
# Catalogs as tables

A catalog can be kept in a table that files values under keys, with the keys in the order in which they
came up. Such a table could file a candidate under any key, and a call that registers one could fail with
the table half changed. In the table of a catalog each candidate is filed under the name of its type, and
stays so: a call on the table comes to what registering the candidate comes to, and an error changes
nothing.
-/

namespace FragmentAssembly

/-- Values that are filed under keys. -/
@[ext]
structure KeyedTable (α : Type) where
  /-- The keys with their values, in the order in which the keys came up. -/
  entries : List (String × α)
  /-- No key has two values. -/
  nodup : (entries.map Prod.fst).Nodup

namespace KeyedTable

variable {α : Type}

/-- File a value under a key. A key that has a value keeps its place, with the new value. -/
def file (key : String) (value : α) : List (String × α) → List (String × α)
  | [] => [(key, value)]
  | entry :: others =>
      if entry.1 = key then (key, value) :: others else entry :: file key value others

theorem map_fst_file (key : String) (value : α) (entries : List (String × α)) :
    (file key value entries).map Prod.fst = Distinct.insert (entries.map Prod.fst) key := by
  induction entries with
  | nil => rfl
  | cons entry others ih =>
      by_cases same : entry.1 = key
      · simp [file, Distinct.insert, same]
      · rw [file, if_neg same, List.map_cons, List.map_cons, ih, Distinct.insert, Distinct.insert]
        by_cases filed : key ∈ others.map Prod.fst
        · rw [if_pos filed, if_pos (List.mem_cons_of_mem _ filed)]
        · rw [if_neg filed, if_neg (by simp [filed, Ne.symm same]), List.cons_append]

theorem file_of_notMem {key : String} (value : α) {entries : List (String × α)}
    (absent : key ∉ entries.map Prod.fst) : file key value entries = entries ++ [(key, value)] := by
  induction entries with
  | nil => rfl
  | cons entry others ih =>
      rw [List.map_cons, List.mem_cons, not_or] at absent
      rw [file, if_neg (Ne.symm absent.1), ih absent.2, List.cons_append]

/-- A table without values. -/
def empty : KeyedTable α := ⟨[], List.nodup_nil⟩

/-- Whether a value is filed under a key. -/
def containsKey (table : KeyedTable α) (key : String) : Bool :=
  (table.entries.map Prod.fst).contains key

/-- The value that is filed under a key. -/
def get? (table : KeyedTable α) (key : String) : Option α :=
  (table.entries.find? fun entry => entry.1 = key).map Prod.snd

/-- The values, in the order of their keys. -/
def values (table : KeyedTable α) : List α :=
  table.entries.map Prod.snd

/-- The number of values. -/
def size (table : KeyedTable α) : Nat :=
  table.entries.length

/-- The table with a value filed under a key. -/
def insert (table : KeyedTable α) (key : String) (value : α) : KeyedTable α where
  entries := file key value table.entries
  nodup := by
    rw [map_fst_file]
    exact Distinct.nodup_insert table.nodup key

variable {σ : Type}

/-- Register a candidate in the table at hand. An error undoes nothing. -/
def register (candidate : Candidate σ) : ExceptT Error (StateM (KeyedTable (Candidate σ))) Unit := do
  if (← get).containsKey candidate.typeName then
    throw (.alreadyRegistered candidate.typeName)
  modify fun table => table.insert candidate.typeName candidate

/-- What a call that registers a candidate comes to, and the table that it leaves. -/
def call (table : KeyedTable (Candidate σ)) (candidate : Candidate σ) :
    Except Error Unit × KeyedTable (Candidate σ) :=
  (register candidate).run.run table

theorem call_eq (table : KeyedTable (Candidate σ)) (candidate : Candidate σ) :
    table.call candidate =
      if table.containsKey candidate.typeName then
        (.error (.alreadyRegistered candidate.typeName), table)
      else
        (.ok (), table.insert candidate.typeName candidate) := by
  have started : table.call candidate =
      (if table.containsKey candidate.typeName then
        throw (.alreadyRegistered candidate.typeName)
      else
        modify fun table => table.insert candidate.typeName candidate :
          ExceptT Error (StateM (KeyedTable (Candidate σ))) Unit).run.run table := rfl
  rw [started]
  split
  · rfl
  · rfl

end KeyedTable

namespace Catalog

variable {σ : Type}

theorem contains_iff {catalog : Catalog σ} {typeName : String} :
    catalog.contains typeName = true ↔ typeName ∈ catalog.candidates.map Candidate.typeName :=
  List.contains_iff_mem

/-! ## Registering -/

theorem register_of_listed {catalog : Catalog σ} {candidate : Candidate σ}
    (listed : candidate.typeName ∈ catalog.candidates.map Candidate.typeName) :
    catalog.register candidate = .error (.alreadyRegistered candidate.typeName) :=
  dif_pos (contains_iff.mpr listed)

theorem exists_register_of_unlisted {catalog : Catalog σ} {candidate : Candidate σ}
    (unlisted : candidate.typeName ∉ catalog.candidates.map Candidate.typeName) :
    ∃ next, catalog.register candidate = .ok next ∧
      next.candidates = catalog.candidates ++ [candidate] :=
  ⟨_, dif_neg (mt contains_iff.mp unlisted), rfl⟩

/-! ## The table -/

/-- The table of a catalog: each candidate is filed under the name of its type. -/
def table (catalog : Catalog σ) : KeyedTable (Candidate σ) where
  entries := catalog.candidates.map fun candidate => (candidate.typeName, candidate)
  nodup := by
    rw [List.map_map]
    exact catalog.nodup

theorem entries_table (catalog : Catalog σ) :
    catalog.table.entries =
      catalog.candidates.map fun candidate => (candidate.typeName, candidate) :=
  rfl

theorem keys_table (catalog : Catalog σ) :
    catalog.table.entries.map Prod.fst = catalog.candidates.map Candidate.typeName :=
  List.map_map

theorem values_table (catalog : Catalog σ) : catalog.table.values = catalog.candidates := by
  rw [KeyedTable.values, entries_table, List.map_map]
  exact List.map_id _

theorem size_table (catalog : Catalog σ) : catalog.table.size = catalog.size :=
  List.length_map _

theorem get?_table (catalog : Catalog σ) (typeName : String) :
    catalog.table.get? typeName = catalog.get? typeName := by
  rw [KeyedTable.get?, entries_table, List.find?_map, Option.map_map]
  exact Option.map_id_apply

theorem containsKey_table (catalog : Catalog σ) (typeName : String) :
    catalog.table.containsKey typeName = catalog.contains typeName := by
  rw [KeyedTable.containsKey, keys_table, contains]

theorem insert_table {catalog next : Catalog σ} {candidate : Candidate σ}
    (unlisted : candidate.typeName ∉ catalog.candidates.map Candidate.typeName)
    (appended : next.candidates = catalog.candidates ++ [candidate]) :
    catalog.table.insert candidate.typeName candidate = next.table := by
  have absent : candidate.typeName ∉ catalog.table.entries.map Prod.fst := by rwa [keys_table]
  apply KeyedTable.ext
  calc
    KeyedTable.file candidate.typeName candidate catalog.table.entries =
        catalog.table.entries ++ [(candidate.typeName, candidate)] :=
      KeyedTable.file_of_notMem candidate absent
    _ = next.table.entries := by
      rw [entries_table, entries_table, appended, List.map_append, List.map_singleton]

/-- A call on the table of a catalog comes to what registering the candidate comes to. -/
theorem call_table (catalog : Catalog σ) (candidate : Candidate σ) :
    catalog.table.call candidate =
      match catalog.register candidate with
      | .ok next => (.ok (), next.table)
      | .error error => (.error error, catalog.table) := by
  rw [KeyedTable.call_eq, containsKey_table]
  by_cases listed : candidate.typeName ∈ catalog.candidates.map Candidate.typeName
  · rw [if_pos (contains_iff.mpr listed), register_of_listed listed]
  · obtain ⟨next, registered, appended⟩ := exists_register_of_unlisted listed
    rw [if_neg (mt contains_iff.mp listed), registered, insert_table listed appended]

end Catalog
end FragmentAssembly
