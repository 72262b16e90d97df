import Mathlib.Data.Finset.Card
import FragmentAssembly.Proofs.Catalog.Table
import FragmentAssembly.Proofs.FirstOfKey
import FragmentAssembly.Proofs.Resolution.Independence

/-!
# Registering any candidates

Candidates are offered to a catalog one after the other, and those of a type that is listed are refused.
Whatever is offered, the catalog lists the first candidate of each type name, in the order in which the
names came up. So one that is refused later takes nothing from the first: neither its place nor its
identity nor its factory.
-/

namespace FragmentAssembly

variable {σ : Type}

/-- The table after a call for each candidate in order, whether the calls fail or not. -/
def KeyedTable.callAll (table : KeyedTable (Candidate σ)) (offered : List (Candidate σ)) :
    KeyedTable (Candidate σ) :=
  offered.foldl (fun table candidate => (table.call candidate).2) table

namespace Catalog

/-- The catalog once a candidate was offered: if it is refused, the catalog is as before. -/
def offer (catalog : Catalog σ) (candidate : Candidate σ) : Catalog σ :=
  match catalog.register candidate with
  | .ok next => next
  | .error _ => catalog

/-- The catalog once candidates were offered in order, whether they are refused or not. -/
def offerAll (catalog : Catalog σ) (offered : List (Candidate σ)) : Catalog σ :=
  offered.foldl offer catalog

theorem offerAll_concat (catalog : Catalog σ) (offered : List (Candidate σ))
    (candidate : Candidate σ) :
    catalog.offerAll (offered ++ [candidate]) = (catalog.offerAll offered).offer candidate :=
  List.foldl_concat offer catalog candidate offered

/-! ## What is listed -/

theorem candidates_offer (catalog : Catalog σ) (candidate : Candidate σ) :
    (catalog.offer candidate).candidates =
      Distinct.insertBy Candidate.typeName catalog.candidates candidate := by
  rw [Distinct.insertBy]
  split
  · rename_i listed
    rw [offer, register_of_listed listed]
  · rename_i unlisted
    obtain ⟨next, registered, appended⟩ := exists_register_of_unlisted unlisted
    rw [offer, registered, appended]

theorem candidates_offerAll (catalog : Catalog σ) (offered : List (Candidate σ)) :
    (catalog.offerAll offered).candidates =
      offered.foldl (Distinct.insertBy Candidate.typeName) catalog.candidates := by
  induction offered generalizing catalog with
  | nil => rfl
  | cons candidate others ih =>
      rw [List.foldl_cons, ← candidates_offer]
      exact ih (catalog.offer candidate)

/-- What is listed are the first candidates of their types. -/
theorem candidates_offerAll_empty (offered : List (Candidate σ)) :
    (empty.offerAll offered).candidates = Distinct.firstBy Candidate.typeName offered := by
  rw [candidates_offerAll]
  exact Distinct.foldl_insertBy_nil offered

theorem map_typeName_offerAll_empty (offered : List (Candidate σ)) :
    (empty.offerAll offered).candidates.map Candidate.typeName =
      (offered.map Candidate.typeName).eraseDups := by
  rw [candidates_offerAll_empty, Distinct.map_firstBy]

theorem mem_typeNames_offerAll_empty {offered : List (Candidate σ)} {typeName : String} :
    typeName ∈ (empty.offerAll offered).candidates.map Candidate.typeName ↔
      typeName ∈ offered.map Candidate.typeName := by
  rw [map_typeName_offerAll_empty, List.mem_eraseDups]

theorem get?_offerAll_empty (offered : List (Candidate σ)) (typeName : String) :
    (empty.offerAll offered).get? typeName =
      offered.find? fun candidate => candidate.typeName = typeName := by
  rw [get?, candidates_offerAll_empty, Distinct.find?_firstBy]

/-- What is listed is what comes first for each name, in the order in which the names came up. -/
theorem map_some_offerAll_empty (offered : List (Candidate σ)) :
    (empty.offerAll offered).candidates.map some =
      (offered.map Candidate.typeName).eraseDups.map fun typeName =>
        offered.find? fun candidate => candidate.typeName = typeName := by
  rw [← map_typeName_offerAll_empty, candidates_offerAll_empty, List.map_map]
  exact List.map_congr_left fun candidate first => (Distinct.find?_of_mem_firstBy first).symm

theorem exists_first {offered : List (Candidate σ)} {typeName : String}
    (offers : typeName ∈ offered.map Candidate.typeName) :
    ∃ candidate, (offered.find? fun candidate => candidate.typeName = typeName) = some candidate ∧
      candidate ∈ (empty.offerAll offered).candidates ∧ candidate.typeName = typeName := by
  have present : (offered.find? fun candidate => candidate.typeName = typeName).isSome := by
    simpa [List.find?_isSome] using offers
  obtain ⟨candidate, first⟩ := Option.isSome_iff_exists.mp present
  have found := (get?_offerAll_empty offered typeName).trans first
  exact ⟨candidate, first, get?_eq_some_iff.mp found⟩

theorem size_offerAll_empty (offered : List (Candidate σ)) :
    (empty.offerAll offered).size = (offered.map Candidate.typeName).toFinset.card := by
  have names : ((empty.offerAll offered).candidates.map Candidate.typeName).toFinset =
      (offered.map Candidate.typeName).toFinset := by
    ext typeName
    rw [List.mem_toFinset, List.mem_toFinset, mem_typeNames_offerAll_empty]
  rw [← names, List.toFinset_card_of_nodup (empty.offerAll offered).nodup, List.length_map, size]

theorem get?_offerAll_eq_none {offered : List (Candidate σ)} {typeName : String}
    (missing : typeName ∉ offered.map Candidate.typeName) :
    (empty.offerAll offered).get? typeName = none := by
  rw [get?_eq_none_iff]
  intro candidate listed named
  exact missing (mem_typeNames_offerAll_empty.mp (named ▸ List.mem_map_of_mem listed))

/-! ## Calls -/

theorem register_offerAll_empty (offered : List (Candidate σ)) (candidate : Candidate σ) :
    (empty.offerAll offered).register candidate =
      if candidate.typeName ∈ offered.map Candidate.typeName then
        .error (.alreadyRegistered candidate.typeName)
      else
        .ok (empty.offerAll (offered ++ [candidate])) := by
  split
  · rename_i came
    exact register_of_listed (mem_typeNames_offerAll_empty.mpr came)
  · rename_i new
    obtain ⟨next, registered, -⟩ :=
      exists_register_of_unlisted (mt mem_typeNames_offerAll_empty.mp new)
    rw [offerAll_concat, offer, registered]

/-- Calls on the table of a catalog leave the table of the catalog that the candidates are offered to. -/
theorem callAll_table (catalog : Catalog σ) (offered : List (Candidate σ)) :
    catalog.table.callAll offered = (catalog.offerAll offered).table := by
  induction offered generalizing catalog with
  | nil => rfl
  | cons candidate others ih =>
      have step : (catalog.table.call candidate).2 = (catalog.offer candidate).table := by
        rw [call_table, offer]
        cases catalog.register candidate with
        | ok next => rfl
        | error error => rfl
      rw [KeyedTable.callAll, List.foldl_cons, step]
      exact ih (catalog.offer candidate)

theorem callAll_empty (offered : List (Candidate σ)) :
    KeyedTable.empty.callAll offered = (empty.offerAll offered).table :=
  callAll_table empty offered

theorem call_callAll_empty (offered : List (Candidate σ)) (candidate : Candidate σ) :
    (KeyedTable.empty.callAll offered).call candidate =
      if candidate.typeName ∈ offered.map Candidate.typeName then
        (.error (.alreadyRegistered candidate.typeName), KeyedTable.empty.callAll offered)
      else
        (.ok (), KeyedTable.empty.callAll (offered ++ [candidate])) := by
  rw [callAll_empty, callAll_empty, call_table, register_offerAll_empty]
  by_cases came : candidate.typeName ∈ offered.map Candidate.typeName
  · rw [if_pos came, if_pos came]
  · rw [if_neg came, if_neg came]

/-- Whatever candidates are offered to an empty catalog, it lists the first one of each type name, in the
order in which the names came up, and looking a name up gives just that one. A candidate is refused exactly
if its name came up before, and that leaves everything as it was. The table of the catalog files each
candidate under the name of its type all along and gives the same answers. -/
theorem first_of_each_type_stays (offered : List (Candidate σ)) :
    let names := offered.map Candidate.typeName
    let first? := fun name => offered.find? fun candidate => candidate.typeName = name
    let catalog := empty.offerAll offered
    let table := KeyedTable.empty.callAll offered
    table.entries = catalog.candidates.map (fun candidate => (candidate.typeName, candidate)) ∧
      table.values = catalog.candidates ∧
      catalog.candidates.map some = names.eraseDups.map first? ∧
      (∀ name ∈ names, ∃ candidate, first? name = some candidate ∧
        candidate ∈ catalog.candidates ∧ candidate.typeName = name ∧
        catalog.get? name = some candidate ∧ table.get? name = some candidate) ∧
      (∀ name, name ∉ names → catalog.get? name = none ∧ table.get? name = none) ∧
      catalog.size = names.toFinset.card ∧ table.size = names.toFinset.card ∧
      ∀ candidate : Candidate σ,
        let refusal := Error.invalidArgument
          ("Implementation " ++ candidate.typeName ++ " already registered")
        let more := offered ++ [candidate]
        catalog.register candidate =
            (if candidate.typeName ∈ names then .error refusal else .ok (empty.offerAll more)) ∧
          table.call candidate =
            if candidate.typeName ∈ names then
              (.error refusal, table)
            else
              (.ok (), KeyedTable.empty.callAll more) := by
  intro names first? catalog table
  have kept : table = catalog.table := callAll_empty offered
  have lookup : ∀ name, table.get? name = catalog.get? name := by
    rw [kept]
    exact get?_table catalog
  have counted : catalog.size = names.toFinset.card := size_offerAll_empty offered
  refine ⟨kept ▸ entries_table catalog, kept ▸ values_table catalog, map_some_offerAll_empty offered,
    ?_, ?_, counted, ?_, ?_⟩
  · intro name came
    obtain ⟨candidate, first, listed, named⟩ := exists_first came
    have found : catalog.get? name = some candidate := (get?_offerAll_empty offered name).trans first
    exact ⟨candidate, first, listed, named, found, (lookup name).trans found⟩
  · intro name missing
    have nothing : catalog.get? name = none := get?_offerAll_eq_none missing
    exact ⟨nothing, (lookup name).trans nothing⟩
  · rw [kept, size_table, counted]
  · intro candidate refusal more
    exact ⟨register_offerAll_empty offered candidate, call_callAll_empty offered candidate⟩

end Catalog
end FragmentAssembly
