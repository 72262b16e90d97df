import FragmentAssembly.Proofs.Registrations.Lookup

/-!
# Merging registrations

Merging declares again, contract by contract, what other registrations hold. The contracts of both are
listed, and a contract has the implementations of both, those of the first ones in front and without
repetitions. So merging with what declarations amount to is adding the declarations, in the order in which
they were made.
-/

namespace FragmentAssembly
namespace Registrations

/-! ## Registrations by their look-ups -/

theorem implementationsFor_of_mem {registrations : Registrations} {entry : Entry}
    (member : entry ∈ registrations.entries) :
    registrations.implementationsFor entry.contract = entry.implementations := by
  rw [implementationsFor, Distinct.find?_of_nodup registrations.nodup member]

/-- Registrations that list the same contracts in the same order, with the same lists of implementations,
are the same. -/
theorem eq_of_lookups {left right : Registrations} (contracts : left.contracts = right.contracts)
    (lookups : ∀ contract, left.implementationsFor contract = right.implementationsFor contract) :
    left = right := by
  let read : Entry → String × List String := fun entry => (entry.contract, entry.implementations)
  have listed : ∀ registrations : Registrations, registrations.entries.map read =
      registrations.contracts.map fun contract =>
        (contract, registrations.implementationsFor contract) := by
    intro registrations
    rw [Registrations.contracts, List.map_map]
    apply List.map_congr_left
    intro entry member
    exact congrArg (Prod.mk entry.contract) (implementationsFor_of_mem member).symm
  have entries : left.entries.map read = right.entries.map read := by
    rw [listed, listed, contracts]
    exact List.map_congr_left fun contract _ => congrArg (Prod.mk contract) (lookups contract)
  have same : left.entries = right.entries := by
    refine (List.map_inj_right ?_).mp entries
    rintro ⟨_, _, _, _⟩ ⟨_, _, _, _⟩ equal
    cases equal
    rfl
  obtain ⟨_, _⟩ := left
  obtain ⟨_, _⟩ := right
  cases same
  rfl

/-! ## Merging as declaring -/

/-- The declaration that an entry amounts to. -/
def Entry.declaration (entry : Entry) : Declaration :=
  ⟨entry.contract, entry.implementations⟩

theorem merge_eq_declareAll (registrations others : Registrations) :
    registrations.merge others = registrations.declareAll (others.entries.map Entry.declaration) := by
  rw [merge, declareAll, List.foldl_map]
  rfl

theorem namedFor_entries (registrations : Registrations) (contract : String) :
    namedFor contract (registrations.entries.map Entry.declaration) =
      registrations.implementationsFor contract := by
  have selected : (registrations.entries.map Entry.declaration).filter
        (fun declaration => declaration.contract = contract) =
      (registrations.entries.find? fun entry => entry.contract = contract).toList.map
        Entry.declaration := by
    rw [List.filter_map, ← Distinct.filter_of_nodup registrations.nodup]
    rfl
  rw [namedFor, selected, implementationsFor]
  cases registrations.entries.find? fun entry => entry.contract = contract with
  | none => rfl
  | some entry => simp [Entry.declaration]

theorem contracts_merge (registrations others : Registrations) :
    (registrations.merge others).contracts =
      Distinct.insertAll registrations.contracts others.contracts := by
  have some : ∀ declaration ∈ others.entries.map Entry.declaration,
      declaration.implementations ≠ [] := by
    intro declaration member
    obtain ⟨entry, -, rfl⟩ := List.mem_map.mp member
    exact entry.ne_nil
  rw [merge_eq_declareAll, contracts_declareAll registrations some, List.map_map]
  rfl

theorem implementationsFor_merge (registrations others : Registrations) (contract : String) :
    (registrations.merge others).implementationsFor contract =
      Distinct.insertAll (registrations.implementationsFor contract)
        (others.implementationsFor contract) := by
  rw [merge_eq_declareAll, implementationsFor_declareAll, namedFor_entries]

/-- Adding declarations is merging with what they amount to on their own. -/
theorem declareAll_eq_merge (registrations : Registrations) {declared : List Declaration}
    (some : ∀ declaration ∈ declared, declaration.implementations ≠ []) :
    registrations.declareAll declared = registrations.merge (empty.declareAll declared) := by
  apply eq_of_lookups
  · rw [contracts_merge, contracts_declareAll registrations some, contracts_declareAll empty some,
      Distinct.insertAll_insertAll]
    rfl
  · intro contract
    rw [implementationsFor_merge, implementationsFor_declareAll, implementationsFor_declareAll,
      Distinct.insertAll_insertAll]
    rfl

end Registrations
end FragmentAssembly
