import FragmentAssembly.Proofs.FirstOfKey
import FragmentAssembly.Registrations.Parser

/-!
# Looking declarations up

Declaring implementations changes what is declared for their contract and nothing else. After a list of
declarations a contract has all implementations that they declare for it, in order and without
repetitions, and the contracts that are listed are those of the declarations.
-/

namespace FragmentAssembly
namespace Registrations

/-- The contracts with implementations, in order of first declaration. -/
def contracts (registrations : Registrations) : List String :=
  registrations.entries.map Entry.contract

/-- Registrations with declarations added, in order. -/
def declareAll (registrations : Registrations) (declared : List Declaration) : Registrations :=
  declared.foldl
    (fun result declaration => result.registerAll declaration.contract declaration.implementations)
    registrations

theorem size_eq (registrations : Registrations) :
    registrations.size = registrations.contracts.length := by
  rw [contracts, List.length_map, size]

/-! ## One implementation -/

theorem contracts_register (registrations : Registrations) (contract implementation : String) :
    (registrations.register contract implementation).contracts =
      Distinct.insert registrations.contracts contract :=
  contracts_insert contract implementation registrations.entries

theorem find?_insert_same (contract implementation : String) (entries : List Entry) :
    (insert contract implementation entries).find? (fun entry => entry.contract = contract) =
      some ((entries.find? fun entry => entry.contract = contract).elim
        (Entry.single contract implementation) (·.insert implementation)) := by
  induction entries with
  | nil => simp [insert, Entry.single]
  | cons entry others ih =>
      by_cases same : entry.contract = contract
      · simp [insert, same, Entry.insert]
      · simp [insert, same, ih]

theorem find?_insert_other {contract other : String} (different : other ≠ contract)
    (implementation : String) (entries : List Entry) :
    (insert contract implementation entries).find? (fun entry => entry.contract = other) =
      entries.find? fun entry => entry.contract = other := by
  induction entries with
  | nil => simp [insert, Entry.single, Ne.symm different]
  | cons entry others ih =>
      by_cases same : entry.contract = contract
      · simp [insert, same, Entry.insert, Ne.symm different]
      · by_cases found : entry.contract = other
        · simp [insert, found, different]
        · simp [insert, same, found, ih]

theorem implementationsFor_register_same (registrations : Registrations)
    (contract implementation : String) :
    (registrations.register contract implementation).implementationsFor contract =
      Distinct.insert (registrations.implementationsFor contract) implementation := by
  simp only [implementationsFor, register, find?_insert_same]
  cases registrations.entries.find? fun entry => entry.contract = contract with
  | none => rfl
  | some entry => rfl

theorem implementationsFor_register_other {contract other : String} (different : other ≠ contract)
    (registrations : Registrations) (implementation : String) :
    (registrations.register contract implementation).implementationsFor other =
      registrations.implementationsFor other := by
  simp only [implementationsFor, register, find?_insert_other different]

/-! ## Several implementations -/

theorem contracts_registerAll_of_mem {registrations : Registrations} {contract : String}
    (listed : contract ∈ registrations.contracts) (names : List String) :
    (registrations.registerAll contract names).contracts = registrations.contracts := by
  induction names generalizing registrations with
  | nil => rfl
  | cons name others ih =>
      have same : (registrations.register contract name).contracts = registrations.contracts := by
        rw [contracts_register, Distinct.insert, if_pos listed]
      exact (ih (same ▸ listed)).trans same

theorem contracts_registerAll (registrations : Registrations) (contract : String)
    {names : List String} (some : names ≠ []) :
    (registrations.registerAll contract names).contracts =
      Distinct.insert registrations.contracts contract := by
  cases names with
  | nil => exact absurd rfl some
  | cons name others =>
      have first := contracts_register registrations contract name
      have listed : contract ∈ (registrations.register contract name).contracts := by
        rw [first, Distinct.mem_insert]
        exact .inr rfl
      exact (contracts_registerAll_of_mem listed others).trans first

theorem implementationsFor_registerAll_same (registrations : Registrations) (contract : String)
    (names : List String) :
    (registrations.registerAll contract names).implementationsFor contract =
      Distinct.insertAll (registrations.implementationsFor contract) names := by
  induction names generalizing registrations with
  | nil => rfl
  | cons name others ih =>
      have step := ih (registrations.register contract name)
      rwa [implementationsFor_register_same] at step

theorem implementationsFor_registerAll_other {contract other : String} (different : other ≠ contract)
    (registrations : Registrations) (names : List String) :
    (registrations.registerAll contract names).implementationsFor other =
      registrations.implementationsFor other := by
  induction names generalizing registrations with
  | nil => rfl
  | cons name others ih =>
      have step := ih (registrations.register contract name)
      rwa [implementationsFor_register_other different] at step

/-! ## Declarations -/

/-- The implementations that declarations name for a contract, in order and as often as they name
them. -/
def namedFor (contract : String) (declared : List Declaration) : List String :=
  (declared.filter fun declaration => declaration.contract = contract).flatMap
    Declaration.implementations

theorem implementationsFor_declareAll (registrations : Registrations) (declared : List Declaration)
    (contract : String) :
    (registrations.declareAll declared).implementationsFor contract =
      Distinct.insertAll (registrations.implementationsFor contract) (namedFor contract declared) := by
  induction declared generalizing registrations with
  | nil => rfl
  | cons first others ih =>
      have step := ih (registrations.registerAll first.contract first.implementations)
      by_cases same : first.contract = contract
      · subst same
        have named : namedFor first.contract (first :: others) =
            first.implementations ++ namedFor first.contract others := by simp [namedFor]
        rw [implementationsFor_registerAll_same] at step
        rw [named, Distinct.insertAll, List.foldl_append]
        exact step
      · have named : namedFor contract (first :: others) = namedFor contract others := by
          simp [namedFor, same]
        rw [implementationsFor_registerAll_other (Ne.symm same)] at step
        rw [named]
        exact step

/-- The contracts of declarations that all name an implementation are listed. -/
theorem contracts_declareAll (registrations : Registrations) {declared : List Declaration}
    (some : ∀ declaration ∈ declared, declaration.implementations ≠ []) :
    (registrations.declareAll declared).contracts =
      Distinct.insertAll registrations.contracts (declared.map Declaration.contract) := by
  induction declared generalizing registrations with
  | nil => rfl
  | cons first others ih =>
      have step := ih (registrations.registerAll first.contract first.implementations)
        fun declaration member => some declaration (List.mem_cons_of_mem first member)
      rw [contracts_registerAll registrations first.contract (some first List.mem_cons_self)] at step
      exact step

end Registrations
end FragmentAssembly
