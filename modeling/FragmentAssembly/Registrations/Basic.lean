import FragmentAssembly.Distinct

/-!
# External registrations

Implementations can be declared for a contract by name. For each contract the registrations hold a
list of implementation names without repetitions, in order of declaration. A contract is listed only
with an implementation.
-/

namespace FragmentAssembly
namespace Registrations

/-- The implementations declared for one contract. -/
structure Entry where
  /-- Name of the contract. -/
  contract : String
  /-- Names of the implementations, from the first to the last declared. -/
  implementations : List String
  /-- An entry declares something. -/
  ne_nil : implementations ≠ []
  /-- No implementation is declared twice. -/
  nodup : implementations.Nodup
  deriving DecidableEq

namespace Entry

/-- The entry of one declaration. -/
def single (contract implementation : String) : Entry where
  contract := contract
  implementations := [implementation]
  ne_nil := by simp
  nodup := by simp

/-- Declare another implementation; a repeated declaration changes nothing. -/
def insert (entry : Entry) (implementation : String) : Entry where
  contract := entry.contract
  implementations := Distinct.insert entry.implementations implementation
  ne_nil := by
    unfold Distinct.insert
    split
    · exact entry.ne_nil
    · simp
  nodup := Distinct.nodup_insert entry.nodup implementation

end Entry

/-- Declare an implementation in a list of entries. -/
def insert (contract implementation : String) : List Entry → List Entry
  | [] => [Entry.single contract implementation]
  | entry :: others =>
      if entry.contract = contract then
        entry.insert implementation :: others
      else
        entry :: insert contract implementation others

theorem contracts_insert (contract implementation : String) (entries : List Entry) :
    (insert contract implementation entries).map Entry.contract =
      Distinct.insert (entries.map Entry.contract) contract := by
  induction entries with
  | nil => rfl
  | cons entry others ih =>
      by_cases same : entry.contract = contract
      · simp [insert, Distinct.insert, same, Entry.insert]
      · have different : contract ≠ entry.contract := fun h => same h.symm
        by_cases member : contract ∈ others.map Entry.contract
        · simp [insert, Distinct.insert, same, different, ih, member]
        · simp [insert, Distinct.insert, same, different, ih, member]

end Registrations

/-- Declared implementation names, contract by contract in order of first declaration. -/
structure Registrations where
  /-- One entry for each contract. -/
  entries : List Registrations.Entry
  /-- No contract has two entries. -/
  nodup : (entries.map Registrations.Entry.contract).Nodup

namespace Registrations

/-- No registrations. -/
def empty : Registrations := ⟨[], by simp⟩

/-- Declare an implementation for a contract; a repeated declaration changes nothing. -/
def register (registrations : Registrations) (contract implementation : String) : Registrations :=
  ⟨insert contract implementation registrations.entries, by
    rw [contracts_insert]
    exact Distinct.nodup_insert registrations.nodup contract⟩

/-- Declare several implementations for a contract, in order. -/
def registerAll (registrations : Registrations) (contract : String) (implementations : List String) :
    Registrations :=
  implementations.foldl (fun result => result.register contract) registrations

/-- Declare everything that other registrations declare. What was declared before comes first. -/
def merge (registrations others : Registrations) : Registrations :=
  others.entries.foldl (fun result entry => result.registerAll entry.contract entry.implementations)
    registrations

/-- The implementation names declared for a contract. -/
def implementationsFor (registrations : Registrations) (contract : String) : List String :=
  match registrations.entries.find? fun entry => entry.contract = contract with
  | some entry => entry.implementations
  | none => []

/-- The number of contracts. -/
def size (registrations : Registrations) : Nat :=
  registrations.entries.length

/-- Whether there are no registrations. -/
def isEmpty (registrations : Registrations) : Bool :=
  registrations.entries.isEmpty

/-- Whether two registrations declare the same lists for the same contracts, in any order of the
contracts. -/
def equivalent (left right : Registrations) : Bool :=
  left.entries.all right.entries.contains && right.entries.all left.entries.contains

end Registrations
end FragmentAssembly
