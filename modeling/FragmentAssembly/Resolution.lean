import FragmentAssembly.Composition.Basic
import FragmentAssembly.Registrations.Basic
import FragmentAssembly.SearchScope

/-!
# Resolution of contracts

A resolver looks for the implementation of a contract. Candidates in scope with the conventional name
come first; several of them are told apart by identity. Only if there are none, the registrations are
consulted in order. Resolution never fails: without an implementation the fragment is a placeholder.
-/

namespace FragmentAssembly

variable {σ : Type}

/-- What implementations are looked for in. -/
structure Resolver (σ : Type) where
  /-- The known implementation types. -/
  catalog : Catalog σ
  /-- The declared implementation names. -/
  registrations : Registrations

/-- What the search for an implementation finds. -/
inductive Resolution (σ : Type) where
  /-- The only candidate in scope. -/
  | scanned (candidate : Candidate σ)
  /-- One of several candidates in scope, by its identity. -/
  | identified (candidate : Candidate σ) (identity : String) (count : Nat)
  /-- Several candidates in scope, none with the expected identity. -/
  | ambiguous (identity : String) (typeNames : List String)
  /-- The first registered type that is listed, after some that are not. -/
  | registered (candidate : Candidate σ) (unknown : List String)
  /-- Nothing, after registered types that are not listed. -/
  | unresolved (unknown : List String)

namespace Resolution

/-- The candidate that was found. -/
def candidate? : Resolution σ → Option (Candidate σ)
  | .scanned candidate => some candidate
  | .identified candidate _ _ => some candidate
  | .registered candidate _ => some candidate
  | .ambiguous _ _ => none
  | .unresolved _ => none

/-- The fragment of a contract, with its instance in a cell of its own. -/
def fragment (resolution : Resolution σ) (contract : Contract) (cell : Nat) : Fragment σ :=
  match resolution.candidate? with
  | some candidate => candidate.bind contract cell
  | none => .placeholder contract

/-- What is reported about the search for a contract. -/
def notices (resolution : Resolution σ) (contract : String) : List Notice :=
  match resolution with
  | .scanned candidate => [.resolved contract candidate.typeName]
  | .identified candidate identity count =>
      [.resolvedByIdentity contract candidate.typeName identity count]
  | .ambiguous identity typeNames => [.ambiguous contract identity typeNames]
  | .registered candidate unknown =>
      unknown.map (.unknownRegistration contract) ++
        [.resolvedByRegistration contract candidate.typeName]
  | .unresolved unknown => unknown.map (.unknownRegistration contract) ++ [.unresolved contract]

end Resolution

namespace Resolver

/-- A resolver that finds nothing. -/
def empty : Resolver σ := ⟨.empty, .empty⟩

/-- The candidates in scope whose simple name is the contract's with the postfix. -/
def scan (resolver : Resolver σ) (contract : Contract) (scope : SearchScope)
    (interface : Interface) : List (Candidate σ) :=
  resolver.catalog.candidates.filter fun candidate =>
    candidate.simpleName = contract.simpleName ++ scope.implementationPostfix &&
      scope.covers interface candidate

/-- The identity that tells several candidates apart: the identity override of the interface, or else
the contract's simple name in lower camel case, with the postfix. -/
def expectedIdentity (contract : Contract) (scope : SearchScope) (interface : Interface) : String :=
  interface.identityOverride.getD (Name.lowerCamel contract.simpleName) ++
    scope.implementationPostfix

/-- The first of the registered types that is listed. `unknown` holds the ones before. -/
def consult (catalog : Catalog σ) (unknown : List String) : List String → Resolution σ
  | [] => .unresolved unknown
  | typeName :: others =>
      match catalog.get? typeName with
      | some candidate => .registered candidate unknown
      | none => consult catalog (unknown ++ [typeName]) others

/-- Look for the implementation of a contract of an interface. -/
def search (resolver : Resolver σ) (contract : Contract) (scope : SearchScope)
    (interface : Interface) : Resolution σ :=
  match resolver.scan contract scope interface with
  | [candidate] => .scanned candidate
  | [] => consult resolver.catalog [] (resolver.registrations.implementationsFor contract.name)
  | several =>
      let identity := expectedIdentity contract scope interface
      match several.find? fun candidate => candidate.identity = identity with
      | some candidate => .identified candidate identity several.length
      | none => .ambiguous identity (several.map Candidate.typeName)

/-- The fragment of a contract of an interface. -/
def resolve (resolver : Resolver σ) (contract : Contract) (scope : SearchScope)
    (interface : Interface) (cell : Nat) : Fragment σ :=
  (resolver.search contract scope interface).fragment contract cell

/-- The fragments of contracts, each with its instance in a cell of its own. -/
def resolveAll (resolver : Resolver σ) (scope : SearchScope) (interface : Interface) (cell : Nat) :
    List Contract → List (Fragment σ)
  | [] => []
  | contract :: others =>
      resolver.resolve contract scope interface cell ::
        resolver.resolveAll scope interface (cell + 1) others

/-- The contracts that are waiting for an implementation. -/
def openContracts (composition : Composition σ) : List Contract :=
  composition.placeholders.map Fragment.contract

/-- Fill the placeholders of a composition as far as possible. The cells of the new fragments are
numbered from `cell`. -/
def bind (resolver : Resolver σ) (composition : Composition σ) (scope : SearchScope)
    (interface : Interface) (cell : Nat) : Composition σ :=
  composition.appendAll (resolver.resolveAll scope interface cell (openContracts composition))

/-- The notices of filling the placeholders of a composition. -/
def bindNotices (resolver : Resolver σ) (composition : Composition σ) (scope : SearchScope)
    (interface : Interface) : List Notice :=
  (openContracts composition).flatMap
      (fun contract => (resolver.search contract scope interface).notices contract.name) ++
    composition.appendNotices
      (resolver.resolveAll scope interface 0 (openContracts composition))

/-- A placeholder for each contract of an interface. -/
def declared (interface : Interface) : Composition σ :=
  (Composition.ofList (interface.contracts.map Fragment.placeholder)).attach interface.name

/-- The composition of an interface: its contracts, resolved, and a base fragment last. -/
def compose (resolver : Resolver σ) (interface : Interface) (scope : SearchScope)
    (base : Fragment σ) (cell : Nat) : Composition σ :=
  (resolver.bind (declared interface) scope interface cell).append base

/-- The notices of composing the fragments of an interface. -/
def composeNotices (resolver : Resolver σ) (interface : Interface) (scope : SearchScope)
    (base : Fragment σ) : List Notice :=
  resolver.bindNotices (declared interface) scope interface ++
    (resolver.bind (declared interface) scope interface 0).appendNotices [base]

end Resolver
end FragmentAssembly
