import FragmentAssembly.Contract

/-!
# Repository interfaces

An interface describes a repository: what it stores, how it is identified, and which contracts its
fragments have, in order of priority.
-/

namespace FragmentAssembly

/-- The description of a repository. -/
structure Interface where
  /-- Dotted name of the interface. -/
  name : String
  /-- Identity that replaces the one derived from the name. -/
  identityOverride : Option String
  /-- Type of the stored objects. -/
  domainType : String
  /-- Type of the keys of the stored objects. -/
  idType : String
  /-- Whether the repository answers asynchronously. -/
  isReactive : Bool
  /-- Contracts of the fragments, from the first to the last declared. -/
  contracts : List Contract

namespace Interface

/-- An imperative interface without contracts, under the identity derived from its name. -/
def named (name domainType idType : String) : Interface where
  name := name
  identityOverride := none
  domainType := domainType
  idType := idType
  isReactive := false
  contracts := []

/-- The name without its package. -/
def simpleName (interface : Interface) : String :=
  Name.simple interface.name

/-- The package of the name. -/
def package (interface : Interface) : String :=
  Name.package interface.name

/-- The identity of the repository: the override, or else the simple name in lower camel case. -/
def identity (interface : Interface) : String :=
  interface.identityOverride.getD (Name.lowerCamel interface.simpleName)

/-- Whether two lists of contracts are equivalent, contract by contract. -/
def equivalentContracts : List Contract → List Contract → Bool
  | [], [] => true
  | left :: lefts, right :: rights => left.equivalent right && equivalentContracts lefts rights
  | _, _ => false

/-- Whether two interfaces agree in every field, where contracts are compared by equivalence. -/
def equivalent (left right : Interface) : Bool :=
  left.name = right.name && left.identityOverride = right.identityOverride &&
    left.domainType = right.domainType && left.idType = right.idType &&
    left.isReactive = right.isReactive && equivalentContracts left.contracts right.contracts

end Interface
end FragmentAssembly
