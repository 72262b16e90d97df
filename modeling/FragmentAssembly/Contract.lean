import FragmentAssembly.Distinct
import FragmentAssembly.Name
import FragmentAssembly.Signature.Basic

/-!
# Contracts

A contract names a capability and lists the methods that a fragment must answer. The methods are a set
that remembers its order: the order shows wherever methods are listed, but not in whether two contracts
are equivalent.
-/

namespace FragmentAssembly

/-- The methods that a fragment of a repository must answer. -/
structure Contract where
  /-- Dotted name of the contract. -/
  name : String
  /-- Names of the type parameters. -/
  typeParameters : List String
  /-- The methods, in order of declaration. -/
  methods : List Signature
  /-- No method is declared twice. -/
  methods_nodup : methods.Nodup

namespace Contract

/-- A contract without methods and type parameters. -/
def named (name : String) : Contract :=
  { name, typeParameters := [], methods := [], methods_nodup := List.nodup_nil }

/-- Declare more methods, after those declared already. -/
def withMethods (contract : Contract) (methods : List Signature) : Contract :=
  { contract with
    methods := Distinct.insertAll contract.methods methods
    methods_nodup := Distinct.nodup_insertAll contract.methods_nodup methods }

/-- Replace the type parameters. -/
def withTypeParameters (contract : Contract) (typeParameters : List String) : Contract :=
  { contract with typeParameters }

/-- The name without its package. -/
def simpleName (contract : Contract) : String :=
  Name.simple contract.name

/-- The package of the name. -/
def package (contract : Contract) : String :=
  Name.package contract.name

/-- Whether a method is one of the contract's. -/
def declares (contract : Contract) (method : Signature) : Bool :=
  contract.methods.contains method

/-- The simple name, with the type parameters in angle brackets if there are any. -/
def display (contract : Contract) : String :=
  if contract.typeParameters.isEmpty then
    contract.simpleName
  else
    contract.simpleName ++ "<" ++ ", ".intercalate contract.typeParameters ++ ">"

/-- Whether two contracts agree in name, type parameters and the set of methods. -/
def equivalent (left right : Contract) : Bool :=
  left.name = right.name && left.typeParameters = right.typeParameters &&
    left.methods.all right.declares && right.methods.all left.declares

theorem declares_iff {contract : Contract} {method : Signature} :
    contract.declares method = true ↔ method ∈ contract.methods := by
  simp [declares]

end Contract
end FragmentAssembly
