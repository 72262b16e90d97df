import FragmentAssembly.Program
import FragmentAssembly.Text.Quoted

/-!
# Fragments

A fragment is a contract with or without an implementation. An implementation is there from the start,
or it is made by a factory on first use; the cell that keeps it then is shared by all copies of the
fragment. A fragment without implementation is a placeholder.
-/

namespace FragmentAssembly

variable {σ : Type}

/-- An instance of an implementation type. -/
structure Implementation (σ : Type) where
  /-- Dotted name of the type. -/
  typeName : String
  /-- Whether a method is answered. -/
  supports : Signature → Bool
  /-- Whether a contract is answered as a whole. -/
  satisfies : Contract → Bool
  /-- What is done for a method and its arguments. -/
  invoke : Signature → List Json → Program σ Json

/-- A program that makes an instance. -/
abbrev Factory (σ : Type) := Program σ (Implementation σ)

namespace Implementation

/-- Whether every method of a contract is supported. -/
def supportsAll (supports : Signature → Bool) (contract : Contract) : Bool :=
  contract.methods.all supports

/-- The methods of a contract that an instance does not support. -/
def missing (implementation : Implementation σ) (contract : Contract) : List Signature :=
  contract.methods.filter (!implementation.supports ·)

/-- The error for an instance and a contract that it does not satisfy. -/
def unsatisfied (implementation : Implementation σ) (contract : Contract) : Error :=
  .unsatisfied implementation.typeName contract (implementation.missing contract)

end Implementation

/-- An implementation that is made on first use. -/
structure Deferred (σ : Type) where
  /-- Dotted name of the type, as declared. -/
  typeName : String
  /-- How an instance is made. -/
  factory : Factory σ
  /-- Number of the cell that keeps the instance. -/
  cell : Nat

/-- Where the implementation of a fragment comes from. -/
inductive Binding (σ : Type) where
  /-- From an instance. -/
  | eager (implementation : Implementation σ)
  /-- From a factory. -/
  | deferred (source : Deferred σ)

/-- The type name of the implementation, as far as it is known without making an instance. -/
def Binding.typeName : Binding σ → String
  | .eager implementation => implementation.typeName
  | .deferred source => source.typeName

/-- A contract with or without an implementation. -/
structure Fragment (σ : Type) where
  /-- The methods of the fragment. -/
  contract : Contract
  /-- The implementation. -/
  binding : Option (Binding σ)
  /-- An instance that was given satisfies the contract. -/
  satisfied : ∀ implementation, binding = some (.eager implementation) → implementation.satisfies contract = true

namespace Fragment

/-- A fragment without implementation. -/
def placeholder (contract : Contract) : Fragment σ where
  contract := contract
  binding := none
  satisfied := by simp

/-- A fragment with an instance, which must satisfy the contract. -/
def implemented (contract : Contract) (implementation : Implementation σ) : Except Error (Fragment σ) :=
  if satisfied : implementation.satisfies contract = true then
    .ok
      { contract
        binding := some (.eager implementation)
        satisfied := by
          intro other same
          cases same
          exact satisfied }
  else
    .error (implementation.unsatisfied contract)

/-- A fragment whose implementation is made on first use and checked then. -/
def deferred (contract : Contract) (source : Deferred σ) : Fragment σ where
  contract := contract
  binding := some (.deferred source)
  satisfied := by simp

/-- Whether there is an implementation. -/
def isImplemented (fragment : Fragment σ) : Bool :=
  fragment.binding.isSome

/-- The type name of the implementation. -/
def implementationType? (fragment : Fragment σ) : Option String :=
  fragment.binding.map Binding.typeName

/-- Whether a method is one of the contract's. -/
def hasMethod (fragment : Fragment σ) (method : Signature) : Bool :=
  fragment.contract.declares method

/-- The written form: the contract and the simple name of the implementation type. -/
def display (fragment : Fragment σ) : String :=
  match fragment.implementationType? with
  | some typeName =>
      "ImplementedFragment " ++ fragment.contract.display ++ ":" ++ Name.simple typeName
  | none => "UnimplementedFragment " ++ fragment.contract.display

/-- The diagnostic form, for a fragment whose instance exists or does not. -/
def diagnostic (fragment : Fragment σ) (isMaterialized : Bool) : String :=
  "Fragment \x7b contract: " ++ Text.quoted fragment.contract.name ++ ", implementation: " ++
    Text.quotedOption fragment.implementationType? ++ ", materialized: " ++
    (if isMaterialized then "true" else "false") ++ " \x7d"

end Fragment
end FragmentAssembly
