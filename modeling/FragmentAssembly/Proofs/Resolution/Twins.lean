import FragmentAssembly.Proofs.Composition.Extending
import FragmentAssembly.Proofs.Contract.Equivalence
import FragmentAssembly.Proofs.Resolution.Outline

/-!
# Twin fragments

Twins have equivalent contracts and the same type of implementation. Equivalent interfaces are resolved to
compositions whose slots are twins, one by one: no step on the way asks for the order of a contract's
methods. So every method is routed to the same slot in both compositions, and the first placeholder stands
in the same place.
-/

namespace FragmentAssembly

variable {σ : Type}

/-- Fragments that differ at most in the order of their methods and in the cells of their instances. -/
structure Fragment.Twins (fragment twin : Fragment σ) : Prop where
  /-- The contracts are equivalent. -/
  contract : fragment.contract.equivalent twin.contract = true
  /-- The implementations have the same type. -/
  implementationType?_eq : fragment.implementationType? = twin.implementationType?

namespace Fragment.Twins

variable {fragment twin : Fragment σ}

theorem contractName_eq (twins : fragment.Twins twin) : fragment.contractName = twin.contractName :=
  (Contract.equivalent_iff.mp twins.contract).1

theorem isImplemented_eq (twins : fragment.Twins twin) :
    fragment.isImplemented = twin.isImplemented := by
  rw [← isSome_implementationType?, twins.implementationType?_eq, isSome_implementationType?]

theorem hasMethod_eq (twins : fragment.Twins twin) (method : Signature) :
    fragment.hasMethod method = twin.hasMethod method :=
  Contract.declares_eq_of_equivalent twins.contract method

end Fragment.Twins

namespace Resolver

variable (resolver : Resolver σ) (scope : SearchScope) {interface other : Interface}

/-- The search for an implementation asks for the name of the contract and for the name and the identity
override of the interface. -/
theorem search_of_agree (agree : interface.Agree other) {contract same : Contract}
    (names : contract.name = same.name) :
    resolver.search contract scope interface = resolver.search same scope other := by
  have covers : ∀ candidate : Candidate σ,
      scope.covers interface candidate = scope.covers other candidate := by
    intro candidate
    rw [SearchScope.covers, SearchScope.covers, SearchScope.packagesFor, SearchScope.packagesFor,
      Interface.package, Interface.package, agree.name]
  have scanned : resolver.scan contract scope interface = resolver.scan same scope other := by
    rw [scan, scan]
    apply List.filter_congr
    intro candidate _
    rw [Contract.simpleName, Contract.simpleName, names, covers]
  have expected : expectedIdentity contract scope interface = expectedIdentity same scope other := by
    rw [expectedIdentity, expectedIdentity, Contract.simpleName, Contract.simpleName, names,
      agree.identityOverride]
  rw [search, search, scanned, expected, names]

theorem twins_resolve (agree : interface.Agree other) {contract same : Contract}
    (equivalent : contract.equivalent same = true) (cell number : Nat) :
    (resolver.resolve contract scope interface cell).Twins
      (resolver.resolve same scope other number) where
  contract := by
    rw [contract_resolve, contract_resolve]
    exact equivalent
  implementationType?_eq := by
    rw [resolve, resolve, Resolution.implementationType?_fragment,
      Resolution.implementationType?_fragment,
      resolver.search_of_agree scope agree (Contract.equivalent_iff.mp equivalent).1]

theorem twins_resolveAll (agree : interface.Agree other) {contracts same : List Contract}
    (equivalent : List.Forall₂ (fun left right => Contract.equivalent left right = true) contracts same)
    (cell number : Nat) :
    List.Forall₂ Fragment.Twins (resolver.resolveAll scope interface cell contracts)
      (resolver.resolveAll scope other number same) := by
  induction equivalent generalizing cell number with
  | nil => exact .nil
  | cons first _ ih =>
      exact .cons (resolver.twins_resolve scope agree first cell number) (ih (cell + 1) (number + 1))

theorem twins_compose (agree : interface.Agree other) {base twin : Fragment σ}
    (bases : base.Twins twin) (cell number : Nat) :
    List.Forall₂ Fragment.Twins (resolver.compose interface scope base cell).slots
      (resolver.compose other scope twin number).slots := by
  have names (left right : Contract) (same : left.equivalent right = true) : left.name = right.name :=
    (Contract.equivalent_iff.mp same).1
  have contracts := Distinct.forall₂_firstBy names agree.contracts
  rw [compose, compose, Composition.slots_append, Composition.slots_append, slots_bind_declared,
    slots_bind_declared]
  exact Composition.forall₂_place Fragment.Twins.contractName_eq Fragment.Twins.isImplemented_eq bases
    (resolver.twins_resolveAll scope agree contracts cell number)

end Resolver

namespace Composition

variable {composition other : Composition σ}

/-- Searching twin slots for a method ends at the same number, or nowhere. -/
private theorem find?_zipIdx_of_twins {slots others : List (Fragment σ)}
    (twins : List.Forall₂ Fragment.Twins slots others) (method : Signature) (number : Nat) :
    ((slots.zipIdx number).find? (fun entry => entry.1.hasMethod method) = none ∧
        (others.zipIdx number).find? (fun entry => entry.1.hasMethod method) = none) ∨
      ∃ slot fragment twin, Fragment.Twins fragment twin ∧
        (slots.zipIdx number).find? (fun entry => entry.1.hasMethod method) = some (fragment, slot) ∧
        (others.zipIdx number).find? (fun entry => entry.1.hasMethod method) = some (twin, slot) := by
  induction twins generalizing number with
  | nil => exact .inl ⟨rfl, rfl⟩
  | @cons fragment twin _ _ first _ ih =>
      rw [List.zipIdx_cons, List.zipIdx_cons, List.find?_cons, List.find?_cons]
      simp only [first.hasMethod_eq method]
      cases twin.hasMethod method with
      | true => exact .inr ⟨number, fragment, twin, first, rfl, rfl⟩
      | false => exact ih (number + 1)

/-- A method has no route in either of two compositions with twin slots, or it is routed to the same slot
in both. -/
theorem lookup?_of_twins (twins : List.Forall₂ Fragment.Twins composition.slots other.slots)
    (method : Signature) :
    (composition.dispatchTable.lookup? method = none ∧ other.dispatchTable.lookup? method = none) ∨
      ∃ slot fragment twin, fragment.Twins twin ∧
        composition.dispatchTable.lookup? method = some ⟨slot, fragment⟩ ∧
        other.dispatchTable.lookup? method = some ⟨slot, twin⟩ := by
  rw [lookup?_dispatchTable, lookup?_dispatchTable]
  rcases find?_zipIdx_of_twins twins method 0 with ⟨absent, missing⟩ | ⟨slot, fragment, twin, same, found, also⟩
  · rw [absent, missing]
    exact .inl ⟨rfl, rfl⟩
  · rw [found, also]
    exact .inr ⟨slot, fragment, twin, same, rfl, rfl⟩

theorem requireImplemented_of_twins
    (twins : List.Forall₂ Fragment.Twins composition.slots other.slots) :
    (composition.requireImplemented = .ok () ∧ other.requireImplemented = .ok ()) ∨
      ∃ fragment twin : Fragment σ, fragment.Twins twin ∧
        composition.requireImplemented =
          .error (.noImplementation composition.interfaceName fragment.contract) ∧
        other.requireImplemented = .error (.noImplementation other.interfaceName twin.contract) := by
  have placeholders : List.Forall₂ Fragment.Twins composition.placeholders other.placeholders := by
    refine List.rel_filter ?_ twins
    intro fragment twin same
    simp only [same.isImplemented_eq]
  simp only [requireImplemented]
  generalize composition.placeholders = waiting, other.placeholders = others at placeholders
  cases placeholders with
  | nil => exact .inl ⟨rfl, rfl⟩
  | @cons fragment twin _ _ first _ => exact .inr ⟨fragment, twin, first, rfl, rfl⟩

end Composition
end FragmentAssembly
