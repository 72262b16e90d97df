import Mathlib.Data.List.Forall2
import Mathlib.Data.List.Perm.Basic
import FragmentAssembly.Fragment.Basic
import FragmentAssembly.StoreModule

/-!
# Equivalent contracts and interfaces

Equivalence of contracts ignores the order of the methods and nothing else, and interfaces are equivalent
if their contracts are, one by one. Whoever asks a contract only for its name, its type parameters and
whether it declares a method cannot tell equivalent contracts apart. The check whether an instance supports
every method goes through the methods in order, but does not depend on it.
-/

namespace FragmentAssembly

variable {σ : Type}

namespace Contract

variable {left right : Contract}

theorem equivalent_iff :
    left.equivalent right = true ↔
      left.name = right.name ∧ left.typeParameters = right.typeParameters ∧
        ∀ method, method ∈ left.methods ↔ method ∈ right.methods := by
  simp only [equivalent, Bool.and_eq_true, decide_eq_true_eq, List.all_eq_true, declares_iff]
  constructor
  · rintro ⟨⟨⟨names, parameters⟩, leftwards⟩, rightwards⟩
    exact ⟨names, parameters, fun method => ⟨leftwards method, rightwards method⟩⟩
  · rintro ⟨names, parameters, methods⟩
    exact ⟨⟨⟨names, parameters⟩, fun method => (methods method).mp⟩, fun method => (methods method).mpr⟩

theorem equivalent_symm (same : left.equivalent right = true) : right.equivalent left = true := by
  obtain ⟨names, parameters, methods⟩ := equivalent_iff.mp same
  exact equivalent_iff.mpr ⟨names.symm, parameters.symm, fun method => (methods method).symm⟩

theorem declares_eq_of_equivalent (same : left.equivalent right = true) (method : Signature) :
    left.declares method = right.declares method := by
  rw [Bool.eq_iff_iff, declares_iff, declares_iff]
  exact (equivalent_iff.mp same).2.2 method

theorem perm_methods (same : left.equivalent right = true) : left.methods.Perm right.methods :=
  (List.perm_ext_iff_of_nodup left.methods_nodup right.methods_nodup).mpr
    (equivalent_iff.mp same).2.2

end Contract

namespace Interface

theorem equivalentContracts_iff {lefts rights : List Contract} :
    equivalentContracts lefts rights = true ↔
      List.Forall₂ (fun left right => Contract.equivalent left right = true) lefts rights := by
  induction lefts generalizing rights with
  | nil =>
      cases rights with
      | nil => exact ⟨fun _ => .nil, fun _ => rfl⟩
      | cons right rights => exact ⟨nofun, nofun⟩
  | cons left lefts ih =>
      cases rights with
      | nil => exact ⟨nofun, nofun⟩
      | cons right rights =>
          rw [equivalentContracts, Bool.and_eq_true, List.forall₂_cons, ih]

/-- The fields of equivalent interfaces are equal, up to the order of methods in the contracts. -/
structure Agree (left right : Interface) : Prop where
  /-- The names are equal. -/
  name : left.name = right.name
  /-- The identity overrides are equal. -/
  identityOverride : left.identityOverride = right.identityOverride
  /-- The types of stored objects are equal. -/
  domainType : left.domainType = right.domainType
  /-- The types of keys are equal. -/
  idType : left.idType = right.idType
  /-- Both are reactive or both are not. -/
  isReactive : left.isReactive = right.isReactive
  /-- The contracts are equivalent, one by one. -/
  contracts : List.Forall₂ (fun left right => Contract.equivalent left right = true) left.contracts
    right.contracts

theorem equivalent_iff {left right : Interface} : left.equivalent right = true ↔ left.Agree right := by
  simp only [equivalent, Bool.and_eq_true, decide_eq_true_eq, equivalentContracts_iff]
  constructor
  · rintro ⟨⟨⟨⟨⟨name, identityOverride⟩, domainType⟩, idType⟩, isReactive⟩, contracts⟩
    exact { name, identityOverride, domainType, idType, isReactive, contracts }
  · intro agree
    exact ⟨⟨⟨⟨⟨agree.name, agree.identityOverride⟩, agree.domainType⟩, agree.idType⟩,
      agree.isReactive⟩, agree.contracts⟩

theorem equivalent_symm {left right : Interface} (same : left.equivalent right = true) :
    right.equivalent left = true := by
  have agree := equivalent_iff.mp same
  refine equivalent_iff.mpr
    { name := agree.name.symm
      identityOverride := agree.identityOverride.symm
      domainType := agree.domainType.symm
      idType := agree.idType.symm
      isReactive := agree.isReactive.symm
      contracts := List.Forall₂.flip (agree.contracts.imp ?_) }
  exact fun _ _ => Contract.equivalent_symm

end Interface

/-- A store module that accepts both of two equivalent interfaces or none. -/
def StoreModule.Impartial (storeModule : StoreModule) : Prop :=
  ∀ left right : Interface, left.equivalent right = true →
    storeModule.accepts left = storeModule.accepts right

theorem StoreModule.impartial_imperative (name keyStart : String) :
    (imperative name keyStart).Impartial := by
  intro left right same
  exact congrArg not (Interface.equivalent_iff.mp same).isReactive

theorem StoreModule.impartial_reactive (name keyStart : String) :
    (reactive name keyStart).Impartial := by
  intro left right same
  exact (Interface.equivalent_iff.mp same).isReactive

namespace Implementation

/-- An instance whose check asks a contract for its name, its type parameters and whether it declares a
method, and not for the order of its methods. -/
def ChecksUnordered (implementation : Implementation σ) : Prop :=
  ∃ verdict : String → List String → (Signature → Bool) → Bool, ∀ contract : Contract,
    implementation.satisfies contract =
      verdict contract.name contract.typeParameters contract.declares

variable {left right : Contract}

theorem supportsAll_of_equivalent (supports : Signature → Bool)
    (same : left.equivalent right = true) : supportsAll supports left = supportsAll supports right :=
  (Contract.perm_methods same).all_eq

/-- An instance that is checked by the methods that it supports is checked without regard to their
order. -/
theorem checksUnordered_of_supportsAll {implementation : Implementation σ} (supports : Signature → Bool)
    (check : implementation.satisfies = supportsAll supports) : implementation.ChecksUnordered := by
  classical
  refine ⟨fun _ _ declares => decide (∀ method, declares method = true → supports method = true), ?_⟩
  intro contract
  rw [check, Bool.eq_iff_iff, supportsAll, List.all_eq_true, decide_eq_true_eq]
  simp only [Contract.declares_iff]

theorem ChecksUnordered.satisfies_eq {implementation : Implementation σ}
    (unordered : implementation.ChecksUnordered) (same : left.equivalent right = true) :
    implementation.satisfies left = implementation.satisfies right := by
  obtain ⟨verdict, asks⟩ := unordered
  obtain ⟨names, parameters, -⟩ := Contract.equivalent_iff.mp same
  rw [asks, asks, names, parameters, funext (Contract.declares_eq_of_equivalent same)]

theorem perm_missing (implementation : Implementation σ) (same : left.equivalent right = true) :
    (implementation.missing left).Perm (implementation.missing right) :=
  (Contract.perm_methods same).filter _

end Implementation

end FragmentAssembly
