import FragmentAssembly.Assembler
import FragmentAssembly.Proofs.Composition.Dispatch

/-!
# Routing in a repository

A call is routed to the first slot that declares its method. The errors of a route that leads nowhere
name the interface that the repository serves, which may differ from the one that its composition was
attached to before the repository was made.
-/

namespace FragmentAssembly
namespace Repository

variable {σ : Type}

theorem lookup?_table_eq_some_iff (repository : Repository σ) (method : Signature) (target : Target σ) :
    repository.table.lookup? method = some target ↔
      repository.composition.DeclaresFirst method target :=
  repository.composition.lookup?_eq_some_iff method target

theorem declares_iff_exists_declaresFirst (repository : Repository σ) (method : Signature) :
    repository.declares method = true ↔
      ∃ target, repository.composition.DeclaresFirst method target := by
  rw [declares, Option.isSome_iff_exists]
  constructor
  · rintro ⟨target, found⟩
    exact ⟨target, (repository.lookup?_table_eq_some_iff method target).mp found⟩
  · rintro ⟨target, first⟩
    exact ⟨target, (repository.lookup?_table_eq_some_iff method target).mpr first⟩

theorem declares_eq_false_iff (repository : Repository σ) (method : Signature) :
    repository.declares method = false ↔
      ∀ fragment ∈ repository.composition.slots, fragment.hasMethod method = false := by
  have present := repository.composition.isSome_lookup?_dispatchTable method
  rw [← Bool.not_eq_true, declares, table, present]
  simp

theorem target_of_not_declares {repository : Repository σ} {method : Signature}
    (undeclared : repository.declares method = false) :
    repository.target method = .error (.methodNotFound repository.interface.name method.display) := by
  rw [declares, Option.isSome_eq_false_iff, Option.isNone_iff_eq_none] at undeclared
  rw [target, DispatchTable.resolve, undeclared]

/-- The first slot that declares a method answers it, or is reported as a placeholder. -/
theorem target_of_declaresFirst {repository : Repository σ} {method : Signature} {target : Target σ}
    (first : repository.composition.DeclaresFirst method target) :
    repository.target method =
      if target.fragment.isImplemented then
        .ok target.fragment
      else
        .error (.noImplementation repository.composition.interfaceName target.fragment.contract) := by
  have found := (repository.lookup?_table_eq_some_iff method target).mpr first
  rw [Repository.target, DispatchTable.resolve, found]
  cases implemented : target.fragment.isImplemented with
  | true => simp [implemented]
  | false =>
      simp only [implemented]
      rfl

/-- A fragment that answers a method is implemented, and it stands in the first slot that declares the
method. -/
theorem declaresFirst_of_target {repository : Repository σ} {method : Signature}
    {fragment : Fragment σ} (routed : repository.target method = .ok fragment) :
    fragment.isImplemented = true ∧
      ∃ slot, repository.composition.DeclaresFirst method ⟨slot, fragment⟩ := by
  cases declared : repository.declares method with
  | false =>
      rw [target_of_not_declares declared] at routed
      cases routed
  | true =>
      obtain ⟨target, first⟩ := (repository.declares_iff_exists_declaresFirst method).mp declared
      rw [target_of_declaresFirst first] at routed
      split at routed
      · rename_i implemented
        cases routed
        exact ⟨implemented, target.slot, first⟩
      · cases routed

theorem mem_slots_of_target {repository : Repository σ} {method : Signature} {fragment : Fragment σ}
    (routed : repository.target method = .ok fragment) : fragment ∈ repository.composition.slots := by
  obtain ⟨-, slot, first⟩ := declaresFirst_of_target routed
  exact List.mem_of_getElem? first.getElem?_eq

/-- The ways to make a repository: from fragments, whatever interface they were attached to, and by an
assembler. -/
inductive Built : Repository σ → Prop where
  | ofComposition (interface : Interface) (composition : Composition σ) (exposesMetadata : Bool) :
      Built (.ofComposition interface composition exposesMetadata)
  | create {assembler : Assembler σ} {interface : Interface} {base : Fragment σ} {cell : Nat}
      {repository : Repository σ}
      (created : assembler.create interface base cell = .ok repository) : Built repository

theorem Built.interfaceName {repository : Repository σ} (built : repository.Built) :
    repository.composition.interfaceName = repository.interface.name := by
  cases built with
  | ofComposition interface composition exposesMetadata => rfl
  | create created =>
      rename_i assembler interface base cell
      rw [Assembler.create] at created
      cases responsible : assembler.responsible interface with
      | error error =>
          rw [responsible] at created
          cases created
      | ok storeModule =>
          cases complete : assembler.checkComplete (assembler.compose interface base cell) with
          | error error =>
              simp [responsible, complete, bind, Except.bind] at created
          | ok checked =>
              simp only [responsible, complete, bind, Except.bind, pure, Except.pure] at created
              cases created
              rfl

end Repository
end FragmentAssembly
