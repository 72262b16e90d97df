import FragmentAssembly.Proofs.Composition.Dispatch
import FragmentAssembly.Proofs.Resolution.Layout

/-!
# Outlines of compositions

The outline of a fragment is what can be told without an instance of it: its contract and the type of its
implementation. Outlines decide which slot a fragment gets, which of two fragments stays there, and where
a method is routed. The cells that instances are kept in have no part in that, so resolving the same
interface twice gives the same outline.
-/

namespace FragmentAssembly

variable {σ : Type}

/-- What can be told of a fragment without its instance. -/
def Fragment.outline (fragment : Fragment σ) : Contract × Option String :=
  (fragment.contract, fragment.implementationType?)

/-- What can be told of a target without the instance of its fragment. -/
def Target.outline (target : Target σ) : Nat × Contract × Option String :=
  (target.slot, target.fragment.outline)

namespace Fragment

theorem isSome_implementationType? (fragment : Fragment σ) :
    fragment.implementationType?.isSome = fragment.isImplemented := by
  rw [implementationType?, Option.isSome_map, isImplemented]

theorem isImplemented_eq_of_outline {fragment other : Fragment σ}
    (same : fragment.outline = other.outline) : fragment.isImplemented = other.isImplemented := by
  have types := congrArg (fun outline => outline.2.isSome) same
  simpa only [outline, isSome_implementationType?] using types

theorem contractName_eq_of_outline {fragment other : Fragment σ}
    (same : fragment.outline = other.outline) : fragment.contractName = other.contractName :=
  congrArg (fun outline => outline.1.name) same

end Fragment

namespace Composition

theorem map_outline_eq_iff {slots others : List (Fragment σ)} :
    slots.map Fragment.outline = others.map Fragment.outline ↔
      List.Forall₂ (fun slot twin => slot.outline = twin.outline) slots others := by
  rw [← List.forall₂_eq_eq_eq, List.forall₂_map_left_iff, List.forall₂_map_right_iff]

/-- Where a fragment is placed depends on the outlines of the slots. -/
theorem map_outline_place (fragment : Fragment σ) {slots others : List (Fragment σ)}
    (same : slots.map Fragment.outline = others.map Fragment.outline) :
    (place fragment slots).map Fragment.outline = (place fragment others).map Fragment.outline :=
  map_outline_eq_iff.mpr
    (forall₂_place Fragment.contractName_eq_of_outline Fragment.isImplemented_eq_of_outline rfl
      (map_outline_eq_iff.mp same))

theorem map_outline_lookup? {composition other : Composition σ}
    (same : composition.slots.map Fragment.outline = other.slots.map Fragment.outline)
    (method : Signature) :
    (composition.dispatchTable.lookup? method).map Target.outline =
      (other.dispatchTable.lookup? method).map Target.outline := by
  have searched : ∀ composition : Composition σ,
      (composition.dispatchTable.lookup? method).map Target.outline =
        ((composition.slots.map Fragment.outline).zipIdx.find? fun entry =>
          entry.1.1.declares method).map fun entry => (entry.2, entry.1) := by
    intro composition
    rw [lookup?_dispatchTable, Option.map_map, List.zipIdx_map, List.find?_map, Option.map_map]
    rfl
  rw [searched, searched, same]

end Composition

namespace Resolver

variable (resolver : Resolver σ) (scope : SearchScope) (interface : Interface)

theorem outline_resolve (contract : Contract) (cell other : Nat) :
    (resolver.resolve contract scope interface cell).outline =
      (resolver.resolve contract scope interface other).outline := by
  simp only [resolve, Resolution.fragment]
  cases (resolver.search contract scope interface).candidate? with
  | none => rfl
  | some candidate => rfl

theorem map_outline_resolveAll (contracts : List Contract) (cell other : Nat) :
    (resolver.resolveAll scope interface cell contracts).map Fragment.outline =
      (resolver.resolveAll scope interface other contracts).map Fragment.outline := by
  induction contracts generalizing cell other with
  | nil => rfl
  | cons contract others ih =>
      rw [resolveAll, resolveAll, List.map_cons, List.map_cons, ih (cell + 1) (other + 1),
        outline_resolve resolver scope interface contract cell other]

/-- Resolving an interface twice gives the same outline, whatever cells the instances get. -/
theorem map_outline_compose (base : Fragment σ) (cell other : Nat) :
    (resolver.compose interface scope base cell).slots.map Fragment.outline =
      (resolver.compose interface scope base other).slots.map Fragment.outline := by
  rw [compose, compose, Composition.slots_append, Composition.slots_append, slots_bind_declared,
    slots_bind_declared]
  exact Composition.map_outline_place base (map_outline_resolveAll resolver scope interface _ cell other)

end Resolver
end FragmentAssembly
