import FragmentAssembly.Proofs.Registrations.Algebra
import FragmentAssembly.Proofs.Resolution.Selection

/-!
# Resolution over merged registrations

Merging puts the registered types of the second registrations behind those of the first. So the first
registered type that is listed is one of the first registrations, if they have such a type at all, and
otherwise it is what the second ones give. Candidates in scope override both, and so does their ambiguity:
where the scan decides, merging changes nothing.
-/

namespace FragmentAssembly

variable {σ : Type}

namespace Registrations

private theorem findSome?_filter_of_passed {α : Type} {lookup? : String → Option α}
    {dropped : List String} (passed : ∀ name ∈ dropped, lookup? name = none) (names : List String) :
    (names.filter (· ∉ dropped)).findSome? lookup? = names.findSome? lookup? := by
  induction names with
  | nil => rfl
  | cons name others ih =>
      by_cases member : name ∈ dropped
      · rw [List.filter_cons_of_neg (by simpa using member), ih, List.findSome?_cons,
          passed name member]
      · rw [List.filter_cons_of_pos (by simpa using member), List.findSome?_cons, ih,
          List.findSome?_cons]

/-- Searching merged registrations for a contract is searching the first ones, then the second ones. The
names that merging drops were passed by before. -/
theorem findSome?_implementationsFor_merge {α : Type} (lookup? : String → Option α)
    (first second : Registrations) (contract : String) :
    ((first.merge second).implementationsFor contract).findSome? lookup? =
      ((first.implementationsFor contract).findSome? lookup?).or
        ((second.implementationsFor contract).findSome? lookup?) := by
  rw [implementationsFor_merge_eq_append, List.findSome?_append]
  cases found : (first.implementationsFor contract).findSome? lookup? with
  | some value => rfl
  | none =>
      have passed := List.findSome?_eq_none_iff.mp found
      rw [Option.none_or, Option.none_or]
      exact findSome?_filter_of_passed passed (second.implementationsFor contract)

end Registrations

namespace Resolver

variable (catalog : Catalog σ) (first second : Registrations) (contract : Contract)
  (scope : SearchScope) (interface : Interface)

/-- What is found over merged registrations is what is found over the first ones or else over the second
ones. -/
theorem candidate?_search_merge :
    (search ⟨catalog, first.merge second⟩ contract scope interface).candidate? =
      (search ⟨catalog, first⟩ contract scope interface).candidate?.or
        (search ⟨catalog, second⟩ contract scope interface).candidate? := by
  by_cases scanned : suitable ⟨catalog, first⟩ contract scope interface = []
  · have alone (registrations : Registrations) :
        (search ⟨catalog, registrations⟩ contract scope interface).candidate? =
          (registrations.implementationsFor contract.name).findSome? catalog.get? :=
      candidate?_search_of_none scanned
    rw [alone, alone, alone]
    exact Registrations.findSome?_implementationsFor_merge catalog.get? first second contract.name
  · have same (registrations : Registrations) :
        search ⟨catalog, registrations⟩ contract scope interface =
          search ⟨catalog, first⟩ contract scope interface :=
      search_registrations scanned registrations
    rw [same (first.merge second), same second, Option.or_self]

/-- Over merged registrations a contract gets the implementation that it has over the first ones, and if it
has none there, the one that it has over the second ones, or none. In the same cell it is the same
fragment. -/
theorem resolve_merge :
    (∀ cell,
      resolve ⟨catalog, first.merge second⟩ contract scope interface cell =
        if (resolve ⟨catalog, first⟩ contract scope interface cell).isImplemented then
          resolve ⟨catalog, first⟩ contract scope interface cell
        else
          resolve ⟨catalog, second⟩ contract scope interface cell) ∧
      ∀ cell other another,
        let merged := resolve ⟨catalog, first.merge second⟩ contract scope interface cell
        let before := resolve ⟨catalog, first⟩ contract scope interface other
        let behind := resolve ⟨catalog, second⟩ contract scope interface another
        (before.isImplemented = true → merged.implementationType? = before.implementationType?) ∧
          (before.isImplemented = false →
            merged.isImplemented = behind.isImplemented ∧
              merged.implementationType? = behind.implementationType?) := by
  have found := candidate?_search_merge catalog first second contract scope interface
  constructor
  · intro cell
    simp only [resolve, Resolution.isImplemented_fragment]
    cases chosen : (search ⟨catalog, first⟩ contract scope interface).candidate? with
    | some candidate =>
        rw [chosen, Option.some_or] at found
        rw [Option.isSome_some, if_pos rfl, Resolution.fragment, Resolution.fragment, found, chosen]
    | none =>
        rw [chosen, Option.none_or] at found
        rw [if_neg (by simp), Resolution.fragment, Resolution.fragment, found]
  · intro cell other another merged before behind
    simp only [merged, before, behind, resolve, Resolution.isImplemented_fragment,
      Resolution.implementationType?_fragment]
    constructor
    · intro present
      obtain ⟨candidate, chosen⟩ := Option.isSome_iff_exists.mp present
      rw [found, chosen, Option.some_or]
    · intro missing
      rw [Option.isSome_eq_false_iff, Option.isNone_iff_eq_none] at missing
      rw [found, missing, Option.none_or]
      exact ⟨rfl, rfl⟩

end Resolver
end FragmentAssembly
