import FragmentAssembly.Proofs.Resolution.Selection

/-!
# Excluded types

A scope excludes types by the start of their names. The scan leaves them out, but registered types are
bound without a look at the scope: an excluded type is bound exactly if nothing suits and it is the first
registered type that is listed. Filling the placeholders of a composition does the same slot by slot.
-/

namespace FragmentAssembly

variable {σ : Type}

/-- The name of a type begins with one of the excluded starts. -/
def SearchScope.Excluded (scope : SearchScope) (typeName : String) : Prop :=
  ∃ start ∈ scope.excludeFilters, start.toList <+: typeName.toList

namespace Resolver

variable (resolver : Resolver σ) (scope : SearchScope) (interface : Interface)

/-- A type is the first of those registered for a contract that is listed. -/
def FirstRegistered (contract : Contract) (typeName : String) : Prop :=
  ∃ front back,
    resolver.registrations.implementationsFor contract.name = front ++ typeName :: back ∧
      (∀ other ∈ front, ∀ listed ∈ resolver.catalog.candidates, listed.typeName ≠ other) ∧
      ∃ listed ∈ resolver.catalog.candidates, listed.typeName = typeName

variable {resolver scope interface}

theorem exists_findSome?_iff {contract : Contract} {typeName : String} :
    (∃ candidate,
      (resolver.registrations.implementationsFor contract.name).findSome? resolver.catalog.get? =
        some candidate ∧ candidate.typeName = typeName) ↔
      resolver.FirstRegistered contract typeName := by
  constructor
  · rintro ⟨candidate, found, rfl⟩
    obtain ⟨front, registered, back, split, got, before⟩ := List.findSome?_eq_some_iff.mp found
    have same : candidate.typeName = registered := by simpa using List.find?_some got
    refine ⟨front, back, same ▸ split, ?_, candidate, List.mem_of_find?_eq_some got, rfl⟩
    intro other member
    exact (resolver.catalog.get?_eq_none_iff other).mp (before other member)
  · rintro ⟨front, back, split, before, candidate, listed, rfl⟩
    refine ⟨candidate, List.findSome?_eq_some_iff.mpr ?_, rfl⟩
    refine ⟨front, candidate.typeName, back, split, Catalog.get?_typeName listed, ?_⟩
    intro other member
    exact (resolver.catalog.get?_eq_none_iff other).mpr (before other member)

/-- What is found suits, unless nothing suits. -/
theorem mem_suitable_of_candidate? {contract : Contract} {candidate : Candidate σ}
    (some : resolver.suitable contract scope interface ≠ [])
    (found : (resolver.search contract scope interface).candidate? = .some candidate) :
    candidate ∈ resolver.suitable contract scope interface := by
  by_cases several : 2 ≤ (resolver.suitable contract scope interface).length
  · rw [candidate?_search_of_several several] at found
    exact List.mem_of_find?_eq_some found
  · have one : (resolver.suitable contract scope interface).length = 1 := by
      have positive := List.length_pos_iff.mpr some
      omega
    obtain ⟨only, single⟩ := List.length_eq_one_iff.mp one
    rw [search_of_suitable_single single] at found
    cases found
    simp [single]

theorem not_excluded_of_mem_suitable {contract : Contract} {candidate : Candidate σ}
    (suits : candidate ∈ resolver.suitable contract scope interface) :
    ¬scope.Excluded candidate.typeName := by
  rintro ⟨start, listed, begins⟩
  exact (of_decide_eq_true (List.mem_filter.mp suits).2).included start listed begins

/-- Resolution binds an excluded type only from the registrations. -/
theorem resolve_excluded_iff {typeName : String} (excluded : scope.Excluded typeName)
    (contract : Contract) (cell : Nat) :
    (resolver.resolve contract scope interface cell).implementationType? = some typeName ↔
      resolver.suitable contract scope interface = [] ∧ resolver.FirstRegistered contract typeName := by
  rw [resolve, Resolution.implementationType?_fragment, Option.map_eq_some_iff]
  by_cases none : resolver.suitable contract scope interface = []
  · rw [candidate?_search_of_none none, exists_findSome?_iff]
    exact ⟨fun first => ⟨none, first⟩, And.right⟩
  · constructor
    · rintro ⟨candidate, found, rfl⟩
      exact absurd excluded (not_excluded_of_mem_suitable (mem_suitable_of_candidate? none found))
    · exact fun registered => absurd registered.1 none

variable (resolver interface)

/-- Excluded types are bound from the registrations only: by resolution, and where a placeholder of a
composition is filled. -/
theorem excluded_only_registered {typeName : String} (excluded : scope.Excluded typeName) :
    (∀ (contract : Contract) (cell : Nat),
      (resolver.resolve contract scope interface cell).implementationType? = some typeName ↔
        resolver.suitable contract scope interface = [] ∧
          resolver.FirstRegistered contract typeName) ∧
      ∀ (composition : Composition σ) (cell number : Nat) (slot filled : Fragment σ),
        composition.slots[number]? = some slot → slot.isImplemented = false →
          (resolver.bind composition scope interface cell).slots[number]? = some filled →
            (filled.implementationType? = some typeName ↔
              resolver.suitable slot.contract scope interface = [] ∧
                resolver.FirstRegistered slot.contract typeName) := by
  refine ⟨resolve_excluded_iff excluded, ?_⟩
  intro composition cell number slot filled stood waiting stands
  rw [slots_bind, getElem?_fill, stood, Option.map_some, if_neg (by simp [waiting])] at stands
  cases stands
  exact resolve_excluded_iff excluded slot.contract _

/-- One type, which is registered for a contract of another package. -/
def vendored : Resolver Unit where
  catalog := ⟨[{ typeName := "q.X", explicitIdentity := none, factory := .abort "" }], by simp⟩
  registrations := Registrations.empty.register "p.S" "q.X"

/-- The types of that package are excluded. -/
def withoutVendor : SearchScope :=
  { SearchScope.ofPackages ["p"] with excludeFilters := ["q."] }

theorem excluded_only_registered_vendored :
    let composition : Composition Unit := .ofList [.placeholder (.named "p.S")]
    let interface := Interface.named "p.Repository" "" ""
    withoutVendor.Excluded "q.X" ∧
      ∃ filled, (vendored.bind composition withoutVendor interface 0).slots[0]? = some filled ∧
        filled.implementationType? = some "q.X" := by
  intro composition interface
  have excluded : withoutVendor.Excluded "q.X" := ⟨"q.", by decide, by decide⟩
  have none : vendored.suitable (.named "p.S") withoutVendor interface = [] :=
    List.filter_eq_nil_iff.mpr (by decide +kernel)
  have registered : vendored.FirstRegistered (.named "p.S") "q.X" :=
    ⟨[], [], by decide +kernel, by simp, _, List.mem_cons_self, rfl⟩
  have stands : (vendored.bind composition withoutVendor interface 0).slots[0]? =
      some (vendored.resolve (.named "p.S") withoutVendor interface 0) := by
    rw [slots_bind]
    rfl
  obtain ⟨-, bound⟩ := excluded_only_registered vendored interface excluded
  exact ⟨excluded, _, stands,
    (bound composition 0 0 (.placeholder (.named "p.S")) _ rfl rfl stands).mpr ⟨none, registered⟩⟩

/-- An excluded type is bound because it is registered. -/
theorem registered_excluded_is_bound :
    let interface := Interface.named "p.Repository" "" ""
    (∃ start ∈ withoutVendor.excludeFilters, start.toList <+: "q.X".toList) ∧
      (vendored.resolve (.named "p.S") withoutVendor interface 0).implementationType? =
        some "q.X" := by
  decide +kernel

end Resolver
end FragmentAssembly
