import FragmentAssembly.Assembler
import FragmentAssembly.Proofs.Name.Segments
import FragmentAssembly.Proofs.Resolution.Layout

/-!
# Which implementation is selected

A candidate suits a contract by its name alone: the last segment, the excluded starts, and the packages
that are searched. Resolution selects among the suitable candidates by number and identity, and asks the
registrations only if there are none.
-/

namespace FragmentAssembly

variable {σ : Type}

/-- What makes a candidate count for a contract of an interface. -/
structure Candidate.Suits (candidate : Candidate σ) (contract : Contract) (scope : SearchScope)
    (interface : Interface) : Prop where
  /-- The last segment of the type name is the contract's simple name with the postfix. -/
  named : Name.EndsIn candidate.typeName.toList
    (contract.simpleName ++ scope.implementationPostfix).toList
  /-- The type name has no excluded start. -/
  included : ∀ start ∈ scope.excludeFilters, ¬start.toList <+: candidate.typeName.toList
  /-- The type stands under a base package or, if there are none, under the interface's package. -/
  located : ∃ base,
    (base ∈ scope.basePackages ∨ scope.basePackages = [] ∧ base = interface.package) ∧
      (base = "" ∨ base.toList ++ ['.'] <+: candidate.typeName.toList)

namespace SearchScope

/-- A package is within a base exactly if the type's name starts with the base and a dot. -/
theorem isWithin_beforeLastSegment_iff (text base : List Char) :
    isWithin (Name.beforeLastSegment text) base = true ↔ base = [] ∨ base ++ ['.'] <+: text := by
  rcases Name.exists_last_dot text with plain | ⟨front, segment, plain, rfl⟩
  · have unreached : ¬base ++ ['.'] <+: text := by
      intro start
      have dot : '.' ∈ base ++ ['.'] := by simp
      exact plain (start.subset dot)
    rw [Name.beforeLastSegment_of_notMem plain]
    cases base with
    | nil => simp [isWithin]
    | cons first rest => simpa [isWithin] using unreached
  · rw [Name.beforeLastSegment_append_dot plain, Name.prefix_append_dot_iff plain]
    simp only [isWithin, Bool.or_eq_true, List.isEmpty_iff, decide_eq_true_eq,
      List.isPrefixOf_iff_prefix, or_assoc]

theorem excludes_eq_false_iff (scope : SearchScope) (typeName : String) :
    scope.excludes typeName = false ↔
      ∀ start ∈ scope.excludeFilters, ¬start.toList <+: typeName.toList := by
  simp only [excludes, List.any_eq_false, List.isPrefixOf_iff_prefix]

theorem mem_packagesFor (scope : SearchScope) (interface : Interface) (base : String) :
    base ∈ scope.packagesFor interface ↔
      base ∈ scope.basePackages ∨ scope.basePackages = [] ∧ base = interface.package := by
  rw [packagesFor]
  cases scope.basePackages with
  | nil => simp
  | cons first others => simp

theorem covers_iff (scope : SearchScope) (interface : Interface) (candidate : Candidate σ) :
    scope.covers interface candidate = true ↔
      (∀ start ∈ scope.excludeFilters, ¬start.toList <+: candidate.typeName.toList) ∧
        ∃ base,
          (base ∈ scope.basePackages ∨ scope.basePackages = [] ∧ base = interface.package) ∧
            (base = "" ∨ base.toList ++ ['.'] <+: candidate.typeName.toList) := by
  have located : (scope.packagesFor interface).any
        (fun base => isWithin candidate.package.toList base.toList) = true ↔
      ∃ base, (base ∈ scope.basePackages ∨ scope.basePackages = [] ∧ base = interface.package) ∧
        (base = "" ∨ base.toList ++ ['.'] <+: candidate.typeName.toList) := by
    simp only [List.any_eq_true, mem_packagesFor, Candidate.package, Name.package,
      String.toList_ofList, isWithin_beforeLastSegment_iff, String.toList_eq_nil_iff]
  rw [covers, Bool.and_eq_true, Bool.not_eq_true', excludes_eq_false_iff, located]

end SearchScope

theorem Candidate.suits_iff (candidate : Candidate σ) (contract : Contract) (scope : SearchScope)
    (interface : Interface) :
    candidate.Suits contract scope interface ↔
      (candidate.simpleName = contract.simpleName ++ scope.implementationPostfix &&
        scope.covers interface candidate) = true := by
  have named : candidate.simpleName = contract.simpleName ++ scope.implementationPostfix ↔
      Name.EndsIn candidate.typeName.toList
        (contract.simpleName ++ scope.implementationPostfix).toList := by
    rw [← Name.lastSegment_eq_iff, ← String.toList_inj, simpleName, Name.simple, String.toList_ofList]
  rw [Bool.and_eq_true, decide_eq_true_eq, named, SearchScope.covers_iff]
  constructor
  · intro suits
    exact ⟨suits.named, suits.included, suits.located⟩
  · rintro ⟨named, included, located⟩
    exact ⟨named, included, located⟩

instance (candidate : Candidate σ) (contract : Contract) (scope : SearchScope)
    (interface : Interface) : Decidable (candidate.Suits contract scope interface) :=
  decidable_of_iff _ (candidate.suits_iff contract scope interface).symm

namespace Catalog

theorem get?_eq_none_iff (catalog : Catalog σ) (typeName : String) :
    catalog.get? typeName = none ↔ ∀ candidate ∈ catalog.candidates, candidate.typeName ≠ typeName := by
  simp [get?]

theorem get?_typeName {catalog : Catalog σ} {candidate : Candidate σ}
    (listed : candidate ∈ catalog.candidates) : catalog.get? candidate.typeName = some candidate := by
  have distinct := List.pairwise_map.mp catalog.nodup
  obtain ⟨front, back, split⟩ := List.append_of_mem listed
  rw [get?, List.find?_eq_some_iff_append]
  refine ⟨by simp, front, back, split, ?_⟩
  intro other before
  rw [split, List.pairwise_append] at distinct
  have different := distinct.2.2 other before candidate List.mem_cons_self
  simpa using different

end Catalog

namespace Resolver

variable (resolver : Resolver σ) (contract : Contract) (scope : SearchScope) (interface : Interface)

/-- The candidates that suit a contract, in order of registration. -/
def suitable : List (Candidate σ) :=
  resolver.catalog.candidates.filter fun candidate => candidate.Suits contract scope interface

theorem scan_eq_suitable :
    resolver.scan contract scope interface = resolver.suitable contract scope interface := by
  rw [scan, suitable]
  apply List.filter_congr
  intro candidate _
  have same := candidate.suits_iff contract scope interface
  rw [Bool.eq_iff_iff, decide_eq_true_eq]
  exact same.symm

/-- Consulting the registrations finds the first registered type that is listed. -/
theorem candidate?_consult (catalog : Catalog σ) (unknown typeNames : List String) :
    (consult catalog unknown typeNames).candidate? = typeNames.findSome? catalog.get? := by
  induction typeNames generalizing unknown with
  | nil => rfl
  | cons typeName others ih =>
      rw [consult, List.findSome?_cons]
      cases catalog.get? typeName with
      | some candidate => rfl
      | none => exact ih (unknown ++ [typeName])

variable {resolver contract scope interface}

theorem search_of_suitable_single {candidate : Candidate σ}
    (only : resolver.suitable contract scope interface = [candidate]) :
    resolver.search contract scope interface = .scanned candidate := by
  rw [search, scan_eq_suitable, only]

theorem candidate?_search_of_several
    (several : 2 ≤ (resolver.suitable contract scope interface).length) :
    (resolver.search contract scope interface).candidate? =
      (resolver.suitable contract scope interface).find? fun candidate =>
        candidate.identity = expectedIdentity contract scope interface := by
  rw [search, scan_eq_suitable]
  match resolver.suitable contract scope interface, several with
  | first :: second :: others, _ =>
      simp only
      cases (first :: second :: others).find? _ with
      | some candidate => rfl
      | none => rfl

/-- Without suitable candidates the registrations decide. -/
theorem candidate?_search_of_none (none : resolver.suitable contract scope interface = []) :
    (resolver.search contract scope interface).candidate? =
      (resolver.registrations.implementationsFor contract.name).findSome? resolver.catalog.get? := by
  rw [search, scan_eq_suitable, none]
  exact candidate?_consult _ _ _

/-- If a candidate suits, it does not matter what is registered. -/
theorem search_registrations (some : resolver.suitable contract scope interface ≠ [])
    (registrations : Registrations) :
    search ⟨resolver.catalog, registrations⟩ contract scope interface =
      resolver.search contract scope interface := by
  have same : suitable ⟨resolver.catalog, registrations⟩ contract scope interface =
      resolver.suitable contract scope interface := rfl
  rw [search, search, scan_eq_suitable, scan_eq_suitable, same]
  match resolver.suitable contract scope interface, some with
  | [_], _ => rfl
  | _ :: _ :: _, _ => rfl

end Resolver

namespace Resolution

theorem fragment_of_candidate {resolution : Resolution σ} {candidate : Candidate σ}
    (found : resolution.candidate? = some candidate) (contract : Contract) (cell : Nat) :
    resolution.fragment contract cell = candidate.bind contract cell := by
  rw [fragment, found]

theorem fragment_of_none {resolution : Resolution σ} (missing : resolution.candidate? = none)
    (contract : Contract) (cell : Nat) : resolution.fragment contract cell = .placeholder contract := by
  rw [fragment, missing]

end Resolution

namespace World

/-- A fragment that is resolved for a cell which was not handed out has no instance. -/
theorem isMaterialized_of_unused {world : World σ} {cell : Nat}
    (unused : world.instances.next ≤ cell) (resolver : Resolver σ) (contract : Contract)
    (scope : SearchScope) (interface : Interface) :
    world.isMaterialized (resolver.resolve contract scope interface cell) = false := by
  have empty := world.instances.fresh cell unused
  simp only [Resolver.resolve, Resolution.fragment]
  cases (resolver.search contract scope interface).candidate? with
  | none => rfl
  | some candidate =>
      change (world.instances.content? cell).isSome = false
      rw [empty]
      rfl

theorem isMaterialized_resolve (world : World σ) (resolver : Resolver σ) (contract : Contract)
    (scope : SearchScope) (interface : Interface) :
    (world.resolve resolver contract scope interface).2.isMaterialized
      (world.resolve resolver contract scope interface).1 = false := by
  have unmade := isMaterialized_of_unused (Nat.le_refl world.instances.next) resolver contract scope
    interface
  exact unmade

/-- Resolution gives a fragment of the contract without an instance. A single suitable candidate is
bound whatever its identity, of several the first one with the expected identity, or none. Only if no
candidate suits, the registrations decide: the first registered type that is listed is bound. -/
theorem resolve_selects (world : World σ) (resolver : Resolver σ) (contract : Contract)
    (scope : SearchScope) (interface : Interface) :
    let suitable := resolver.suitable contract scope interface
    let registered := resolver.registrations.implementationsFor contract.name
    let expected :=
      interface.identityOverride.getD (Name.lowerCamel contract.simpleName) ++
        scope.implementationPostfix
    let fragment := (world.resolve resolver contract scope interface).1
    let after := (world.resolve resolver contract scope interface).2
    let bound := fun candidate : Candidate σ => candidate.bind contract world.instances.next
    fragment.contract = contract ∧
      after.isMaterialized fragment = false ∧
      (∀ candidate, suitable = [candidate] → fragment = bound candidate) ∧
      (2 ≤ suitable.length →
        (∀ front candidate back, suitable = front ++ candidate :: back →
          (∀ other ∈ front, other.identity ≠ expected) → candidate.identity = expected →
            fragment = bound candidate) ∧
        ((∀ candidate ∈ suitable, candidate.identity ≠ expected) →
          fragment = .placeholder contract)) ∧
      (suitable ≠ [] → ∀ registrations,
        world.resolve ⟨resolver.catalog, registrations⟩ contract scope interface =
          world.resolve resolver contract scope interface) ∧
      (suitable = [] →
        (∀ front candidate back, registered = front ++ candidate.typeName :: back →
          (∀ other ∈ front, ∀ listed ∈ resolver.catalog.candidates, listed.typeName ≠ other) →
            candidate ∈ resolver.catalog.candidates → fragment = bound candidate) ∧
        ((∀ other ∈ registered, ∀ listed ∈ resolver.catalog.candidates, listed.typeName ≠ other) →
          fragment = .placeholder contract)) := by
  intro suitable registered expected fragment after bound
  refine ⟨Resolver.contract_resolve _ _ _ _ _, world.isMaterialized_resolve _ _ _ _, ?_, ?_, ?_, ?_⟩
  · intro candidate only
    have found := congrArg Resolution.candidate? (Resolver.search_of_suitable_single only)
    exact Resolution.fragment_of_candidate found contract _
  · intro several
    have told := Resolver.candidate?_search_of_several several
    constructor
    · intro front candidate back split before same
      have first : suitable.find? (fun other => decide (other.identity = expected)) =
          some candidate := by
        rw [List.find?_eq_some_iff_append]
        refine ⟨decide_eq_true same, front, back, split, ?_⟩
        intro other member
        simpa using before other member
      exact Resolution.fragment_of_candidate (told.trans first) contract _
    · intro different
      have none : suitable.find? (fun other => decide (other.identity = expected)) = none := by
        rw [List.find?_eq_none]
        intro other member
        simpa using different other member
      exact Resolution.fragment_of_none (told.trans none) contract _
  · intro some registrations
    have same := Resolver.search_registrations some registrations
    simp only [resolve, Resolver.resolve, same]
  · intro none
    have consulted := Resolver.candidate?_search_of_none none
    constructor
    · intro front candidate back split before listed
      have first : registered.findSome? resolver.catalog.get? = some candidate := by
        rw [List.findSome?_eq_some_iff]
        refine ⟨front, candidate.typeName, back, split, Catalog.get?_typeName listed, ?_⟩
        intro other member
        exact (resolver.catalog.get?_eq_none_iff other).mpr (before other member)
      exact Resolution.fragment_of_candidate (consulted.trans first) contract _
    · intro unlisted
      have nothing : registered.findSome? resolver.catalog.get? = Option.none := by
        rw [List.findSome?_eq_none_iff]
        intro other member
        exact (resolver.catalog.get?_eq_none_iff other).mpr (unlisted other member)
      exact Resolution.fragment_of_none (consulted.trans nothing) contract _

end World
end FragmentAssembly
