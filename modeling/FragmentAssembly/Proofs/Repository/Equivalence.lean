import FragmentAssembly.Proofs.Repository.Creation
import FragmentAssembly.Proofs.Resolution.Twins

/-!
# Repositories of equivalent interfaces

Two interfaces that differ in the order of methods only are served alike: their repositories are created or
refused together, and every method goes to the same slot with the same type of implementation. The store
modules have to treat equivalent interfaces alike for that. The instances of both repositories are checked
with the same verdict, unless the check looks at the order of the methods.
-/

namespace FragmentAssembly

variable {σ : Type}

/-- What two repositories do about a method, where they do the same. -/
inductive Repository.RoutesAlike (repository other : Repository σ) (method : Signature) : Prop where
  /-- Neither of them declares the method. -/
  | undeclared (absent : repository.declares method = false) (missing : other.declares method = false)
  /-- Both route it to the same slot, with the same type of implementation. -/
  | answered {slot : Nat} {fragment twin : Fragment σ} {typeName : String}
      (routed : repository.table.lookup? method = some ⟨slot, fragment⟩)
      (also : other.table.lookup? method = some ⟨slot, twin⟩)
      (type : fragment.implementationType? = some typeName)
      (same : twin.implementationType? = some typeName)
      (answers : repository.target method = .ok fragment)
      (matching : other.target method = .ok twin)
  /-- Both report a placeholder in the same slot. -/
  | unimplemented {slot : Nat} {fragment twin : Fragment σ}
      (routed : repository.table.lookup? method = some ⟨slot, fragment⟩)
      (also : other.table.lookup? method = some ⟨slot, twin⟩)
      (fails : repository.target method =
        .error (.noImplementation repository.interface.name fragment.contract))
      (matching : other.target method =
        .error (.noImplementation repository.interface.name twin.contract))

namespace Assembler

variable {assembler : Assembler σ} {interface other : Interface}

theorem accepts_of_agree (impartial : ∀ storeModule ∈ assembler.storeModules, storeModule.Impartial)
    (same : interface.equivalent other = true) (accepts : assembler.Accepts interface) :
    assembler.Accepts other := by
  rcases accepts with none | ⟨storeModule, listed, willing⟩
  · exact .inl none
  · exact .inr ⟨storeModule, listed, (impartial storeModule listed interface other same) ▸ willing⟩

variable {base twin : Fragment σ}

theorem routesAlike_assembled (agree : interface.Agree other) (bases : base.Twins twin)
    (cell number : Nat) (method : Signature) :
    (assembler.assembled interface base cell).RoutesAlike (assembler.assembled other twin number)
      method := by
  have twins : List.Forall₂ Fragment.Twins (assembler.assembled interface base cell).composition.slots
      (assembler.assembled other twin number).composition.slots :=
    assembler.resolver.twins_compose assembler.scope agree bases cell number
  have name : (assembler.assembled other twin number).composition.interfaceName = interface.name :=
    agree.name.symm
  rcases Composition.lookup?_of_twins twins method with
    ⟨absent, missing⟩ | ⟨slot, fragment, copy, same, routed, also⟩
  · refine .undeclared ?_ ?_
    · rw [Repository.declares, Repository.table, absent, Option.isSome_none]
    · rw [Repository.declares, Repository.table, missing, Option.isSome_none]
  · have first := Repository.target_of_declaresFirst
      ((Repository.lookup?_table_eq_some_iff _ method _).mp routed)
    have second := Repository.target_of_declaresFirst
      ((Repository.lookup?_table_eq_some_iff _ method _).mp also)
    cases implemented : fragment.isImplemented with
    | true =>
        have alsoImplemented := same.isImplemented_eq.symm.trans implemented
        rw [if_pos implemented] at first
        rw [if_pos alsoImplemented] at second
        obtain ⟨typeName, type⟩ :=
          Option.isSome_iff_exists.mp (fragment.isSome_implementationType?.trans implemented)
        exact .answered routed also type (same.implementationType?_eq ▸ type) first second
    | false =>
        have alsoMissing := same.isImplemented_eq.symm.trans implemented
        rw [if_neg (by simp [implemented])] at first
        rw [if_neg (by simp [alsoMissing]), name] at second
        exact .unimplemented routed also first second

/-- In eager mode the repositories of equivalent interfaces are both created, or both fail for a
placeholder. -/
theorem requireImplemented_of_agree (assembler : Assembler σ) (agree : interface.Agree other)
    (bases : base.Twins twin) (cell number : Nat) :
    ((assembler.compose interface base cell).requireImplemented = .ok () ∧
        (assembler.compose other twin number).requireImplemented = .ok ()) ∨
      ∃ contract matching : Contract, contract.equivalent matching = true ∧
        (assembler.compose interface base cell).requireImplemented =
          .error (.noImplementation interface.name contract) ∧
        (assembler.compose other twin number).requireImplemented =
          .error (.noImplementation interface.name matching) := by
  have twins := assembler.resolver.twins_compose assembler.scope agree bases cell number
  rcases Composition.requireImplemented_of_twins twins with
    complete | ⟨fragment, copy, same, first, second⟩
  · exact .inl complete
  · rw [Resolver.interfaceName_compose] at first second
    rw [← agree.name] at second
    exact .inr ⟨fragment.contract, copy.contract, same.contract, first, second⟩

theorem create_of_agree (impartial : ∀ storeModule ∈ assembler.storeModules, storeModule.Impartial)
    (same : interface.equivalent other = true) (bases : base.Twins twin) (cell number : Nat) :
    (assembler.create interface base cell = .ok (assembler.assembled interface base cell) ∧
        assembler.create other twin number = .ok (assembler.assembled other twin number)) ∨
      (assembler.create interface base cell =
          .error (.noStoreModule interface.name interface.isReactive) ∧
        assembler.create other twin number =
          .error (.noStoreModule interface.name interface.isReactive)) ∨
      ∃ contract matching : Contract, contract.equivalent matching = true ∧
        assembler.create interface base cell = .error (.noImplementation interface.name contract) ∧
        assembler.create other twin number = .error (.noImplementation interface.name matching) := by
  have agree := Interface.equivalent_iff.mp same
  have mode : assembler.inMode assembler.configuration.bootstrapMode = assembler := rfl
  by_cases accepts : assembler.Accepts interface
  · have also := accepts_of_agree impartial same accepts
    cases chosen : assembler.configuration.bootstrapMode with
    | lazy =>
        rw [chosen] at mode
        have first := create_lazy_of_accepts accepts base cell
        have second := create_lazy_of_accepts also twin number
        rw [mode] at first second
        exact .inl ⟨first, second⟩
    | eager =>
        rw [chosen] at mode
        have first := create_eager_of_accepts accepts base cell
        have second := create_eager_of_accepts also twin number
        rw [mode] at first second
        rcases assembler.requireImplemented_of_agree agree bases cell number with
          ⟨complete, too⟩ | ⟨contract, matching, equivalent, fails, likewise⟩
        · rw [complete] at first
          rw [too] at second
          exact .inl ⟨first, second⟩
        · rw [fails] at first
          rw [likewise] at second
          exact .inr (.inr ⟨contract, matching, equivalent, first, second⟩)
  · have refuses : ¬assembler.Accepts other := fun accepted =>
      accepts (accepts_of_agree impartial (Interface.equivalent_symm same) accepted)
    have first := create_of_not_accepts accepts assembler.configuration.bootstrapMode base cell
    have second := create_of_not_accepts refuses assembler.configuration.bootstrapMode twin number
    rw [mode] at first second
    rw [← agree.name, ← agree.isReactive] at second
    exact .inr (.inl ⟨first, second⟩)

/-- For equivalent interfaces, and bases with equivalent contracts and the same binding, repositories are
both created or both refused, for the same reason and, if that is a placeholder, with equivalent contracts.
Both repositories do the same about every method. An instance is checked against equivalent contracts with
the same verdict, whatever methods it supports and whatever else it asks a contract for, as long as it is
not the order of the methods. -/
theorem create_of_equivalent
    (impartial : ∀ storeModule ∈ assembler.storeModules, storeModule.Impartial)
    (same : interface.equivalent other = true)
    (contracts : base.contract.equivalent twin.contract = true) (binding : base.binding = twin.binding)
    (before after : World σ) :
    let first := (before.create assembler interface base).1
    let second := (after.create assembler other twin).1
    ((∃ repository, first = .ok repository) ↔ ∃ repository, second = .ok repository) ∧
      (∀ error failure, first = .error error → second = .error failure →
        error = .noStoreModule interface.name interface.isReactive ∧ failure = error ∨
          ∃ contract matching : Contract, contract.equivalent matching = true ∧
            error = .noImplementation interface.name contract ∧
            failure = .noImplementation interface.name matching) ∧
      (∀ repository copy, first = .ok repository → second = .ok copy →
        ∀ method, repository.RoutesAlike copy method) ∧
      ∀ left right : Contract, left.equivalent right = true →
        (∀ supports,
          Implementation.supportsAll supports left = Implementation.supportsAll supports right) ∧
        ∀ implementation : Implementation σ, implementation.ChecksUnordered →
          implementation.satisfies left = implementation.satisfies right ∧
            (implementation.missing left).Perm (implementation.missing right) := by
  intro first second
  have bases : base.Twins twin :=
    ⟨contracts, congrArg (Option.map Binding.typeName) binding⟩
  have agree := Interface.equivalent_iff.mp same
  have outcome := create_of_agree impartial same bases before.instances.next after.instances.next
  change first = _ ∧ second = _ ∨ first = _ ∧ second = _ ∨
    ∃ contract matching : Contract, _ ∧ first = _ ∧ second = _ at outcome
  refine ⟨?_, ?_, ?_, ?_⟩
  · rcases outcome with ⟨created, also⟩ | ⟨refused, also⟩ | ⟨_, _, -, failed, also⟩
    · exact ⟨fun _ => ⟨_, also⟩, fun _ => ⟨_, created⟩⟩
    · rw [refused, also]
    · rw [failed, also]
      exact ⟨nofun, nofun⟩
  · intro error failure failed fails
    rw [failed, fails] at outcome
    rcases outcome with ⟨created, -⟩ | ⟨refused, also⟩ | ⟨contract, matching, equivalent, failed, also⟩
    · cases created
    · cases refused
      cases also
      exact .inl ⟨rfl, rfl⟩
    · cases failed
      cases also
      exact .inr ⟨contract, matching, equivalent, rfl, rfl⟩
  · intro repository copy created copied method
    rw [created, copied] at outcome
    rcases outcome with ⟨assembled, also⟩ | ⟨refused, -⟩ | ⟨_, _, -, failed, -⟩
    · cases assembled
      cases also
      exact routesAlike_assembled agree bases _ _ method
    · cases refused
    · cases failed
  · intro left right equivalent
    refine ⟨fun supports => Implementation.supportsAll_of_equivalent supports equivalent, ?_⟩
    intro implementation unordered
    exact ⟨unordered.satisfies_eq equivalent, implementation.perm_missing equivalent⟩

/-- An interface with a contract for searching. -/
def searchable (methods : List Signature) : Interface :=
  { Interface.named "p.Repository" "p.User" "Long" with
    contracts := [(Contract.named "p.Search").withMethods methods] }

/-- A base that has methods for searching, too. -/
def searchableBase (methods : List Signature) : Fragment Unit :=
  .deferred ((Contract.named "p.Base").withMethods (⟨"save", ["User"]⟩ :: methods))
    { typeName := "p.BaseImpl", factory := .abort "", cell := 0 }

/-- An assembler that knows an implementation of searching. -/
def searching : Assembler Unit where
  resolver := ⟨⟨[⟨"p.SearchImpl", none, .abort ""⟩], by simp⟩, .empty⟩
  configuration := .default
  storeModules := [.imperative "documents" "documents"]

theorem create_of_equivalent_reordered :
    let forth : List Signature := [⟨"find", ["String"]⟩, ⟨"count", []⟩]
    let back : List Signature := [⟨"count", []⟩, ⟨"find", ["String"]⟩]
    (∀ storeModule ∈ searching.storeModules, storeModule.Impartial) ∧
      (searchable forth).equivalent (searchable back) = true ∧
      (searchableBase forth).contract.equivalent (searchableBase back).contract = true ∧
      (searchableBase forth).binding = (searchableBase back).binding ∧
      ∃ repository copy,
        ((World.initial ()).create searching (searchable forth) (searchableBase forth)).1 =
          .ok repository ∧
        ((World.initial ()).create searching (searchable back) (searchableBase back)).1 = .ok copy ∧
        repository.table.methods = forth ++ [⟨"save", ["User"]⟩] ∧
        copy.table.methods = back ++ [⟨"save", ["User"]⟩] ∧
        ∀ method, repository.RoutesAlike copy method := by
  intro forth back
  have impartial : ∀ storeModule ∈ searching.storeModules, storeModule.Impartial := by
    intro storeModule listed
    rw [List.mem_singleton.mp listed]
    exact StoreModule.impartial_imperative "documents" "documents"
  have same : (searchable forth).equivalent (searchable back) = true := by decide
  have contracts :
      (searchableBase forth).contract.equivalent (searchableBase back).contract = true := by
    decide
  have bindings : (searchableBase forth).binding = (searchableBase back).binding := rfl
  obtain ⟨-, -, routes, -⟩ :=
    create_of_equivalent impartial same contracts bindings (World.initial ()) (World.initial ())
  exact ⟨impartial, same, contracts, bindings, _, _, rfl, rfl, by decide +kernel, by decide +kernel,
    routes _ _ rfl rfl⟩

end Assembler

/-! ## Extensions that look at the order of the methods -/

/-- A store module for interfaces whose first contract lists a given method first. -/
def StoreModule.startingWith (method : Signature) : StoreModule where
  name := "ordered"
  keyStart := "ordered"
  accepts interface := interface.contracts.head?.bind (·.methods.head?) = some method

/-- An instance that supports no method, with a check of its own. -/
def Implementation.idle (satisfies : Contract → Bool) : Implementation Unit where
  typeName := "p.SearchImpl"
  supports := fun _ => false
  satisfies := satisfies
  invoke := fun _ _ => .finish (.value .null)

/-- The store modules have to be impartial, and the checks have to ignore the order of the methods. A store
module that looks at the first method refuses one of two equivalent interfaces, and a check that does so
rejects one of two equivalent contracts. A check that ignores the order rejects both, but lists the missing
methods in two orders. -/
theorem Assembler.order_of_methods_decides :
    let find : Signature := ⟨"find", ["String"]⟩
    let count : Signature := ⟨"count", []⟩
    let forth := searchable [find, count]
    let back := searchable [count, find]
    let base := searchableBase [find, count]
    let twin := searchableBase [count, find]
    let ordered := { searching with storeModules := [.startingWith find] }
    let left := (Contract.named "p.Search").withMethods [find, count]
    let right := (Contract.named "p.Search").withMethods [count, find]
    let fussy := Implementation.idle fun contract => contract.methods.head? = some find
    let plain := Implementation.idle (Implementation.supportsAll fun _ => false)
    forth.equivalent back = true ∧ base.contract.equivalent twin.contract = true ∧
      base.binding = twin.binding ∧
      (∃ repository, ((World.initial ()).create ordered forth base).1 = .ok repository) ∧
      ((World.initial ()).create ordered back twin).1 = .error (.noStoreModule "p.Repository" false) ∧
      left.equivalent right = true ∧
      (∃ fragment, Fragment.implemented left fussy = .ok fragment) ∧
      (∃ error, Fragment.implemented right fussy = .error error) ∧
      plain.ChecksUnordered ∧
      Fragment.implemented left plain = .error (.invalidArgument
        "Implementation p.SearchImpl does not satisfy p.Search: missing find(String), count()") ∧
      Fragment.implemented right plain = .error (.invalidArgument
        "Implementation p.SearchImpl does not satisfy p.Search: missing count(), find(String)") := by
  intro find count forth back base twin ordered left right fussy plain
  refine ⟨by decide, by decide, rfl, ⟨_, rfl⟩, rfl, by decide, ⟨_, rfl⟩, ⟨_, rfl⟩, ?_, ?_, ?_⟩
  · exact Implementation.checksUnordered_of_supportsAll (fun _ => false) rfl
  · cbv
  · cbv

end FragmentAssembly
