import FragmentAssembly.Proofs.Composition.Dispatch
import FragmentAssembly.Proofs.Composition.Placing
import FragmentAssembly.Proofs.Contract.Equivalence

/-!
# Methods of an extended composition

Appending fragments leaves every method in its slot, as long as fragments for a slot have the contract of
that slot, up to the order of the methods. An implemented fragment answers its methods as before. A method
that was routed to a placeholder is answered once an implementation for that placeholder arrives, by the
first one, and is not implemented until then.
-/

namespace FragmentAssembly

variable {σ : Type}

namespace Composition

/-- The first slot that declares a method is the first one in any composition whose slots there declare
the method as the slots here do. -/
theorem DeclaresFirst.of_agreeing {composition other : Composition σ} {method : Signature}
    {target : Target σ} (first : composition.DeclaresFirst method target)
    (agree : ∀ (number : Nat) (slot : Fragment σ), composition.slots[number]? = some slot →
      ∃ twin, other.slots[number]? = some twin ∧ twin.hasMethod method = slot.hasMethod method)
    {twin : Fragment σ} (stands : other.slots[target.slot]? = some twin) :
    other.DeclaresFirst method ⟨target.slot, twin⟩ where
  lt_size := (List.getElem?_eq_some_iff.mp stands).1
  getElem?_eq := stands
  declares := by
    obtain ⟨same, found, declares⟩ := agree target.slot target.fragment first.getElem?_eq
    rw [stands] at found
    cases found
    exact declares.trans first.declares
  lacks := by
    intro earlier fragment before found
    have within : earlier < composition.slots.length := Nat.lt_trans before first.lt_size
    have placed := List.getElem?_eq_getElem within
    obtain ⟨same, at_earlier, declares⟩ := agree earlier _ placed
    rw [found] at at_earlier
    cases at_earlier
    exact declares.trans (first.lacks earlier _ before placed)

theorem interfaceName_appendAll (composition : Composition σ) (fragments : List (Fragment σ)) :
    (composition.appendAll fragments).interfaceName = composition.interfaceName := by
  rw [interfaceName, interface?_appendAll, interfaceName]

theorem findMethod_of_declaresFirst {composition : Composition σ} {method : Signature}
    {target : Target σ} (first : composition.DeclaresFirst method target) :
    composition.findMethod method =
      if target.fragment.isImplemented then
        .ok (some target.fragment)
      else
        .error (.noImplementation composition.interfaceName target.fragment.contract) := by
  rw [← resolve_dispatchTable, DispatchTable.resolve,
    (composition.lookup?_eq_some_iff method target).mpr first]
  rfl

section Agreeing

variable {composition : Composition σ} {fragments : List (Fragment σ)}
  (agree : ∀ slot ∈ composition.slots, ∀ fragment ∈ fragments,
    fragment.contractName = slot.contractName → slot.contract.equivalent fragment.contract = true)

include agree

/-- A slot declares the same methods after fragments with its contract are appended. -/
theorem exists_agreeing (method : Signature) (number : Nat) (slot : Fragment σ)
    (placed : composition.slots[number]? = some slot) :
    ∃ twin, (composition.appendAll fragments).slots[number]? = some twin ∧
      twin.hasMethod method = slot.hasMethod method := by
  refine ⟨_, getElem?_appendAll_eq fragments placed, ?_⟩
  split
  · rfl
  · cases arrived : firstImplemented? fragments slot.contractName with
    | none => rfl
    | some fragment =>
        obtain ⟨listed, named, -⟩ := mem_of_firstImplemented? arrived
        have same := agree slot (List.mem_of_getElem? placed) fragment listed named
        exact (Contract.declares_eq_of_equivalent same method).symm

/-- Appending fragments never moves a method to another slot, if the fragments for a slot have the contract
of that slot, up to the order of the methods. A method that is answered is answered by the same fragment. A
method that is routed to a placeholder is answered by the first implemented fragment that is appended for
that placeholder, and fails as before if there is none. -/
theorem appendAll_keeps_routes (method : Signature)
    (declared : ∃ slot ∈ composition.slots, slot.hasMethod method = true) :
    let extended := composition.appendAll fragments
    ∃ target kept,
      composition.dispatchTable.lookup? method = some target ∧
      extended.dispatchTable.lookup? method = some kept ∧
      kept.slot = target.slot ∧
      (∀ fragment, composition.findMethod method = .ok (some fragment) →
        extended.findMethod method = .ok (some fragment)) ∧
      ∀ error, composition.findMethod method = .error error →
        error = .noImplementation composition.interfaceName target.fragment.contract ∧
        (firstImplemented? fragments target.fragment.contractName = none →
          extended.findMethod method = .error error) ∧
        ∀ fragment, firstImplemented? fragments target.fragment.contractName = some fragment →
          extended.findMethod method = .ok (some fragment) := by
  intro extended
  obtain ⟨target, routed⟩ :=
    Option.isSome_iff_exists.mp ((composition.isSome_lookup?_dispatchTable method).mpr declared)
  have first := (composition.lookup?_eq_some_iff method target).mp routed
  have stands := getElem?_appendAll_eq fragments first.getElem?_eq
  have before := findMethod_of_declaresFirst first
  cases present : target.fragment.isImplemented with
  | true =>
      rw [if_pos present] at stands before
      have still := first.of_agreeing (exists_agreeing agree method) stands
      have after := findMethod_of_declaresFirst still
      rw [if_pos present] at after
      refine ⟨target, target, routed, (extended.lookup?_eq_some_iff method _).mpr still, rfl, ?_, ?_⟩
      · intro fragment answered
        exact after.trans (before.symm.trans answered)
      · intro error refused
        rw [before] at refused
        cases refused
  | false =>
      rw [if_neg (by simp [present])] at stands before
      have still := first.of_agreeing (exists_agreeing agree method) stands
      have after := findMethod_of_declaresFirst still
      refine ⟨target, _, routed, (extended.lookup?_eq_some_iff method _).mpr still, rfl, ?_, ?_⟩
      · intro fragment answered
        rw [before] at answered
        cases answered
      · intro error refused
        rw [before] at refused
        cases refused
        refine ⟨rfl, ?_, ?_⟩
        · intro missing
          simpa [missing, present, interfaceName_appendAll] using after
        · intro fragment arrived
          simpa [arrived, (mem_of_firstImplemented? arrived).2.2] using after

end Agreeing

/-- A placeholder with two methods, in front of an implementation of one of them. -/
def waiting : Composition Unit :=
  .ofList
    [.placeholder ((Contract.named "Search").withMethods [⟨"find", []⟩, ⟨"count", []⟩]),
      .deferred ((Contract.named "Base").withMethods [⟨"find", []⟩])
        { typeName := "BaseImpl", factory := .abort "", cell := 0 }]

/-- An implementation for that placeholder, whose contract has the methods in the other order. -/
def arriving : Fragment Unit :=
  .deferred ((Contract.named "Search").withMethods [⟨"count", []⟩, ⟨"find", []⟩])
    { typeName := "SearchImpl", factory := .abort "", cell := 1 }

theorem appendAll_keeps_routes_search :
    (∀ slot ∈ waiting.slots, ∀ fragment ∈ [arriving], fragment.contractName = slot.contractName →
        slot.contract.equivalent fragment.contract = true) ∧
      (∃ slot ∈ waiting.slots, slot.hasMethod ⟨"find", []⟩ = true) ∧
      waiting.findMethod ⟨"find", []⟩ =
        .error (.noImplementation "<unbound repository>"
          ((Contract.named "Search").withMethods [⟨"find", []⟩, ⟨"count", []⟩])) ∧
      (waiting.appendAll [arriving]).findMethod ⟨"find", []⟩ = .ok (some arriving) := by
  have agree : ∀ slot ∈ waiting.slots, ∀ fragment ∈ [arriving],
      fragment.contractName = slot.contractName →
        slot.contract.equivalent fragment.contract = true := by
    decide
  have declared : ∃ slot ∈ waiting.slots, slot.hasMethod ⟨"find", []⟩ = true := by decide
  obtain ⟨target, kept, -, -, -, -, refused⟩ :=
    appendAll_keeps_routes agree ⟨"find", []⟩ declared
  obtain ⟨same, -, filled⟩ := refused _ rfl
  injection same with _ _ contract
  have named : target.fragment.contractName = "Search" := by
    rw [Fragment.contractName, ← contract]
    rfl
  exact ⟨agree, declared, rfl, filled arriving (by rw [named]; rfl)⟩

end Composition
end FragmentAssembly
