import FragmentAssembly.Proofs.Resolution.Outline

/-!
# Binding the placeholders of a composition

Binding a composition keeps its slots. A placeholder is replaced in its own slot if something is found for
its contract, and everything else stays. Since the contracts stay, methods keep their slots. What was not
found once is not found again, so that binding a second time changes nothing.
-/

namespace FragmentAssembly

variable {σ : Type}

theorem Composition.eq_of_slots {left right : Composition σ}
    (interfaces : left.interface? = right.interface?) (slots : left.slots = right.slots) :
    left = right := by
  obtain ⟨_, _, _⟩ := left
  obtain ⟨_, _, _⟩ := right
  cases interfaces
  cases slots
  rfl

namespace Resolver

variable (resolver : Resolver σ) (scope : SearchScope) (interface : Interface)

/-- Whether something is found for a contract does not depend on the cell of the fragment. -/
theorem isImplemented_resolve (contract : Contract) (cell other : Nat) :
    (resolver.resolve contract scope interface cell).isImplemented =
      (resolver.resolve contract scope interface other).isImplemented :=
  Fragment.isImplemented_eq_of_outline (outline_resolve resolver scope interface contract cell other)

/-- A placeholder for whose contract nothing is found is what resolution gives for it. -/
theorem resolve_eq_self {slot : Fragment σ} (waiting : slot.isImplemented = false) {cell : Nat}
    (missing : (resolver.resolve slot.contract scope interface cell).isImplemented = false) :
    resolver.resolve slot.contract scope interface cell = slot := by
  rw [Fragment.eq_placeholder waiting]
  exact Resolution.fragment_eq_placeholder missing

theorem resolve_ne_self_iff {slot : Fragment σ} (waiting : slot.isImplemented = false) {cell : Nat} :
    resolver.resolve slot.contract scope interface cell ≠ slot ↔
      (resolver.resolve slot.contract scope interface cell).isImplemented = true := by
  constructor
  · intro replaced
    rw [← Bool.not_eq_false]
    exact fun missing => replaced (resolve_eq_self resolver scope interface waiting missing)
  · intro present unchanged
    rw [unchanged, waiting] at present
    cases present

/-- Nothing is found for the contracts of the placeholders among slots. -/
def Settled (slots : List (Fragment σ)) : Prop :=
  ∀ slot ∈ slots, slot.isImplemented = false →
    ∀ cell, (resolver.resolve slot.contract scope interface cell).isImplemented = false

theorem settled_fill (cell : Nat) (slots : List (Fragment σ)) :
    resolver.Settled scope interface (resolver.fill scope interface cell slots) := by
  induction slots generalizing cell with
  | nil => exact fun _ member => (List.not_mem_nil member).elim
  | cons slot others ih =>
      rw [fill]
      split
      · rename_i present
        refine List.forall_mem_cons.mpr ⟨?_, ih cell⟩
        intro waiting
        rw [present] at waiting
        cases waiting
      · refine List.forall_mem_cons.mpr ⟨?_, ih (cell + 1)⟩
        intro missing again
        rw [contract_resolve, isImplemented_resolve resolver scope interface _ again cell]
        exact missing

theorem fill_of_settled {slots : List (Fragment σ)} (settled : resolver.Settled scope interface slots)
    (cell : Nat) : resolver.fill scope interface cell slots = slots := by
  induction slots generalizing cell with
  | nil => rfl
  | cons slot others ih =>
      obtain ⟨first, behind⟩ := List.forall_mem_cons.mp settled
      cases present : slot.isImplemented with
      | true => rw [fill, if_pos present, ih behind]
      | false =>
          rw [fill, if_neg (by simp [present]), ih behind,
            resolve_eq_self resolver scope interface present (first present cell)]

theorem map_contract_fill (cell : Nat) (slots : List (Fragment σ)) :
    (resolver.fill scope interface cell slots).map Fragment.contract =
      slots.map Fragment.contract := by
  induction slots generalizing cell with
  | nil => rfl
  | cons slot others ih =>
      rw [fill]
      split
      · rw [List.map_cons, List.map_cons, ih]
      · rw [List.map_cons, List.map_cons, ih, contract_resolve]

theorem map_contract_bind (composition : Composition σ) (cell : Nat) :
    (resolver.bind composition scope interface cell).slots.map Fragment.contract =
      composition.slots.map Fragment.contract := by
  rw [slots_bind, map_contract_fill]

theorem bind_bind (composition : Composition σ) (cell other : Nat) :
    resolver.bind (resolver.bind composition scope interface cell) scope interface other =
      resolver.bind composition scope interface cell := by
  refine Composition.eq_of_slots (Composition.interface?_appendAll _ _) ?_
  have settled : resolver.Settled scope interface
      (resolver.bind composition scope interface cell).slots := by
    rw [slots_bind]
    exact settled_fill resolver scope interface cell composition.slots
  rw [slots_bind, fill_of_settled resolver scope interface settled]

/-- What binding makes of a slot. -/
structure FilledSlot (slot filled : Fragment σ) : Prop where
  /-- The contract stays. -/
  contract_eq : filled.contract = slot.contract
  /-- An implemented fragment stays, with its instance or its cell. -/
  kept : slot.isImplemented = true → filled = slot
  /-- In the slot of a placeholder is what resolution gives for its contract, with some cell. -/
  resolved : slot.isImplemented = false →
    ∃ own, filled = resolver.resolve slot.contract scope interface own
  /-- A placeholder is replaced exactly if resolution finds an implementation. -/
  replaced_iff : slot.isImplemented = false → ∀ cell,
    (filled ≠ slot ↔ (resolver.resolve slot.contract scope interface cell).isImplemented = true)
  /-- The type of that implementation is the one that resolution chooses. -/
  type_eq : slot.isImplemented = false → ∀ cell,
    filled.implementationType? =
      (resolver.resolve slot.contract scope interface cell).implementationType?

theorem filledSlot_of_implemented {slot : Fragment σ} (present : slot.isImplemented = true) :
    resolver.FilledSlot scope interface slot slot where
  contract_eq := rfl
  kept _ := rfl
  resolved waiting := by simp [present] at waiting
  replaced_iff waiting := by simp [present] at waiting
  type_eq waiting := by simp [present] at waiting

theorem filledSlot_resolve {slot : Fragment σ} (waiting : slot.isImplemented = false) (own : Nat) :
    resolver.FilledSlot scope interface slot
      (resolver.resolve slot.contract scope interface own) where
  contract_eq := contract_resolve resolver scope interface slot.contract own
  kept present := by simp [waiting] at present
  resolved _ := ⟨own, rfl⟩
  replaced_iff _ cell := by
    rw [resolve_ne_self_iff resolver scope interface waiting,
      isImplemented_resolve resolver scope interface slot.contract own cell]
  type_eq _ cell := congrArg Prod.snd (outline_resolve resolver scope interface slot.contract own cell)

theorem filledSlot_bind {composition : Composition σ} {number : Nat} {slot : Fragment σ}
    (stood : composition.slots[number]? = some slot) (cell : Nat) :
    ∃ filled, (resolver.bind composition scope interface cell).slots[number]? = some filled ∧
      resolver.FilledSlot scope interface slot filled := by
  rw [slots_bind, getElem?_fill, stood, Option.map_some]
  refine ⟨_, rfl, ?_⟩
  split
  · rename_i present
    exact filledSlot_of_implemented resolver scope interface present
  · rename_i absent
    exact filledSlot_resolve resolver scope interface (Bool.not_eq_true _ ▸ absent) _

/-- Binding keeps the interface and the slots of a composition, and the contract in each slot. An
implemented fragment stays. A placeholder is replaced exactly if resolution of its contract finds
something, and then by what it finds. So every method keeps its slot, and binding again changes
nothing. -/
theorem bind_keeps_slots (composition : Composition σ) (cell : Nat) :
    let bound := resolver.bind composition scope interface cell
    bound.interface? = composition.interface? ∧
      bound.size = composition.size ∧
      (∀ (number : Nat) (slot : Fragment σ), composition.slots[number]? = some slot →
        ∃ filled, bound.slots[number]? = some filled ∧
          resolver.FilledSlot scope interface slot filled) ∧
      (∀ method, (bound.dispatchTable.lookup? method).map Target.slot =
        (composition.dispatchTable.lookup? method).map Target.slot) ∧
      ∀ other, resolver.bind bound scope interface other = bound := by
  intro bound
  have contracts : bound.slots.map Fragment.contract = composition.slots.map Fragment.contract :=
    map_contract_bind resolver scope interface composition cell
  refine ⟨Composition.interface?_appendAll _ _, ?_, ?_, ?_, ?_⟩
  · simpa [Composition.size] using congrArg List.length contracts
  · intro number slot stood
    exact filledSlot_bind resolver scope interface stood cell
  · intro method
    rw [Composition.map_slot_lookup?, Composition.map_slot_lookup?, contracts]
  · exact bind_bind resolver scope interface composition cell

end Resolver
end FragmentAssembly
