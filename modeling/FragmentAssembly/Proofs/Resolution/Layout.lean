import FragmentAssembly.Proofs.Composition.Placing
import FragmentAssembly.Proofs.FirstOfKey
import FragmentAssembly.Resolution

/-!
# The slots of a resolved composition

Resolving a composition goes through its slots from the front and replaces each placeholder by what is
found for its contract. The composition of an interface is laid out by its contracts: one slot for each
contract name, and the base behind them, unless a contract of its name is declared.
-/

namespace FragmentAssembly

variable {σ : Type}

namespace Resolution

@[simp]
theorem contract_fragment (resolution : Resolution σ) (contract : Contract) (cell : Nat) :
    (resolution.fragment contract cell).contract = contract := by
  rw [fragment]
  split <;> rfl

theorem isImplemented_fragment (resolution : Resolution σ) (contract : Contract) (cell : Nat) :
    (resolution.fragment contract cell).isImplemented = resolution.candidate?.isSome := by
  rw [fragment]
  cases resolution.candidate? with
  | none => rfl
  | some candidate => rfl

theorem implementationType?_fragment (resolution : Resolution σ) (contract : Contract) (cell : Nat) :
    (resolution.fragment contract cell).implementationType? =
      resolution.candidate?.map Candidate.typeName := by
  rw [fragment]
  cases resolution.candidate? with
  | none => rfl
  | some candidate => rfl

theorem fragment_eq_placeholder {resolution : Resolution σ} {contract : Contract} {cell : Nat}
    (missing : (resolution.fragment contract cell).isImplemented = false) :
    resolution.fragment contract cell = .placeholder contract := by
  rw [isImplemented_fragment, Option.isSome_eq_false_iff, Option.isNone_iff_eq_none] at missing
  rw [fragment, missing]

end Resolution

theorem Fragment.eq_placeholder {fragment : Fragment σ} (missing : fragment.isImplemented = false) :
    fragment = .placeholder fragment.contract := by
  obtain ⟨contract, binding, satisfied⟩ := fragment
  cases binding with
  | none => rfl
  | some binding => simp [isImplemented] at missing

namespace Resolver

variable (resolver : Resolver σ) (scope : SearchScope) (interface : Interface)

@[simp]
theorem contract_resolve (contract : Contract) (cell : Nat) :
    (resolver.resolve contract scope interface cell).contract = contract :=
  Resolution.contract_fragment _ contract cell

@[simp]
theorem contractName_resolve (contract : Contract) (cell : Nat) :
    (resolver.resolve contract scope interface cell).contractName = contract.name := by
  rw [Fragment.contractName, contract_resolve]

/-- What resolution finds takes the slot of the placeholder that it is found for. -/
theorem replacedBy_resolve {slot : Fragment σ} (waiting : slot.isImplemented = false) (cell : Nat) :
    slot.replacedBy (resolver.resolve slot.contract scope interface cell) =
      resolver.resolve slot.contract scope interface cell := by
  cases found : (resolver.resolve slot.contract scope interface cell).isImplemented with
  | true => exact Fragment.replacedBy_of_implemented waiting found
  | false =>
      rw [Fragment.replacedBy_of_not_implemented found, resolve,
        Resolution.fragment_eq_placeholder found]
      exact Fragment.eq_placeholder waiting

/-- Slots with every placeholder resolved, from the first to the last. The cells of the new fragments
are numbered from `cell`. -/
def fill (cell : Nat) : List (Fragment σ) → List (Fragment σ)
  | [] => []
  | slot :: others =>
      if slot.isImplemented then
        slot :: fill cell others
      else
        resolver.resolve slot.contract scope interface cell :: fill (cell + 1) others

/-- Filling looks at each slot alone, apart from the numbers of the cells. -/
theorem getElem?_fill (cell : Nat) (slots : List (Fragment σ)) (number : Nat) :
    (resolver.fill scope interface cell slots)[number]? =
      slots[number]?.map fun slot =>
        if slot.isImplemented then
          slot
        else
          resolver.resolve slot.contract scope interface
            (cell + (slots.take number).countP (!·.isImplemented)) := by
  induction slots generalizing cell number with
  | nil => rfl
  | cons slot others ih =>
      cases number with
      | zero => cases present : slot.isImplemented <;> simp [fill, present]
      | succ number =>
          cases present : slot.isImplemented with
          | true => simp [fill, present, ih]
          | false => simp [fill, present, ih, Nat.add_assoc, Nat.add_comm 1]

/-- Resolved fragments, placed one after the other behind slots that are settled, fill the placeholders
where they stand. -/
private theorem foldl_place_resolveAll (cell : Nat) (front back : List (Fragment σ))
    (nodup : ((front ++ back).map Fragment.contractName).Nodup) :
    (resolver.resolveAll scope interface cell
        ((back.filter (!·.isImplemented)).map Fragment.contract)).foldl
          (fun slots fragment => Composition.place fragment slots) (front ++ back) =
      front ++ resolver.fill scope interface cell back := by
  induction back generalizing cell front with
  | nil => rfl
  | cons slot others ih =>
      cases present : slot.isImplemented with
      | true =>
          have behind := ih cell (front ++ [slot]) (by simpa using nodup)
          simpa [fill, present] using behind
      | false =>
          let found := resolver.resolve slot.contract scope interface cell
          have same : slot.contractName = found.contractName := by
            rw [contractName_resolve, Fragment.contractName]
          have absent : found.contractName ∉ front.map Fragment.contractName := by
            rw [← same]
            intro member
            rw [List.map_append, List.nodup_append] at nodup
            exact nodup.2.2 _ member _ (by simp) rfl
          have placed : Composition.place found (front ++ slot :: others) =
              (front ++ [found]) ++ others := by
            rw [Composition.place_append_of_notMem absent, Composition.place, if_pos same,
              replacedBy_resolve resolver scope interface present]
            simp [found]
          have behind := ih (cell + 1) (front ++ [found]) (by
            simpa [← same] using nodup)
          simpa [fill, present, resolveAll, placed, found] using behind

theorem slots_bind (composition : Composition σ) (cell : Nat) :
    (resolver.bind composition scope interface cell).slots =
      resolver.fill scope interface cell composition.slots := by
  rw [bind, Composition.slots_appendAll]
  exact foldl_place_resolveAll resolver scope interface cell [] composition.slots composition.nodup

/-- Placeholders of contracts, placed one after the other, go behind each other as long as their names
are new. -/
private theorem foldl_place_placeholders (slots : List (Fragment σ)) (contracts : List Contract) :
    (contracts.map Fragment.placeholder).foldl
        (fun slots fragment => Composition.place fragment slots) slots =
      (contracts.map Fragment.placeholder).foldl (Distinct.insertBy Fragment.contractName) slots := by
  induction contracts generalizing slots with
  | nil => rfl
  | cons contract others ih =>
      rw [List.map_cons, List.foldl_cons, List.foldl_cons, Composition.place_of_not_implemented rfl, ih]

/-- The declared contracts have one placeholder for each name, in order of first declaration. -/
theorem slots_declared (interface : Interface) :
    (declared interface : Composition σ).slots =
      (Distinct.firstBy Contract.name interface.contracts).map Fragment.placeholder := by
  rw [declared, Composition.ofList]
  change (Composition.empty.appendAll _).slots = _
  rw [Composition.slots_appendAll, foldl_place_placeholders]
  exact (Distinct.foldl_insertBy_nil _).trans (Distinct.firstBy_map Fragment.placeholder _)

theorem fill_placeholders (cell : Nat) (contracts : List Contract) :
    resolver.fill scope interface cell (contracts.map Fragment.placeholder) =
      resolver.resolveAll scope interface cell contracts := by
  induction contracts generalizing cell with
  | nil => rfl
  | cons contract others ih =>
      rw [List.map_cons, fill, if_neg (by simp [Fragment.isImplemented, Fragment.placeholder]), ih,
        resolveAll]
      rfl

theorem map_contractName_resolveAll (cell : Nat) (contracts : List Contract) :
    (resolver.resolveAll scope interface cell contracts).map Fragment.contractName =
      contracts.map Contract.name := by
  induction contracts generalizing cell with
  | nil => rfl
  | cons contract others ih => simp [resolveAll, ih]

theorem getElem?_resolveAll (cell : Nat) (contracts : List Contract) (number : Nat) :
    (resolver.resolveAll scope interface cell contracts)[number]? =
      contracts[number]?.map fun contract =>
        resolver.resolve contract scope interface (cell + number) := by
  induction contracts generalizing cell number with
  | nil => rfl
  | cons contract others ih =>
      cases number with
      | zero => rfl
      | succ number =>
          rw [resolveAll, List.getElem?_cons_succ, ih, List.getElem?_cons_succ]
          congr 2
          funext contract
          congr 1
          omega

theorem exists_of_mem_resolveAll {cell : Nat} {contracts : List Contract} {fragment : Fragment σ}
    (member : fragment ∈ resolver.resolveAll scope interface cell contracts) :
    ∃ number contract, contracts[number]? = some contract ∧
      fragment = resolver.resolve contract scope interface (cell + number) := by
  obtain ⟨number, at_number⟩ := List.mem_iff_getElem?.mp member
  rw [getElem?_resolveAll, Option.map_eq_some_iff] at at_number
  obtain ⟨contract, at_contract, rfl⟩ := at_number
  exact ⟨number, contract, at_contract, rfl⟩

/-- The composition of an interface before its base arrives. -/
theorem slots_bind_declared (cell : Nat) :
    (resolver.bind (declared interface) scope interface cell).slots =
      resolver.resolveAll scope interface cell
        (Distinct.firstBy Contract.name interface.contracts) := by
  rw [slots_bind, slots_declared, fill_placeholders]

/-- A slot of the composition of an interface holds the base or what is found for a contract. -/
theorem eq_base_or_mem_resolveAll {base fragment : Fragment σ} {cell : Nat}
    (member : fragment ∈ (resolver.compose interface scope base cell).slots) :
    fragment = base ∨ fragment ∈ resolver.resolveAll scope interface cell
      (Distinct.firstBy Contract.name interface.contracts) := by
  rw [compose, Composition.slots_append, slots_bind_declared] at member
  exact Composition.mem_place member

/-- The composition of an interface has one slot for each declared contract name, in order of first
declaration, with what is found for the first contract of that name. A base of another name gets the
last slot. A base of a declared name gets the slot of that name if it is implemented and nothing was
found for the contract there; otherwise it is dropped. -/
theorem compose_layout (base : Fragment σ) (cell : Nat) :
    ∃ found : List (Fragment σ),
      found.map Fragment.contractName = (interface.contracts.map Contract.name).eraseDups ∧
      (∀ number fragment, found[number]? = some fragment →
        ∃ contract,
          interface.contracts.find? (fun other => other.name = fragment.contractName) =
            some contract ∧
          fragment = resolver.resolve contract scope interface (cell + number)) ∧
      (resolver.compose interface scope base cell).interface? = some interface.name ∧
      (resolver.compose interface scope base cell).slots =
        if base.contractName ∈ interface.contracts.map Contract.name then
          found.map fun slot =>
            if slot.contractName = base.contractName ∧ base.isImplemented = true ∧
                slot.isImplemented = false then
              base
            else
              slot
        else
          found ++ [base] := by
  let first := Distinct.firstBy Contract.name interface.contracts
  have names : (resolver.resolveAll scope interface cell first).map Fragment.contractName =
      (interface.contracts.map Contract.name).eraseDups := by
    rw [map_contractName_resolveAll, Distinct.map_firstBy]
  have listed : base.contractName ∈
        (resolver.resolveAll scope interface cell first).map Fragment.contractName ↔
      base.contractName ∈ interface.contracts.map Contract.name := by
    rw [names, List.mem_eraseDups]
  refine ⟨resolver.resolveAll scope interface cell first, names, ?_, ?_, ?_⟩
  · intro number fragment at_number
    rw [getElem?_resolveAll, Option.map_eq_some_iff] at at_number
    obtain ⟨contract, at_contract, rfl⟩ := at_number
    refine ⟨contract, ?_, rfl⟩
    rw [contractName_resolve]
    exact Distinct.find?_of_mem_firstBy (List.mem_of_getElem? at_contract)
  · exact Composition.interface?_appendAll _ _
  · rw [compose, Composition.slots_append, slots_bind_declared]
    split
    · rename_i declared
      have nodup := (resolver.bind (Resolver.declared interface) scope interface cell).nodup
      rw [slots_bind_declared] at nodup
      rw [Composition.place_of_mem nodup (listed.mpr declared)]
      apply List.map_congr_left
      intro slot _
      by_cases same : slot.contractName = base.contractName
      · simp [same, Fragment.replacedBy, and_comm]
      · simp [same]
    · rename_i new
      exact Composition.place_of_notMem (mt listed.mp new)

end Resolver
end FragmentAssembly
