import FragmentAssembly.Proofs.Resolution.Layout

/-!
# Copies of a fragment

A cell belongs to one fragment: fragments that share a cell are copies of each other. New fragments have
cells that were not handed out before.
-/

namespace FragmentAssembly

variable {σ : Type}

namespace Fragment

/-- The fragment makes its instance on first use and keeps it in the cell. -/
def Owns (fragment : Fragment σ) (cell : Nat) : Prop :=
  ∃ source, fragment.binding = some (.deferred source) ∧ source.cell = cell

/-- Fragments that share a cell are equal. -/
def Copies (known : Fragment σ → Prop) : Prop :=
  ∀ ⦃left right cell⦄, known left → known right → left.Owns cell → right.Owns cell → left = right

/-- The fragments have cells in a range, and those that share a cell are copies. -/
structure NewIn (low high : Nat) (fragments : List (Fragment σ)) : Prop where
  /-- Their cells are in the range. -/
  cells : ∀ fragment ∈ fragments, ∀ cell, fragment.Owns cell → low ≤ cell ∧ cell < high
  /-- Those that share a cell are copies. -/
  copies : Copies (· ∈ fragments)

theorem newIn_nil (low high : Nat) : NewIn low high ([] : List (Fragment σ)) :=
  ⟨fun _ member => (List.not_mem_nil member).elim, fun _ _ _ member => (List.not_mem_nil member).elim⟩

theorem newIn_singleton {low high : Nat} {fragment : Fragment σ}
    (cells : ∀ cell, fragment.Owns cell → low ≤ cell ∧ cell < high) : NewIn low high [fragment] := by
  constructor
  · intro other member
    rw [List.mem_singleton.mp member]
    exact cells
  · intro left right cell first second _ _
    rw [List.mem_singleton.mp first, List.mem_singleton.mp second]

theorem not_owns_placeholder (contract : Contract) (cell : Nat) :
    ¬(placeholder contract : Fragment σ).Owns cell := by
  rintro ⟨source, bound, -⟩
  cases bound

theorem not_owns_implemented {contract : Contract} {implementation : Implementation σ}
    {fragment : Fragment σ} (made : implemented contract implementation = .ok fragment) (cell : Nat) :
    ¬fragment.Owns cell := by
  rintro ⟨source, bound, -⟩
  rw [implemented] at made
  split at made
  · cases made
    cases bound
  · cases made

/-- Fragments from outside the range are not among those with new cells. -/
theorem Copies.extend {known : Fragment σ → Prop} {low high : Nat} {fragments : List (Fragment σ)}
    (copies : Copies known) (below : ∀ fragment cell, known fragment → fragment.Owns cell → cell < low)
    (new : NewIn low high fragments) :
    Copies fun fragment => known fragment ∨ fragment ∈ fragments := by
  intro left right cell first second ownsLeft ownsRight
  rcases first with old | fresh <;> rcases second with other | recent
  · exact copies old other ownsLeft ownsRight
  · have early := below left cell old ownsLeft
    have late := (new.cells right recent cell ownsRight).1
    omega
  · have late := (new.cells left fresh cell ownsLeft).1
    have early := below right cell other ownsRight
    omega
  · exact new.copies fresh recent ownsLeft ownsRight

end Fragment

namespace Resolver

variable (resolver : Resolver σ) (scope : SearchScope) (interface : Interface)

theorem cell_of_resolve {contract : Contract} {cell other : Nat}
    (owns : (resolver.resolve contract scope interface cell).Owns other) : other = cell := by
  obtain ⟨source, bound, rfl⟩ := owns
  rw [resolve, Resolution.fragment] at bound
  split at bound
  · cases bound
    rfl
  · cases bound

theorem newIn_resolveAll {low high : Nat} {contracts : List Contract}
    (room : low + contracts.length ≤ high) :
    Fragment.NewIn low high (resolver.resolveAll scope interface low contracts) := by
  constructor
  · intro fragment member cell owns
    obtain ⟨number, contract, listed, rfl⟩ := exists_of_mem_resolveAll _ _ _ member
    have bound := (List.getElem?_eq_some_iff.mp listed).1
    rw [cell_of_resolve resolver scope interface owns]
    omega
  · intro left right cell first second ownsLeft ownsRight
    obtain ⟨number, contract, listed, rfl⟩ := exists_of_mem_resolveAll _ _ _ first
    obtain ⟨other, second, listedToo, rfl⟩ := exists_of_mem_resolveAll _ _ _ second
    have here := cell_of_resolve resolver scope interface ownsLeft
    have there := cell_of_resolve resolver scope interface ownsRight
    have same : number = other := by omega
    subst same
    rw [listed] at listedToo
    cases listedToo
    rfl

end Resolver
end FragmentAssembly
