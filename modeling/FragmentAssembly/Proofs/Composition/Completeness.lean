import FragmentAssembly.Proofs.Resolution.Outline

/-!
# Complete compositions

A composition is complete if no slot is a placeholder; otherwise there is a first placeholder. The outlines
of the slots tell which of the two is the case and where that placeholder stands.
-/

namespace FragmentAssembly

variable {σ : Type}

namespace Composition

/-- Every slot has an implementation. -/
def Complete (composition : Composition σ) : Prop :=
  ∀ fragment ∈ composition.slots, fragment.isImplemented = true

/-- The first slot without implementation. -/
structure FirstPlaceholder (composition : Composition σ) (fragment : Fragment σ) : Prop where
  /-- The fragment stands behind slots with implementations. -/
  split : ∃ front back, composition.slots = front ++ fragment :: back ∧
    ∀ other ∈ front, other.isImplemented = true
  /-- The fragment has no implementation. -/
  missing : fragment.isImplemented = false

theorem complete_or_firstPlaceholder (composition : Composition σ) :
    composition.Complete ∨ ∃ fragment, composition.FirstPlaceholder fragment := by
  cases searched : composition.slots.find? (!·.isImplemented) with
  | none =>
      left
      intro fragment member
      have implemented := List.find?_eq_none.mp searched fragment member
      simpa using implemented
  | some fragment =>
      obtain ⟨missing, front, back, split, before⟩ := List.find?_eq_some_iff_append.mp searched
      right
      refine ⟨fragment, ⟨front, back, split, ?_⟩, by simpa using missing⟩
      intro other member
      simpa using before other member

theorem requireImplemented_of_complete {composition : Composition σ}
    (complete : composition.Complete) : composition.requireImplemented = .ok () := by
  have none : composition.placeholders = [] := by
    rw [placeholders, List.filter_eq_nil_iff]
    intro fragment member
    simp [complete fragment member]
  rw [requireImplemented, none]

theorem requireImplemented_of_firstPlaceholder {composition : Composition σ} {fragment : Fragment σ}
    (first : composition.FirstPlaceholder fragment) :
    composition.requireImplemented =
      .error (.noImplementation composition.interfaceName fragment.contract) := by
  obtain ⟨front, back, split, before⟩ := first.split
  have skipped : front.filter (!·.isImplemented) = [] := by
    rw [List.filter_eq_nil_iff]
    intro other member
    simp [before other member]
  have found : composition.placeholders = fragment :: back.filter (!·.isImplemented) := by
    rw [placeholders, split, List.filter_append, skipped, List.nil_append,
      List.filter_cons_of_pos (by simp [first.missing])]
  rw [requireImplemented, found]

theorem FirstPlaceholder.of_outline {composition other : Composition σ} {fragment : Fragment σ}
    (first : composition.FirstPlaceholder fragment)
    (same : composition.slots.map Fragment.outline = other.slots.map Fragment.outline) :
    ∃ twin, other.FirstPlaceholder twin ∧ twin.contract = fragment.contract := by
  obtain ⟨front, back, split, before⟩ := first.split
  rw [split, List.map_append, List.map_cons] at same
  obtain ⟨ahead, behind, split, aheads, behinds⟩ := List.map_eq_append_iff.mp same.symm
  obtain ⟨twin, others, rfl, outlines, -⟩ := List.map_eq_cons_iff.mp behinds
  refine ⟨twin, ⟨⟨ahead, others, split, ?_⟩, ?_⟩, congrArg Prod.fst outlines⟩
  · intro slot member
    have listed : slot.outline ∈ front.map Fragment.outline := by
      rw [← aheads]
      exact List.mem_map_of_mem member
    obtain ⟨original, present, outlines⟩ := List.mem_map.mp listed
    rw [← Fragment.isImplemented_eq_of_outline outlines]
    exact before original present
  · rw [Fragment.isImplemented_eq_of_outline outlines]
    exact first.missing

theorem Complete.of_outline {composition other : Composition σ} (complete : composition.Complete)
    (same : composition.slots.map Fragment.outline = other.slots.map Fragment.outline) :
    other.Complete := by
  rcases other.complete_or_firstPlaceholder with complete_too | ⟨fragment, first⟩
  · exact complete_too
  · obtain ⟨twin, ⟨⟨front, back, split, -⟩, missing⟩, -⟩ := first.of_outline same.symm
    have implemented := complete twin (by simp [split])
    rw [missing] at implemented
    cases implemented

end Composition
end FragmentAssembly
