import Mathlib.Data.List.Forall2
import FragmentAssembly.Composition.Basic

/-!
# Where appended fragments go

Appending looks for the slot of the contract name. Without one, the fragment gets a new slot at the end;
with one, only that slot can change, and only from a placeholder to an implementation.
-/

namespace FragmentAssembly

variable {σ : Type}

namespace Fragment

theorem replacedBy_of_not_implemented {kept arriving : Fragment σ}
    (absent : arriving.isImplemented = false) : kept.replacedBy arriving = kept := by
  simp [replacedBy, absent]

theorem replacedBy_of_implemented {kept arriving : Fragment σ}
    (waiting : kept.isImplemented = false) (present : arriving.isImplemented = true) :
    kept.replacedBy arriving = arriving := by
  simp [replacedBy, waiting, present]

end Fragment

namespace Composition

theorem place_of_notMem {fragment : Fragment σ} {slots : List (Fragment σ)}
    (absent : fragment.contractName ∉ slots.map Fragment.contractName) :
    place fragment slots = slots ++ [fragment] := by
  induction slots with
  | nil => rfl
  | cons slot others ih =>
      rw [List.map_cons, List.mem_cons, not_or] at absent
      rw [place, if_neg (Ne.symm absent.1), ih absent.2, List.cons_append]

/-- Slots of other contract names stay in front of what happens behind them. -/
theorem place_append_of_notMem {fragment : Fragment σ} {front : List (Fragment σ)}
    (absent : fragment.contractName ∉ front.map Fragment.contractName) (back : List (Fragment σ)) :
    place fragment (front ++ back) = front ++ place fragment back := by
  induction front with
  | nil => rfl
  | cons slot others ih =>
      rw [List.map_cons, List.mem_cons, not_or] at absent
      rw [List.cons_append, place, if_neg (Ne.symm absent.1), ih absent.2, List.cons_append]

theorem place_of_not_implemented {fragment : Fragment σ} (absent : fragment.isImplemented = false)
    (slots : List (Fragment σ)) :
    place fragment slots = Distinct.insertBy Fragment.contractName slots fragment := by
  rw [Distinct.insertBy]
  split
  · rename_i present
    induction slots with
    | nil => simp at present
    | cons slot others ih =>
        rw [place]
        split
        · rw [Fragment.replacedBy_of_not_implemented absent]
        · rename_i different
          rw [List.map_cons, List.mem_cons] at present
          rw [ih (present.resolve_left (Ne.symm different))]
  · rename_i new
    exact place_of_notMem new

/-- A fragment of a known contract name can change the slot of that name only. -/
theorem place_of_mem {fragment : Fragment σ} {slots : List (Fragment σ)}
    (nodup : (slots.map Fragment.contractName).Nodup)
    (present : fragment.contractName ∈ slots.map Fragment.contractName) :
    place fragment slots = slots.map fun slot =>
      if slot.contractName = fragment.contractName then slot.replacedBy fragment else slot := by
  induction slots with
  | nil => simp at present
  | cons slot others ih =>
      rw [List.map_cons, List.nodup_cons] at nodup
      by_cases same : slot.contractName = fragment.contractName
      · have kept : ∀ other ∈ others, other.contractName ≠ fragment.contractName := by
          intro other member equal
          apply nodup.1
          rw [same, ← equal]
          exact List.mem_map_of_mem member
        rw [place, if_pos same, List.map_cons, if_pos same]
        congr 1
        symm
        calc
          (others.map fun other =>
              if other.contractName = fragment.contractName then other.replacedBy fragment else other) =
              others.map id := List.map_congr_left fun other member => if_neg (kept other member)
          _ = others := List.map_id others
      · have behind : fragment.contractName ∈ others.map Fragment.contractName := by
          rw [List.map_cons, List.mem_cons] at present
          exact present.resolve_left (Ne.symm same)
        rw [place, if_neg same, List.map_cons, if_neg same, ih nodup.2 behind]

theorem mem_place {fragment slot : Fragment σ} {slots : List (Fragment σ)}
    (member : slot ∈ place fragment slots) : slot = fragment ∨ slot ∈ slots := by
  induction slots with
  | nil =>
      rw [place, List.mem_singleton] at member
      exact .inl member
  | cons first others ih =>
      rw [place] at member
      split at member
      · rcases List.mem_cons.mp member with same | behind
        · rw [Fragment.replacedBy] at same
          split at same
          · exact .inl same
          · exact .inr (same ▸ List.mem_cons_self)
        · exact .inr (List.mem_cons_of_mem _ behind)
      · rcases List.mem_cons.mp member with same | behind
        · exact .inr (same ▸ List.mem_cons_self)
        · exact (ih behind).imp_right (List.mem_cons_of_mem _)

section Related

variable {R : Fragment σ → Fragment σ → Prop}
  (names : ∀ {slot twin}, R slot twin → slot.contractName = twin.contractName)
  (implemented : ∀ {slot twin}, R slot twin → slot.isImplemented = twin.isImplemented)

include names implemented

/-- Related fragments are placed alike among related slots, if the relation keeps what decides where a
fragment is placed. -/
theorem forall₂_place {fragment twin : Fragment σ} (arriving : R fragment twin)
    {slots others : List (Fragment σ)} (related : List.Forall₂ R slots others) :
    List.Forall₂ R (place fragment slots) (place twin others) := by
  induction related with
  | nil => exact .cons arriving .nil
  | @cons slot other slots others first behind ih =>
      rw [place, place, names first, names arriving]
      split
      · refine .cons ?_ behind
        rw [Fragment.replacedBy, Fragment.replacedBy, implemented first, implemented arriving]
        split
        · exact arriving
        · exact first
      · exact .cons first ih

end Related

theorem slots_append (composition : Composition σ) (fragment : Fragment σ) :
    (composition.append fragment).slots = place fragment composition.slots :=
  rfl

theorem slots_appendAll (composition : Composition σ) (fragments : List (Fragment σ)) :
    (composition.appendAll fragments).slots =
      fragments.foldl (fun slots fragment => place fragment slots) composition.slots := by
  induction fragments generalizing composition with
  | nil => rfl
  | cons fragment others ih => exact ih (composition.append fragment)

theorem mem_slots_appendAll {composition : Composition σ} {fragments : List (Fragment σ)}
    {slot : Fragment σ} (member : slot ∈ (composition.appendAll fragments).slots) :
    slot ∈ composition.slots ∨ slot ∈ fragments := by
  induction fragments generalizing composition with
  | nil => exact .inl member
  | cons fragment others ih =>
      rcases ih member with placed | behind
      · rcases mem_place placed with rfl | before
        · exact .inr List.mem_cons_self
        · exact .inl before
      · exact .inr (List.mem_cons_of_mem fragment behind)

theorem interface?_appendAll (composition : Composition σ) (fragments : List (Fragment σ)) :
    (composition.appendAll fragments).interface? = composition.interface? := by
  induction fragments generalizing composition with
  | nil => rfl
  | cons fragment others ih => exact ih (composition.append fragment)

/-! ## Slot by slot -/

/-- The first implemented fragment of a contract name. -/
def firstImplemented? (fragments : List (Fragment σ)) (name : String) : Option (Fragment σ) :=
  fragments.find? fun fragment => fragment.contractName = name && fragment.isImplemented

theorem mem_of_firstImplemented? {fragments : List (Fragment σ)} {name : String}
    {fragment : Fragment σ} (first : firstImplemented? fragments name = some fragment) :
    fragment ∈ fragments ∧ fragment.contractName = name ∧ fragment.isImplemented = true := by
  have chosen := List.find?_some first
  rw [Bool.and_eq_true, decide_eq_true_eq] at chosen
  exact ⟨List.mem_of_find?_eq_some first, chosen⟩

theorem getElem?_append {composition : Composition σ} (fragment : Fragment σ) {number : Nat}
    {slot : Fragment σ} (placed : composition.slots[number]? = some slot) :
    (composition.append fragment).slots[number]? =
      some (if slot.contractName = fragment.contractName then
        slot.replacedBy fragment
      else
        slot) := by
  rw [slots_append]
  by_cases known : fragment.contractName ∈ composition.slots.map Fragment.contractName
  · rw [place_of_mem composition.nodup known, List.getElem?_map, placed, Option.map_some]
  · have different : slot.contractName ≠ fragment.contractName := by
      intro same
      exact known (same ▸ List.mem_map_of_mem (List.mem_of_getElem? placed))
    have within := (List.getElem?_eq_some_iff.mp placed).1
    rw [place_of_notMem known, List.getElem?_append_left within, placed, if_neg different]

/-- A slot keeps an implemented fragment. A placeholder gives way to the first implemented fragment of its
contract name. -/
theorem getElem?_appendAll_eq {composition : Composition σ} (fragments : List (Fragment σ))
    {number : Nat} {slot : Fragment σ} (placed : composition.slots[number]? = some slot) :
    (composition.appendAll fragments).slots[number]? =
      some (if slot.isImplemented then
        slot
      else
        (firstImplemented? fragments slot.contractName).getD slot) := by
  induction fragments generalizing composition slot with
  | nil => simpa [appendAll, firstImplemented?] using placed
  | cons fragment others ih =>
      have behind := ih (getElem?_append fragment placed)
      rw [appendAll, List.foldl_cons]
      refine behind.trans (congrArg some ?_)
      by_cases same : slot.contractName = fragment.contractName
      · cases present : slot.isImplemented with
        | true => simp [same, Fragment.replacedBy, present]
        | false =>
            cases arriving : fragment.isImplemented with
            | true => simp [same, Fragment.replacedBy, present, arriving, firstImplemented?]
            | false => simp [same, Fragment.replacedBy, present, arriving, firstImplemented?]
      · simp [same, Ne.symm same, firstImplemented?]

end Composition
end FragmentAssembly
