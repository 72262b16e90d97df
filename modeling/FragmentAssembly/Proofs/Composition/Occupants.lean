import FragmentAssembly.Proofs.Composition.Placing
import FragmentAssembly.Proofs.FirstOfKey

/-!
# The occupants of a composition

However a composition was put together, its slots can be read off the fragments that were given for it.
The contract names have their slots in order of first appearance. In the slot of a name is the first
implemented fragment of that name, or the first one of that name while none is implemented.
-/

namespace FragmentAssembly

variable {σ : Type}

namespace Composition

/-- What occupies the slot of a contract name once the fragments of a sequence have arrived: the first
implemented one of that name, or else the first one of that name. -/
def occupant? (sequence : List (Fragment σ)) (name : String) : Option (Fragment σ) :=
  (sequence.find? fun fragment => fragment.contractName = name && fragment.isImplemented).or
    (sequence.find? fun fragment => fragment.contractName = name)

/-- The fragment in the slot of a contract name. -/
def slotOf? (slots : List (Fragment σ)) (name : String) : Option (Fragment σ) :=
  slots.find? fun slot => slot.contractName = name

theorem contractName_of_slotOf? {slots : List (Fragment σ)} {name : String} {slot : Fragment σ}
    (found : slotOf? slots name = some slot) : slot.contractName = name := by
  have chosen := List.find?_some found
  exact of_decide_eq_true chosen

theorem slotOf?_contractName {slots : List (Fragment σ)}
    (nodup : (slots.map Fragment.contractName).Nodup) {slot : Fragment σ} (member : slot ∈ slots) :
    slotOf? slots slot.contractName = some slot :=
  Distinct.find?_of_nodup nodup member

theorem map_some_slots {slots : List (Fragment σ)}
    (nodup : (slots.map Fragment.contractName).Nodup) :
    slots.map some = (slots.map Fragment.contractName).map (slotOf? slots) := by
  rw [List.map_map]
  exact List.map_congr_left fun slot member => (slotOf?_contractName nodup member).symm

/-- A fragment that arrives can change the slot of its contract name only. -/
theorem slotOf?_place (fragment : Fragment σ) (slots : List (Fragment σ)) (name : String) :
    slotOf? (place fragment slots) name =
      if fragment.contractName = name then
        some ((slotOf? slots name).elim fragment (·.replacedBy fragment))
      else
        slotOf? slots name := by
  induction slots with
  | nil =>
      by_cases same : fragment.contractName = name
      · simp [place, slotOf?, same]
      · simp [place, slotOf?, same]
  | cons slot others ih =>
      by_cases known : slot.contractName = fragment.contractName
      · have kept : (slot.replacedBy fragment).contractName = slot.contractName := by
          rw [Fragment.replacedBy]
          split
          · exact known.symm
          · rfl
        by_cases same : fragment.contractName = name
        · simp [place, slotOf?, known, same, kept]
        · simp [place, slotOf?, known, same, kept]
      · by_cases same : slot.contractName = name
        · subst same
          simp [place, slotOf?, known, Ne.symm known]
        · simpa [place, slotOf?, known, same] using ih

/-- The occupant changes with one more fragment as its slot does. -/
theorem occupant?_concat (sequence : List (Fragment σ)) (fragment : Fragment σ) (name : String) :
    occupant? (sequence ++ [fragment]) name =
      if fragment.contractName = name then
        some ((occupant? sequence name).elim fragment (·.replacedBy fragment))
      else
        occupant? sequence name := by
  rw [occupant?, occupant?, List.find?_append, List.find?_append, List.find?_singleton,
    List.find?_singleton]
  by_cases same : fragment.contractName = name
  · cases implemented : sequence.find? fun other =>
        other.contractName = name && other.isImplemented with
    | some settled =>
        have present : settled.isImplemented = true := by
          have chosen := List.find?_some implemented
          exact (Bool.and_eq_true_iff.mp chosen).2
        simp [same, Fragment.replacedBy, present]
    | none =>
        cases first : sequence.find? fun other => other.contractName = name with
        | none => cases fragment.isImplemented <;> simp [same]
        | some waiting =>
            have named : waiting.contractName = name := contractName_of_slotOf? first
            have missing : waiting.isImplemented = false := by
              have rejected := List.find?_eq_none.mp implemented waiting
                (List.mem_of_find?_eq_some first)
              simpa [named] using rejected
            cases arriving : fragment.isImplemented
            · simp [same, arriving, Fragment.replacedBy]
            · simp [same, arriving, Fragment.replacedBy, missing]
  · simp [same]

/-- Slots hold the occupants that a sequence of fragments has for their contract names. -/
def Occupied (sequence slots : List (Fragment σ)) : Prop :=
  ∀ name, slotOf? slots name = occupant? sequence name

theorem occupied_self {slots : List (Fragment σ)}
    (nodup : (slots.map Fragment.contractName).Nodup) : Occupied slots slots := by
  intro name
  rw [occupant?]
  cases implemented : slots.find? fun slot => slot.contractName = name && slot.isImplemented with
  | none => rfl
  | some slot =>
      have chosen := List.find?_some implemented
      have named : slot.contractName = name := by
        simpa using (Bool.and_eq_true_iff.mp chosen).1
      rw [Option.some_or, ← named]
      exact slotOf?_contractName nodup (List.mem_of_find?_eq_some implemented)

theorem Occupied.place {sequence slots : List (Fragment σ)} (occupied : Occupied sequence slots)
    (fragment : Fragment σ) : Occupied (sequence ++ [fragment]) (place fragment slots) := by
  intro name
  rw [slotOf?_place, occupant?_concat, occupied name]

theorem Occupied.appendAll {sequence : List (Fragment σ)} {composition : Composition σ}
    (occupied : Occupied sequence composition.slots) (fragments : List (Fragment σ)) :
    Occupied (sequence ++ fragments) (composition.appendAll fragments).slots := by
  induction fragments generalizing sequence composition with
  | nil => simpa [Composition.appendAll] using occupied
  | cons fragment others ih =>
      have placed : Occupied (sequence ++ [fragment]) (composition.append fragment).slots :=
        occupied.place fragment
      have behind := ih placed
      rw [List.append_assoc, List.singleton_append] at behind
      exact behind

/-- The slots after appending fragments, by contract name: the names in order of first appearance. -/
theorem contractNames_appendAll (composition : Composition σ) (fragments : List (Fragment σ)) :
    (composition.appendAll fragments).slots.map Fragment.contractName =
      Distinct.insertAll (composition.slots.map Fragment.contractName)
        (fragments.map Fragment.contractName) := by
  induction fragments generalizing composition with
  | nil => rfl
  | cons fragment others ih =>
      have placed : (composition.append fragment).slots.map Fragment.contractName =
          Distinct.insert (composition.slots.map Fragment.contractName) fragment.contractName :=
        contractNames_place fragment composition.slots
      rw [appendAll, List.foldl_cons]
      exact (ih (composition.append fragment)).trans (by rw [placed]; rfl)

/-- Appending fragments never moves a slot, and never replaces an implemented fragment. -/
theorem getElem?_appendAll {composition : Composition σ} (fragments : List (Fragment σ)) {number : Nat}
    {slot : Fragment σ} (placed : composition.slots[number]? = some slot) :
    ∃ occupant, (composition.appendAll fragments).slots[number]? = some occupant ∧
      occupant.contractName = slot.contractName ∧ (slot.isImplemented = true → occupant = slot) := by
  refine ⟨_, getElem?_appendAll_eq fragments placed, ?_, fun present => if_pos present⟩
  split
  · rfl
  · cases arrived : firstImplemented? fragments slot.contractName with
    | none => rfl
    | some fragment => exact (mem_of_firstImplemented? arrived).2.1

end Composition

/-- The ways to put a composition together. -/
inductive Composition.Construction (σ : Type) where
  /-- No fragments. -/
  | empty
  /-- A list of fragments. -/
  | ofList (fragments : List (Fragment σ))
  /-- One more fragment. -/
  | append (earlier : Construction σ) (fragment : Fragment σ)
  /-- More fragments. -/
  | appendAll (earlier : Construction σ) (fragments : List (Fragment σ))
  /-- The same fragments, for an interface. -/
  | attach (earlier : Construction σ) (interface : String)

namespace Composition

namespace Construction

/-- The composition that is put together. -/
def composition : Construction σ → Composition σ
  | .empty => .empty
  | .ofList fragments => .ofList fragments
  | .append earlier fragment => earlier.composition.append fragment
  | .appendAll earlier fragments => earlier.composition.appendAll fragments
  | .attach earlier interface => earlier.composition.attach interface

/-- All fragments that were given, from the first to the last. -/
def given : Construction σ → List (Fragment σ)
  | .empty => []
  | .ofList fragments => fragments
  | .append earlier fragment => earlier.given ++ [fragment]
  | .appendAll earlier fragments => earlier.given ++ fragments
  | .attach earlier _ => earlier.given

/-- However a composition was put together, its slots hold the occupants of all that was given. -/
theorem occupied (construction : Construction σ) :
    Occupied construction.given construction.composition.slots := by
  induction construction with
  | empty => exact fun _ => rfl
  | ofList fragments => exact (occupied_self Composition.empty.nodup).appendAll fragments
  | append earlier fragment ih => exact ih.place fragment
  | appendAll earlier fragments ih => exact ih.appendAll fragments
  | attach earlier interface ih => exact ih

/-- However a composition was put together, the contract names have their slots in order of first
appearance. -/
theorem contractNames (construction : Construction σ) :
    construction.composition.slots.map Fragment.contractName =
      Distinct.insertAll [] (construction.given.map Fragment.contractName) := by
  induction construction with
  | empty => rfl
  | ofList fragments => exact contractNames_appendAll .empty fragments
  | append earlier fragment ih =>
      rw [given, List.map_append, Distinct.insertAll_append, ← ih]
      exact contractNames_place fragment earlier.composition.slots
  | appendAll earlier fragments ih =>
      rw [given, List.map_append, Distinct.insertAll_append, ← ih]
      exact contractNames_appendAll earlier.composition fragments
  | attach earlier interface ih => exact ih

/-- The slots of a composition, however it was put together, have different contract names, and they
are read off all that was given for it. Appending a list of fragments keeps the interface and gives one
slot to each contract name of the slots and the list, in order of first appearance; the first implemented
fragment of the name occupies it, or the first one of the name if none is implemented. So every slot
stays where it is, with the same contract name, and an implemented fragment stays in its slot. -/
theorem slots_appendAll_eq_occupants (construction : Construction σ)
    (fragments : List (Fragment σ)) :
    let composition := construction.composition
    let extended := composition.appendAll fragments
    let names := fun slots : List (Fragment σ) => slots.map Fragment.contractName
    (names composition.slots).Nodup ∧
      names composition.slots = (names construction.given).eraseDups ∧
      composition.slots.map some = (names composition.slots).map (occupant? construction.given) ∧
      extended.interface? = composition.interface? ∧
      names extended.slots = (names (composition.slots ++ fragments)).eraseDups ∧
      extended.slots.map some =
        (names extended.slots).map (occupant? (composition.slots ++ fragments)) ∧
      ∀ (number : Nat) (slot : Fragment σ), composition.slots[number]? = some slot →
        ∃ occupant, extended.slots[number]? = some occupant ∧
          occupant.contractName = slot.contractName ∧
          (slot.isImplemented = true → occupant = slot) := by
  intro composition extended names
  have distinct : (names composition.slots).Nodup := by
    have started : names composition.slots = Distinct.insertAll [] (names construction.given) :=
      construction.contractNames
    rw [started]
    exact Distinct.nodup_insertAll List.nodup_nil _
  have read : ∀ {sequence slots : List (Fragment σ)}, (names slots).Nodup → Occupied sequence slots →
      slots.map some = (names slots).map (occupant? sequence) := by
    intro sequence slots nodup occupied
    rw [map_some_slots nodup]
    exact List.map_congr_left fun name _ => occupied name
  refine ⟨distinct, ?_, read distinct construction.occupied, interface?_appendAll composition fragments,
    ?_, read extended.nodup ((occupied_self distinct).appendAll fragments), ?_⟩
  · rw [← Distinct.insertAll_nil]
    exact construction.contractNames
  · have appended : names extended.slots =
        Distinct.insertAll (names composition.slots) (names fragments) :=
      contractNames_appendAll composition fragments
    rw [appended, Distinct.insertAll_eq_eraseDups distinct, ← List.map_append]
  · intro number slot placed
    exact getElem?_appendAll fragments placed

end Construction
end Composition
end FragmentAssembly
