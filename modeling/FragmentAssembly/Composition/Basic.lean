import FragmentAssembly.Fragment.Basic
import FragmentAssembly.Notice

/-!
# Compositions

A composition is the list of a repository's fragments in order of priority, with one slot for each
contract name. Appending never moves a slot: a new contract gets the last slot, an implementation takes
the slot of the placeholder with its contract name, and anything else is dropped.
-/

namespace FragmentAssembly

variable {σ : Type}

/-- The name of the contract of a fragment. -/
def Fragment.contractName (fragment : Fragment σ) : String :=
  fragment.contract.name

/-- What is in the slot of a contract name after another fragment of that name arrives. -/
def Fragment.replacedBy (kept arriving : Fragment σ) : Fragment σ :=
  if !kept.isImplemented && arriving.isImplemented then arriving else kept

namespace Composition

/-- Slots with one more fragment. -/
def place (fragment : Fragment σ) : List (Fragment σ) → List (Fragment σ)
  | [] => [fragment]
  | slot :: others =>
      if slot.contractName = fragment.contractName then
        slot.replacedBy fragment :: others
      else
        slot :: place fragment others

theorem contractNames_place (fragment : Fragment σ) (slots : List (Fragment σ)) :
    (place fragment slots).map Fragment.contractName =
      Distinct.insert (slots.map Fragment.contractName) fragment.contractName := by
  induction slots with
  | nil => rfl
  | cons slot others ih =>
      by_cases same : slot.contractName = fragment.contractName
      · have replaced : (slot.replacedBy fragment).contractName = slot.contractName := by
          unfold Fragment.replacedBy
          split
          · exact same.symm
          · rfl
        simp [place, Distinct.insert, same, replaced]
      · have different : fragment.contractName ≠ slot.contractName := fun h => same h.symm
        by_cases member : fragment.contractName ∈ others.map Fragment.contractName
        · simp [place, Distinct.insert, same, different, ih, member]
        · simp [place, Distinct.insert, same, different, ih, member]

/-- The notice of a fragment that arrives at slots numbered from `number`. -/
def arrivalNotice? (fragment : Fragment σ) (number : Nat) : List (Fragment σ) → Option Notice
  | [] => none
  | slot :: others =>
      if slot.contractName = fragment.contractName then
        if !fragment.isImplemented then
          none
        else if slot.isImplemented then
          some
            (.duplicate fragment.contractName slot.implementationType? fragment.implementationType?)
        else
          some (.filling fragment.contractName number)
      else
        arrivalNotice? fragment (number + 1) others

end Composition

/-- The fragments of a repository, in order of priority. -/
structure Composition (σ : Type) where
  /-- Name of the interface that the composition serves, once it is attached to one. -/
  interface? : Option String
  /-- The fragments, from the first to the last consulted. -/
  slots : List (Fragment σ)
  /-- No contract name has two slots. -/
  nodup : (slots.map Fragment.contractName).Nodup

namespace Composition

/-- A composition without fragments. -/
def empty : Composition σ := ⟨none, [], by simp⟩

/-- Add a fragment. -/
def append (composition : Composition σ) (fragment : Fragment σ) : Composition σ where
  interface? := composition.interface?
  slots := place fragment composition.slots
  nodup := by
    rw [contractNames_place]
    exact Distinct.nodup_insert composition.nodup fragment.contractName

/-- Add fragments in order. -/
def appendAll (composition : Composition σ) (fragments : List (Fragment σ)) : Composition σ :=
  fragments.foldl append composition

/-- The notices of adding fragments in order. -/
def appendNotices (composition : Composition σ) : List (Fragment σ) → List Notice
  | [] => []
  | fragment :: others =>
      (arrivalNotice? fragment 0 composition.slots).toList ++
        (composition.append fragment).appendNotices others

/-- The composition of a list of fragments. -/
def ofList (fragments : List (Fragment σ)) : Composition σ :=
  empty.appendAll fragments

/-- Attach a composition to an interface. -/
def attach (composition : Composition σ) (interface : String) : Composition σ :=
  { composition with interface? := some interface }

/-- The name of the interface, or a stand-in for it. -/
def interfaceName (composition : Composition σ) : String :=
  composition.interface?.getD "<unbound repository>"

/-- The number of slots. -/
def size (composition : Composition σ) : Nat :=
  composition.slots.length

/-- Whether there are no slots. -/
def isEmpty (composition : Composition σ) : Bool :=
  composition.slots.isEmpty

/-- The fragments without implementation. -/
def placeholders (composition : Composition σ) : List (Fragment σ) :=
  composition.slots.filter (!·.isImplemented)

/-- The fragment in the slot of a contract's name. -/
def fragmentFor? (composition : Composition σ) (contract : Contract) : Option (Fragment σ) :=
  composition.slots.find? fun fragment => fragment.contractName = contract.name

/-- The first fragment that declares a method. -/
def declaring? (composition : Composition σ) (method : Signature) : Option (Fragment σ) :=
  composition.slots.find? (·.hasMethod method)

/-- The fragment that answers a method: the first one that declares it, even if later ones declare it
too. That one must be implemented. -/
def findMethod (composition : Composition σ) (method : Signature) :
    Except Error (Option (Fragment σ)) :=
  match composition.declaring? method with
  | none => .ok none
  | some fragment =>
      if fragment.isImplemented then
        .ok (some fragment)
      else
        .error (.noImplementation composition.interfaceName fragment.contract)

/-- Fail for the first placeholder. -/
def requireImplemented (composition : Composition σ) : Except Error Unit :=
  match composition.placeholders with
  | [] => .ok ()
  | fragment :: _ => .error (.noImplementation composition.interfaceName fragment.contract)

end Composition
end FragmentAssembly
